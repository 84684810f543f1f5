import ManifestSarif.Json.Number

/-!
# Data as JSON

Values with texts and numbers, as they are written and checked.

* `Data.write` is the compact text of a value: no white space, members in their order,
* `Data.member?` looks a member up.
-/

namespace ManifestSarif.Json

/-- A value that is written as JSON. -/
inductive Data where
  | null
  | bool (b : Bool)
  | number (n : Number)
  | text (s : String)
  | list (items : List Data)
  | object (members : List (String × Data))
deriving Repr

namespace Data

/-- A character in a string: the quote, the backslash and the controls are escaped. -/
def escape (c : Char) : List Char :=
  match c with
  | '"' => ['\\', '"']
  | '\\' => ['\\', '\\']
  | '\x08' => ['\\', 'b']
  | '\x0c' => ['\\', 'f']
  | '\n' => ['\\', 'n']
  | '\r' => ['\\', 'r']
  | '\t' => ['\\', 't']
  | c =>
    if c.toNat < 0x20 then
      ['\\', 'u', '0', '0', Nat.digitChar (c.toNat / 16), Nat.digitChar (c.toNat % 16)]
    else [c]

/-- A text in quotes. -/
def quote (s : String) : String :=
  "\"" ++ String.ofList (s.toList.flatMap escape) ++ "\""

mutual

/-- The compact text of a value. -/
def write : Data → String
  | null => "null"
  | bool b => if b then "true" else "false"
  | number n => n.write
  | text s => quote s
  | list items => "[" ++ String.intercalate "," (writeItems items) ++ "]"
  | object members => "\x7b" ++ String.intercalate "," (writeMembers members) ++ "\x7d"

/-- The texts of items. -/
def writeItems : List Data → List String
  | [] => []
  | item :: rest => item.write :: writeItems rest

/-- The texts of members. -/
def writeMembers : List (String × Data) → List String
  | [] => []
  | (name, value) :: rest => (quote name ++ ":" ++ value.write) :: writeMembers rest

end

/-- The value of the first member with the name. -/
def member? (members : List (String × Data)) (name : String) : Option Data :=
  members.lookup name

/-- A natural number as data. -/
def ofNat (n : Nat) : Data :=
  .number (.ofInt n)

end Data

end ManifestSarif.Json
