import ManifestSarif.Json.Token

/-!
# Values of JSON

The tree of a JSON text, with numerals and strings as they are written and object members in their
order.  A text that breaks the grammar still has a value in part: the tree up to the place where
the grammar is broken, and what stands there.

* `Value` is a complete value, `Partial` one that breaks off,
* `Document.ofText` reads the value that a text starts with.

The values are read by a machine over the tokens whose stack holds the containers that are open, so
nesting has no limit here.
-/

namespace ManifestSarif.Json

/-- A complete value. -/
inductive Value where
  | null
  | bool (b : Bool)
  | number (numeral : Numeral)
  | text (pieces : Quotation)
  | array (items : List Value)
  | object (members : List (Quotation × Value))
deriving Repr

/-- What stands where an item or the end of an array is due. -/
inductive ListGap where
  /-- The text ends after the bracket or an item. -/
  | endOfText
  /-- Neither a comma nor the end of the array follows an item. -/
  | noComma
  /-- The array ends after a comma. -/
  | commaThenClose
  /-- The text ends after a comma. -/
  | commaThenEnd
deriving DecidableEq, Repr

/-- What stands where a key or the end of an object is due. -/
inductive ObjectGap where
  /-- The text ends after the brace or a member. -/
  | endOfText
  /-- No key and no end of the object follows the brace. -/
  | noKey
  /-- Neither a comma nor the end of the object follows a member. -/
  | noComma
  /-- The object ends after a comma. -/
  | commaThenClose
  /-- The text ends after a comma. -/
  | commaThenEnd
  /-- No key follows a comma. -/
  | commaThenNoKey
deriving DecidableEq, Repr

/-- What stands where a value is due. -/
inductive Obstacle where
  | endOfText
  | flaw (flaw : Flaw)
  /-- A token that starts no value. -/
  | token
deriving DecidableEq, Repr

/-- A value that breaks off. -/
inductive Partial where
  | atStart (obstacle : Obstacle)
  | arrayGap (items : List Value) (gap : ListGap)
  | arrayItem (items : List Value) (item : Partial)
  | objectGap (members : List (Quotation × Value)) (gap : ObjectGap)
  /-- A key that is broken. -/
  | objectKey (members : List (Quotation × Value)) (pieces : Quotation) (flaw : QuotationFlaw)
  /-- A key without a colon after it, whether or not the text ends there. -/
  | objectColon (members : List (Quotation × Value)) (key : Quotation) (endOfText : Bool)
  | objectMember (members : List (Quotation × Value)) (key : Quotation) (value : Partial)
deriving Repr

/-- A container that is open, with what it holds in reverse order. -/
inductive Frame where
  | array (items : List Value)
  | object (members : List (Quotation × Value)) (key : Quotation)

/-- The open containers around a value that breaks off. -/
def Frame.enclose (stack : List Frame) (value : Partial) : Partial :=
  stack.foldl (fun value frame =>
    match frame with
    | .array items => .arrayItem items.reverse value
    | .object members key => .objectMember members.reverse key value) value

/-- What a text starts with. -/
inductive Document where
  /-- A complete value, and whether anything but white space follows it. -/
  | complete (value : Value) (trailing : Bool)
  | broken (value : Partial)

namespace Document

/-- What stands where no further token was read. -/
def obstacle : Option Flaw → Obstacle
  | none => .endOfText
  | some flaw => .flaw flaw

/-- A key whose string is broken, or else a gap. -/
def keyGap (members : List (Quotation × Value)) (gap : ObjectGap) : Option Flaw → Partial
  | some (.quotation pieces flaw) => .objectKey members.reverse pieces flaw
  | _ => .objectGap members.reverse gap

mutual

/-- Goes on where a value is due. -/
def readValue (flaw : Option Flaw) (stack : List Frame) : List Token → Document
  | [] => .broken (Frame.enclose stack (.atStart (obstacle flaw)))
  | .null :: rest => resume flaw stack .null rest
  | .bool b :: rest => resume flaw stack (.bool b) rest
  | .number numeral :: rest => resume flaw stack (.number numeral) rest
  | .quotation pieces :: rest => resume flaw stack (.text pieces) rest
  | .openArray :: .closeArray :: rest => resume flaw stack (.array []) rest
  | .openArray :: rest =>
    if rest.isEmpty && flaw.isNone then
      .broken (Frame.enclose stack (.arrayGap [] .endOfText))
    else readValue flaw (.array [] :: stack) rest
  | .openObject :: .closeObject :: rest => resume flaw stack (.object []) rest
  | .openObject :: rest =>
    readMember flaw stack [] (if flaw.isNone then .endOfText else .noKey) .noKey rest
  | _ :: _ => .broken (Frame.enclose stack (.atStart .token))

/-- Goes on where a member of an object is due; `atEnd` and `otherwise` tell what stands there if
the tokens end or another one than a key comes first. -/
def readMember (flaw : Option Flaw) (stack : List Frame) (members : List (Quotation × Value))
    (atEnd otherwise : ObjectGap) : List Token → Document
  | [] => .broken (Frame.enclose stack (keyGap members atEnd flaw))
  | .quotation key :: .colon :: rest => readValue flaw (.object members key :: stack) rest
  | .quotation key :: rest =>
    .broken (Frame.enclose stack
      (.objectColon members.reverse key (rest.isEmpty && flaw.isNone)))
  | _ :: _ => .broken (Frame.enclose stack (.objectGap members.reverse otherwise))

/-- Goes on after a complete value. -/
def resume (flaw : Option Flaw) (stack : List Frame) (value : Value) : List Token → Document
  | [] =>
    match stack with
    | [] => .complete value flaw.isSome
    | .array items :: stack =>
      .broken (Frame.enclose stack
        (.arrayGap (value :: items).reverse (if flaw.isNone then .endOfText else .noComma)))
    | .object members key :: stack =>
      .broken (Frame.enclose stack
        (.objectGap ((key, value) :: members).reverse
          (if flaw.isNone then .endOfText else .noComma)))
  | token :: rest =>
    match stack with
    | [] => .complete value true
    | .array items :: stack =>
      let items := value :: items
      match token with
      | .closeArray => resume flaw stack (.array items.reverse) rest
      | .comma =>
        if rest.head? = some .closeArray then
          .broken (Frame.enclose stack (.arrayGap items.reverse .commaThenClose))
        else if rest.isEmpty && flaw.isNone then
          .broken (Frame.enclose stack (.arrayGap items.reverse .commaThenEnd))
        else readValue flaw (.array items :: stack) rest
      | _ => .broken (Frame.enclose stack (.arrayGap items.reverse .noComma))
    | .object members key :: stack =>
      let members := (key, value) :: members
      match token with
      | .closeObject => resume flaw stack (.object members.reverse) rest
      | .comma =>
        if rest.head? = some .closeObject then
          .broken (Frame.enclose stack (.objectGap members.reverse .commaThenClose))
        else
          readMember flaw stack members (if flaw.isNone then .commaThenEnd else .commaThenNoKey)
            .commaThenNoKey rest
      | _ => .broken (Frame.enclose stack (.objectGap members.reverse .noComma))

end

/-- The value that the text starts with. -/
def ofText (text : List Char) : Document :=
  let scan := scan text
  readValue scan.flaw [] scan.tokens

end Document

end ManifestSarif.Json
