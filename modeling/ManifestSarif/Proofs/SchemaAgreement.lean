import ManifestSarif.Sarif.Schema

/-!
# What a schema asks for

`Schema.violations` lists what is wrong with a value.  This file says what a value must be instead,
and that nothing is wrong with exactly those values.

* `Schema.Accepts` and `Schema.AcceptsMembers` are the meaning of a schema.
* `violations_eq_nil_iff` and `memberViolations_eq_nil_iff` are the agreement, by one induction over
  schemas and the schemas of their members.
-/

namespace ManifestSarif.Sarif.Schema

open Json

mutual

/-- The value is what the schema asks for. -/
def Accepts : Schema → Data → Prop
  | any, _ => True
  | text minLength, value => ∃ s, value = .text s ∧ minLength ≤ s.length
  | integer minimum, value =>
    ∃ number i, value = .number number ∧ integerOf? number = some i ∧ minimum ≤ i
  | exactly expected, value => value = .text expected
  | oneOf values, value => ∃ s ∈ values, value = .text s
  | list minItems item, value =>
    ∃ items, value = .list items ∧ minItems ≤ items.length ∧ ∀ x ∈ items, item.Accepts x
  | object required schemas, value =>
    ∃ members, value = .object members ∧
      (∀ name ∈ required, (Data.member? members name).isSome = true) ∧
      AcceptsMembers schemas members

/-- The members that have a schema are what it asks for. -/
def AcceptsMembers : List (String × Schema) → List (String × Data) → Prop
  | [], _ => True
  | (name, schema) :: rest, members =>
    (∀ value, Data.member? members name = some value → schema.Accepts value) ∧
      AcceptsMembers rest members

end

/-! ## The leaves -/

theorem isText_eq_true_iff {value : Data} {s : String} :
    isText value s = true ↔ value = .text s := by
  cases value <;> simp [isText]

theorem textViolations_eq_nil_iff {minLength : Nat} {value : Data} :
    textViolations minLength value = [] ↔ (text minLength).Accepts value := by
  rw [Accepts]
  cases value with
  | text s => simp [textViolations]
  | _ => simp [textViolations]

theorem integerViolations_eq_nil_iff {minimum : Int} {value : Data} :
    integerViolations minimum value = [] ↔ (integer minimum).Accepts value := by
  rw [Accepts]
  cases value with
  | number number =>
    unfold integerViolations
    cases hinteger : integerOf? number with
    | none => simp [hinteger]
    | some i => simp [hinteger]
  | _ => simp [integerViolations]

theorem missingNames_eq_nil_iff {required : List String} {members : List (String × Data)} :
    missingNames required members = [] ↔
      ∀ name ∈ required, (Data.member? members name).isSome = true := by
  rw [missingNames, List.map_eq_nil_iff, List.filter_eq_nil_iff]
  refine forall₂_congr fun name _ => ?_
  cases Data.member? members name <;> simp

/-! ## The agreement -/

mutual

/-- Nothing is wrong with a value exactly when it is what the schema asks for. -/
theorem violations_eq_nil_iff : ∀ (schema : Schema) (value : Data),
    schema.violations value = [] ↔ schema.Accepts value
  | any, value => by simp [violations, Accepts]
  | text minLength, value => by
    rw [violations]
    exact textViolations_eq_nil_iff
  | integer minimum, value => by
    rw [violations]
    exact integerViolations_eq_nil_iff
  | exactly expected, value => by
    rw [violations, Accepts, ← isText_eq_true_iff]
    by_cases htext : isText value expected = true
    · simp [htext]
    · simp [htext]
  | oneOf values, value => by
    rw [violations, Accepts]
    have hany : values.any (isText value) = true ↔ ∃ s ∈ values, value = .text s := by
      simp only [List.any_eq_true, isText_eq_true_iff]
    rw [← hany]
    by_cases htext : values.any (isText value) = true
    · simp [htext]
    · simp [htext]
  | list minItems item, value => by
    cases value with
    | list items =>
      have hitems : items.flatMap item.violations = [] ↔ ∀ x ∈ items, item.Accepts x := by
        rw [List.flatMap_eq_nil_iff]
        exact forall₂_congr fun x _ => violations_eq_nil_iff item x
      rw [violations, Accepts, List.append_eq_nil_iff, hitems]
      by_cases hshort : items.length < minItems
      · have hlength : ¬minItems ≤ items.length := by omega
        simp [hshort, hlength]
      · have hlength : minItems ≤ items.length := by omega
        simp [hshort, hlength]
    | _ => simp [violations, Accepts]
  | object required schemas, value => by
    cases value with
    | object members =>
      rw [violations, Accepts, List.append_eq_nil_iff, missingNames_eq_nil_iff,
        memberViolations_eq_nil_iff schemas members]
      simp
    | _ => simp [violations, Accepts]

theorem memberViolations_eq_nil_iff : ∀ (schemas : List (String × Schema))
    (members : List (String × Data)),
    memberViolations schemas members = [] ↔ AcceptsMembers schemas members
  | [], members => by simp [memberViolations, AcceptsMembers]
  | (name, schema) :: rest, members => by
    rw [memberViolations, AcceptsMembers, List.append_eq_nil_iff,
      memberViolations_eq_nil_iff rest members]
    refine and_congr_left' ?_
    cases hmember : Data.member? members name with
    | none => simp
    | some value => simpa using violations_eq_nil_iff schema value

end

end ManifestSarif.Sarif.Schema
