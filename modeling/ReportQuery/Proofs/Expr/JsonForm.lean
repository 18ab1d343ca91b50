import Mathlib.Data.List.Forall2
import ReportQuery.Expr

/-!
# Expressions in JSON

Which values are expressions: numbers, names of fields and numbers in text, and objects of one
operator over such values. Any other key, however deep in a value, makes the whole value no
expression, and then it is its own result.

Main statement: `ofJson?_reads_algebra`.
-/

namespace ReportQuery

namespace Json

mutual

/-- The keys of all objects in a value. -/
def allKeys : Json → List String
  | array items => keysOfItems items
  | object fields => keysOfFields fields
  | _ => []

def keysOfItems : List Json → List String
  | [] => []
  | item :: rest => item.allKeys ++ keysOfItems rest

def keysOfFields : List (String × Json) → List String
  | [] => []
  | (key, value) :: rest => key :: (value.allKeys ++ keysOfFields rest)

end

end Json

namespace Expr

/-! ## The algebra -/

def operators : List String := ["$add", "$multiply", "$divide"]

/-- What an operator makes of its operands. Sums and products have any number of them, a quotient
has two. -/
inductive Applies : String → List Expr → Expr → Prop
  | add (terms : List Expr) : Applies "$add" terms (.sum terms)
  | multiply (factors : List Expr) : Applies "$multiply" factors (.product factors)
  | divide (dividend divisor : Expr) :
    Applies "$divide" [dividend, divisor] (.quotient dividend divisor)

mutual

/-- The value is written in the algebra, and stands for the expression. -/
inductive Written : Json → Expr → Prop
  | number {n : Json.Number} {d : Decimal} (h : Decimal.ofNumber? n = some d) :
    Written (.number n) (.literal d)
  | field {text : String} {path : List Char} (htext : text.toList = '$' :: path)
    (hpath : path ≠ []) : Written (.string text) (.field (String.ofList path))
  | text {text : String} {d : Decimal} (h : Decimal.ofText? (Text.trim text.toList) = some d) :
    Written (.string text) (.literal d)
  | operation {operator : String} {operand : Json} {operands : List Expr} {e : Expr}
    (hoperands : WrittenOperands operand operands) (h : Applies operator operands e) :
    Written (.object [(operator, operand)]) e

/-- The operands of an operator are written as an array, or as the only one of them, which is then
no array, since an array is no expression. -/
inductive WrittenOperands : Json → List Expr → Prop
  | members {items : List Json} {operands : List Expr} (h : List.Forall₂ Written items operands) :
    WrittenOperands (.array items) operands
  | only {operand : Json} {e : Expr} (h : Written operand e) : WrittenOperands operand [e]

end

/-! ## Reading -/

theorem ofOperator?_eq_some_iff {operator : String} {operands : List Expr} {e : Expr} :
    ofOperator? operator operands = some e ↔ Applies operator operands e := by
  constructor
  · intro h
    unfold ofOperator? at h
    split at h
    · next hadd =>
      subst hadd
      obtain rfl := Option.some.inj h
      exact .add operands
    · split at h
      · next hmultiply =>
        subst hmultiply
        obtain rfl := Option.some.inj h
        exact .multiply operands
      · split at h
        · next hdivide =>
          subst hdivide
          split at h
          · obtain rfl := Option.some.inj h
            exact .divide _ _
          · cases h
        · cases h
  · intro h
    cases h <;> rfl

theorem decimal_ofText?_dollar (path : List Char) :
    Decimal.ofText? (Text.trim ('$' :: path)) = none := by
  have hplain : ∀ rest, Decimal.readPlain ('$' :: rest) = .error .unknownCharacter := fun _ => rfl
  have htext : ∀ rest, Decimal.ofText? ('$' :: rest) = none := by
    intro rest
    have hbase : ('$' :: rest).takeWhile (fun c => c ≠ 'e' && c ≠ 'E') =
        '$' :: rest.takeWhile (fun c => c ≠ 'e' && c ≠ 'E') :=
      List.takeWhile_cons_of_pos (by decide)
    unfold Decimal.ofText? Decimal.ofText
    simp only [hbase]
    split
    · rw [hplain]
      rfl
    · rw [Decimal.readScientific, hplain]
      rfl
  have htrim : ∃ rest, Text.trim ('$' :: path) = '$' :: rest := by
    have hstart : Text.trimStart ('$' :: path) = '$' :: path :=
      List.dropWhile_cons_of_neg (by decide)
    rw [Text.trim, hstart, List.reverse_cons, Text.trimStart, List.dropWhile_append]
    split
    · exact ⟨[], rfl⟩
    · exact ⟨_, List.reverse_append⟩
  obtain ⟨rest, hrest⟩ := htrim
  rw [hrest, htext]

theorem ofText?_eq_some_iff {text : String} {e : Expr} :
    ofText? text = some e ↔ Written (.string text) e := by
  constructor
  · intro h
    unfold ofText? at h
    split at h
    · next c path htext =>
      obtain rfl := Option.some.inj h
      exact .field htext (List.cons_ne_nil c path)
    · obtain ⟨d, hd, rfl⟩ := Option.map_eq_some_iff.1 h
      exact .text hd
  · intro h
    unfold ofText?
    cases h with
    | @field _ path htext hpath =>
      obtain ⟨c, rest, rfl⟩ := List.exists_cons_of_ne_nil hpath
      simp only [htext]
    | text hd =>
      split
      · next c path htext =>
        rw [htext, decimal_ofText?_dollar] at hd
        cases hd
      · rw [hd]
        rfl

theorem operandsOf?_eq_map {v : Json} (h : ∀ items, v ≠ .array items) :
    operandsOf? v = (ofJson? v).map fun e => [e] := by
  match v with
  | .array items => exact absurd rfl (h items)
  | .null | .bool _ | .object [] | .object (_ :: _ :: _) => rfl
  | .string text => rw [operandsOf?, ofJson?]
  | .object [(operator, operand)] => rw [operandsOf?, ofJson?]
  | .number n =>
    rw [operandsOf?, ofJson?, Option.map_map]
    rfl

mutual

theorem ofJson?_eq_some_iff : ∀ (v : Json) (e : Expr), ofJson? v = some e ↔ Written v e
  | .null, e | .bool _, e | .array _, e | .object [], e | .object (_ :: _ :: _), e => by
    rw [ofJson?]
    · constructor <;> (intro h; cases h)
    all_goals simp
  | .number n, e => by
    rw [ofJson?, Option.map_eq_some_iff]
    constructor
    · rintro ⟨d, hd, rfl⟩
      exact .number hd
    · intro h
      cases h with
      | number hd => exact ⟨_, hd, rfl⟩
  | .string text, e => by
    rw [ofJson?]
    exact ofText?_eq_some_iff
  | .object [(operator, operand)], e => by
    rw [ofJson?, Option.bind_eq_some_iff]
    constructor
    · rintro ⟨operands, hoperands, h⟩
      exact .operation ((operandsOf?_eq_some_iff operand operands).1 hoperands)
        (ofOperator?_eq_some_iff.1 h)
    · intro h
      cases h with
      | operation hoperands h =>
        exact ⟨_, (operandsOf?_eq_some_iff operand _).2 hoperands, ofOperator?_eq_some_iff.2 h⟩
termination_by v => (sizeOf v, 0)

theorem operandsOf?_eq_some_iff (v : Json) (operands : List Expr) :
    operandsOf? v = some operands ↔ WrittenOperands v operands := by
  by_cases harray : ∃ items, v = .array items
  · obtain ⟨items, rfl⟩ := harray
    rw [operandsOf?, ofItems?_eq_some_iff items operands]
    constructor
    · exact .members
    · intro h
      cases h with
      | members h => exact h
      | only h => cases h
  · have hvalue := ofJson?_eq_some_iff v
    rw [operandsOf?_eq_map fun items h => harray ⟨items, h⟩, Option.map_eq_some_iff]
    constructor
    · rintro ⟨e, he, rfl⟩
      exact .only ((hvalue e).1 he)
    · intro h
      cases h with
      | members => exact absurd ⟨_, rfl⟩ harray
      | only h => exact ⟨_, (hvalue _).2 h, rfl⟩
termination_by (sizeOf v, 1)

theorem ofItems?_eq_some_iff : ∀ (items : List Json) (operands : List Expr),
    ofItems? items = some operands ↔ List.Forall₂ Written items operands
  | [], operands => by
    rw [ofItems?, List.forall₂_nil_left_iff, Option.some.injEq, eq_comm]
  | item :: rest, operands => by
    have hrest := ofItems?_eq_some_iff rest
    simp only [ofItems?, Option.bind_eq_bind, Option.bind_eq_some_iff, Option.pure_def,
      Option.some.injEq, List.forall₂_cons_left_iff, ofJson?_eq_some_iff item, hrest]
    constructor
    · rintro ⟨e, he, es, hes, rfl⟩
      exact ⟨e, es, he, hes, rfl⟩
    · rintro ⟨e, es, he, hes, rfl⟩
      exact ⟨e, he, es, hes, rfl⟩
termination_by items => (sizeOf items, 0)

end

/-! ## Foreign keys -/

mutual

theorem allKeys_subset_of_written : ∀ (v : Json) (e : Expr), Written v e → v.allKeys ⊆ operators
  | .null, _, h | .bool _, _, h | .array _, _, h => by cases h
  | .number _, _, _ | .string _, _, _ => List.nil_subset _
  | .object fields, e, h => by
    cases h with
    | @operation operator operand operands _ hoperands happlies =>
      rw [Json.allKeys, Json.keysOfFields, Json.keysOfFields, List.append_nil, List.cons_subset]
      refine ⟨?_, allKeys_subset_of_writtenOperands operand operands hoperands⟩
      cases happlies <;> decide
termination_by v => (sizeOf v, 0)

theorem allKeys_subset_of_writtenOperands (v : Json) (operands : List Expr)
    (h : WrittenOperands v operands) : v.allKeys ⊆ operators := by
  have hvalue := allKeys_subset_of_written v
  cases h with
  | members h =>
    rw [Json.allKeys]
    exact keysOfItems_subset_of_written _ operands h
  | only h => exact hvalue _ h
termination_by (sizeOf v, 1)

theorem keysOfItems_subset_of_written : ∀ (items : List Json) (operands : List Expr),
    List.Forall₂ Written items operands → Json.keysOfItems items ⊆ operators
  | [], _, _ => List.nil_subset _
  | item :: rest, operands, h => by
    cases h with
    | cons hitem hrest =>
      rw [Json.keysOfItems, List.append_subset]
      exact ⟨allKeys_subset_of_written item _ hitem, keysOfItems_subset_of_written rest _ hrest⟩
termination_by items => (sizeOf items, 0)

end

theorem evaluateJson_of_ofJson?_eq_none {v : Json} (h : ofJson? v = none) (row : Document) :
    evaluateJson row v = .ok v := by
  unfold evaluateJson
  simp only [h]

/-- The expression of a value is the one that it is written as, and a value with another key than an
operator in it stays as it is. -/
theorem ofJson?_reads_algebra (v : Json) :
    (∀ e, ofJson? v = some e ↔ Written v e) ∧
      ((∃ key ∈ v.allKeys, key ∉ operators) → ∀ row, evaluateJson row v = .ok v) := by
  refine ⟨ofJson?_eq_some_iff v, ?_⟩
  rintro ⟨key, hkey, hforeign⟩ row
  refine evaluateJson_of_ofJson?_eq_none ?_ row
  cases hread : ofJson? v with
  | none => rfl
  | some e =>
    have hwritten := (ofJson?_eq_some_iff v e).1 hread
    exact absurd (allKeys_subset_of_written v e hwritten hkey) hforeign

/-- A share of a difference: the operator of the difference is none of the algebra. -/
def shareOfDifference : Json :=
  .object [("$divide", .array [
    .object [("$multiply", .array [.string "$qty",
      .object [("$subtract", .array [.string "$price", .string "$cost"])]])],
    .string "100"])]

theorem ofJson?_reads_algebra_of_difference :
    (∃ key ∈ shareOfDifference.allKeys, key ∉ operators) ∧
      ∀ row, Expr.evaluateJson row shareOfDifference = .ok shareOfDifference := by
  have hforeign : ∃ key ∈ shareOfDifference.allKeys, key ∉ operators :=
    ⟨"$subtract", by decide, by decide⟩
  exact ⟨hforeign, (ofJson?_reads_algebra shareOfDifference).2 hforeign⟩

end Expr

end ReportQuery
