import ReportQuery.Entries
import ReportQuery.Json.Number

/-!
# JSON values

Values as they are stored and sent: objects keep the order of their keys.
-/

namespace ReportQuery

inductive Json where
  | null
  | bool (value : Bool)
  | number (value : Json.Number)
  | string (text : String)
  | array (items : List Json)
  | object (fields : List (String × Json))

abbrev Document := Entries Json

namespace Json

instance : Inhabited Json := ⟨.null⟩

/-! ## Equality -/

mutual

def same : Json → Json → Bool
  | null, null => true
  | bool a, bool b => a = b
  | number a, number b => a = b
  | string a, string b => a = b
  | array a, array b => sameItems a b
  | object a, object b => sameFields a b
  | _, _ => false

def sameItems : List Json → List Json → Bool
  | [], [] => true
  | a :: as, b :: bs => same a b && sameItems as bs
  | _, _ => false

def sameFields : List (String × Json) → List (String × Json) → Bool
  | [], [] => true
  | (k, a) :: as, (l, b) :: bs => k = l && same a b && sameFields as bs
  | _, _ => false

end

mutual

theorem same_eq_true_iff : ∀ a b : Json, same a b = true ↔ a = b
  | null, b => by cases b <;> simp [same]
  | bool a, b => by cases b <;> simp [same]
  | number a, b => by cases b <;> simp [same]
  | string a, b => by cases b <;> simp [same]
  | array a, b => by
    cases b with
    | array b => simp [same, sameItems_eq_true_iff a b]
    | _ => simp [same]
  | object a, b => by
    cases b with
    | object b => simp [same, sameFields_eq_true_iff a b]
    | _ => simp [same]

theorem sameItems_eq_true_iff : ∀ a b : List Json, sameItems a b = true ↔ a = b
  | [], b => by cases b <;> simp [sameItems]
  | a :: as, b => by
    cases b with
    | nil => simp [sameItems]
    | cons b bs => simp [sameItems, same_eq_true_iff a b, sameItems_eq_true_iff as bs]

theorem sameFields_eq_true_iff : ∀ a b : List (String × Json), sameFields a b = true ↔ a = b
  | [], b => by cases b <;> simp [sameFields]
  | (k, a) :: as, b => by
    cases b with
    | nil => simp [sameFields]
    | cons b bs =>
      obtain ⟨l, b⟩ := b
      simp [sameFields, same_eq_true_iff a b, sameFields_eq_true_iff as bs, and_assoc]

end

instance : DecidableEq Json := fun a b =>
  decidable_of_iff (same a b = true) (same_eq_true_iff a b)

/-! ## Whole numbers -/

/-- A whole number; null if it has more than 64 bits. -/
def ofInt (n : Int) : Json :=
  match Number.ofInt? n with
  | some k => number k
  | none => null

def one : Json := .number (.integer 1 (by decide))

/-! ## Views -/

def fields? : Json → Option Document
  | object fields => some fields
  | _ => none

def items? : Json → Option (List Json)
  | array items => some items
  | _ => none

def text? : Json → Option String
  | string text => some text
  | _ => none

/-- The value under `key`, if the value is an object that has it. -/
def get? (key : String) : Json → Option Json
  | object fields => Entries.get? key fields
  | _ => none

end Json

end ReportQuery
