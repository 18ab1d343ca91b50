import ReportQuery.Formula.Token

/-!
# Reading formulas

A sum is a chain of products, a product a chain of signed operands, and an operand a number, a field
or a sum in parentheses. Chains group to the left, and a sign binds tighter than any operator.
`fault` says where reading a text got stuck.
-/

namespace ReportQuery.Formula

/-! ## Trees of tokens -/

/-- What is left of tokens after some of them. -/
abbrev Fewer (ts : List Token) := { rest : List Token // rest.length < ts.length }

/-- What is left of tokens after perhaps none of them. -/
abbrev NoMore (ts : List Token) := { rest : List Token // rest.length ≤ ts.length }

mutual

/-- A sum at the start of tokens. -/
def readSum (ts : List Token) : Option (Formula × Fewer ts) :=
  match readProduct ts with
  | none => none
  | some (left, ⟨rest, h⟩) =>
    match readSumTail left rest with
    | none => none
    | some (sum, ⟨rest', h'⟩) => some (sum, ⟨rest', Nat.lt_of_le_of_lt h' h⟩)
termination_by (ts.length, 3)
decreasing_by all_goals omega

/-- Adds and subtracts the products that follow. -/
def readSumTail (left : Formula) (ts : List Token) : Option (Formula × NoMore ts) :=
  match ts with
  | .op .plus :: rest =>
    match readProduct rest with
    | none => none
    | some (right, ⟨rest', h⟩) =>
      match readSumTail (.binary .plus left right) rest' with
      | none => none
      | some (sum, ⟨r, h'⟩) => some (sum, ⟨r, by simp only [List.length_cons]; omega⟩)
  | .op .minus :: rest =>
    match readProduct rest with
    | none => none
    | some (right, ⟨rest', h⟩) =>
      match readSumTail (.binary .minus left right) rest' with
      | none => none
      | some (sum, ⟨r, h'⟩) => some (sum, ⟨r, by simp only [List.length_cons]; omega⟩)
  | ts => some (left, ⟨ts, Nat.le_refl _⟩)
termination_by (ts.length, 4)
decreasing_by all_goals (simp only [List.length_cons]; omega)

/-- A product at the start of tokens. -/
def readProduct (ts : List Token) : Option (Formula × Fewer ts) :=
  match readSigned ts with
  | none => none
  | some (left, ⟨rest, h⟩) =>
    match readProductTail left rest with
    | none => none
    | some (product, ⟨rest', h'⟩) => some (product, ⟨rest', Nat.lt_of_le_of_lt h' h⟩)
termination_by (ts.length, 2)
decreasing_by all_goals omega

/-- Multiplies and divides by the signed operands that follow. -/
def readProductTail (left : Formula) (ts : List Token) : Option (Formula × NoMore ts) :=
  match ts with
  | .op .times :: rest =>
    match readSigned rest with
    | none => none
    | some (right, ⟨rest', h⟩) =>
      match readProductTail (.binary .times left right) rest' with
      | none => none
      | some (product, ⟨r, h'⟩) => some (product, ⟨r, by simp only [List.length_cons]; omega⟩)
  | .op .over :: rest =>
    match readSigned rest with
    | none => none
    | some (right, ⟨rest', h⟩) =>
      match readProductTail (.binary .over left right) rest' with
      | none => none
      | some (product, ⟨r, h'⟩) => some (product, ⟨r, by simp only [List.length_cons]; omega⟩)
  | ts => some (left, ⟨ts, Nat.le_refl _⟩)
termination_by (ts.length, 3)
decreasing_by all_goals (simp only [List.length_cons]; omega)

/-- An operand behind any number of minus signs. -/
def readSigned (ts : List Token) : Option (Formula × Fewer ts) :=
  match ts with
  | .op .minus :: rest =>
    match readSigned rest with
    | none => none
    | some (operand, ⟨r, h⟩) =>
      some (.negation operand, ⟨r, by simp only [List.length_cons]; omega⟩)
  | .number value :: rest => some (.literal value, ⟨rest, Nat.lt_succ_self _⟩)
  | .field path :: rest => some (.field path, ⟨rest, Nat.lt_succ_self _⟩)
  | .opening :: rest =>
    match readSum rest with
    | some (inner, ⟨.closing :: r, h⟩) =>
      some (inner, ⟨r, by simp only [List.length_cons] at h ⊢; omega⟩)
    | _ => none
  | _ => none
termination_by (ts.length, 1)
decreasing_by all_goals (simp only [List.length_cons]; omega)

end

def read? (text : List Char) : Option Formula := do
  match ← readSum (← tokens? text) with
  | (formula, ⟨[], _⟩) => some formula
  | _ => none

/-! ## Where reading gets stuck -/

/-- Any problem but a bad number. The words of such a report, which say what was found and what would
have fitted, are not modelled: these stand for them, and the position is as reported. -/
def unexpectedInput : String := "unexpected input"

/-- Where and why a text is no formula. -/
structure Stuck where
  position : Nat
  problem : String
deriving DecidableEq, Repr

/-- What reading expects at a place: an operand, or something after one. `afterName` tells that the
character just read followed a `$` or a field name directly; the place of such a character is named
when reading gets stuck right behind it. -/
structure Place where
  position : Nat
  depth : Nat
  operand : Bool
  afterName : Bool

def Place.stuck (p : Place) : Stuck :=
  ⟨if p.afterName then p.position - 1 else p.position, unexpectedInput⟩

/-- The place after one more character. -/
def Place.step (p : Place) (operand : Bool) (depth : Nat) (afterName : Bool) : Place :=
  ⟨p.position + 1, depth, operand, afterName⟩

/-- Follows a text from a place on until nothing fits. `name` tells that the text begins right after
a field name. -/
def findStuck (p : Place) (name : Bool) (text : List Char) : Stuck :=
  match text with
  | [] => p.stuck
  | c :: rest =>
    if isBlank c then findStuck (p.step p.operand p.depth name) false rest
    else if p.operand then
      if h : Text.isDigit c then
        let spelled := numeral (c :: rest)
        if (Decimal.ofText? spelled).isNone then ⟨p.position, "invalid number"⟩
        else
          match (c :: rest).drop spelled.length with
          | '.' :: _ =>
            ⟨p.position + spelled.length + (if '.' ∈ spelled then 0 else 1), unexpectedInput⟩
          | _ =>
            findStuck ⟨p.position + spelled.length, p.depth, false, false⟩ false
              ((c :: rest).drop spelled.length)
      else if c = '$' then
        let length := (rest.takeWhile isNameChar).length
        if length = 0 then ⟨p.position + 1, unexpectedInput⟩
        else
          findStuck ⟨p.position + 1 + length, p.depth, false, false⟩ true
            (rest.dropWhile isNameChar)
      else if c = '-' then findStuck (p.step true p.depth name) false rest
      else if c = '(' then findStuck (p.step true (p.depth + 1) name) false rest
      else p.stuck
    else if c = '+' ∨ c = '-' ∨ c = '*' ∨ c = '/' then
      findStuck (p.step true p.depth name) false rest
    else if c = ')' ∧ p.depth ≠ 0 then findStuck (p.step false (p.depth - 1) name) false rest
    else p.stuck
termination_by text.length
decreasing_by
  · simp
  · have := List.length_pos_iff.2 (numeral_ne_nil rest h)
    simp only [List.length_drop, List.length_cons]
    omega
  · have := (List.dropWhile_sublist (l := rest) isNameChar).length_le
    simp only [List.length_cons]
    omega
  all_goals simp

def fault (text : List Char) : Stuck := findStuck ⟨0, 0, true, false⟩ false text

/-- The formula that a text spells, or where it gets stuck. -/
def ofText (text : String) : Except CalculationError Formula :=
  match read? text.toList with
  | some formula => .ok formula
  | none => let stuck := fault text.toList; .error (.malformed stuck.position stuck.problem)

end ReportQuery.Formula
