import ReportQuery.Formula.Token

/-!
# The grammar of formulas

What a formula may look like, as trees that keep every blank and parenthesis. A chain has operands
of the next tighter rank and operators of one level between them.

* `text` is what a tree spells, and `tokens` the same without its blanks.
* `formula` is the plain tree: chains group to the left.
* `expr` is its expression, with `combine` at each binary operator.
-/

namespace ReportQuery

namespace Formula

/-! ## Ranks -/

/-- How tight a binary operator binds. -/
inductive Level where
  | additive
  | multiplicative
deriving DecidableEq

/-- A chain of operands, or one operand behind any number of minus signs. -/
inductive Rank where
  | chain (level : Level)
  | signed

/-- What the operators of a level stand between. -/
def Level.operand : Level → Rank
  | additive => .chain .multiplicative
  | multiplicative => .signed

end Formula

namespace BinaryOp

def level : BinaryOp → Formula.Level
  | .plus | .minus => .additive
  | .times | .over => .multiplicative

def symbol : BinaryOp → Char
  | .plus => '+'
  | .minus => '-'
  | .times => '*'
  | .over => '/'

end BinaryOp

namespace Formula

/-- None of the operators that may come next lengthens a phrase of the rank. -/
def Rank.Ends (next : BinaryOp → Prop) : Rank → Prop
  | chain l => ∀ op, next op → op.level = .additive ∧ l = .multiplicative
  | signed => True

theorem Rank.Ends.operand {next : BinaryOp → Prop} {l : Level} (h : (Rank.chain l).Ends next) :
    l.operand.Ends next := by
  cases l with
  | additive => exact fun op hop => absurd (h op hop).2 (by decide)
  | multiplicative => trivial

theorem Level.operand_ends {next : BinaryOp → Prop} {l : Level} (h : ∀ op, next op → op.level = l) :
    l.operand.Ends next := by
  cases l with
  | additive => exact fun op hop => ⟨h op hop, rfl⟩
  | multiplicative => trivial

/-! ## Words -/

/-- Blanks between two tokens, or none. -/
@[ext]
structure Blanks where
  chars : List Char
  all_blank : chars.all isBlank = true

@[ext]
structure Digits where
  chars : List Char
  ne_nil : chars ≠ []
  all_digit : chars.all Text.isDigit = true

/-- A fraction with its point, or nothing. -/
def fractionText : Option Digits → List Char
  | none => []
  | some digits => '.' :: digits.chars

/-- A number that a decimal can hold. -/
structure Numeral where
  whole : Digits
  fraction? : Option Digits
  value : Decimal
  ofText?_eq : Decimal.ofText? (whole.chars ++ fractionText fraction?) = some value

def Numeral.text (n : Numeral) : List Char := n.whole.chars ++ fractionText n.fraction?

/-- The name of a field. -/
@[ext]
structure Name where
  chars : List Char
  ne_nil : chars ≠ []
  all_nameChar : chars.all isNameChar = true

/-! ## Phrases -/

mutual

/-- A part of a formula as it is spelled. -/
inductive Phrase : Rank → Type
  | number (n : Numeral) : Phrase .signed
  | field (name : Name) : Phrase .signed
  | parens (before : Blanks) (inner : Phrase (.chain .additive)) (after : Blanks) : Phrase .signed
  | minus (blanks : Blanks) (operand : Phrase .signed) : Phrase .signed
  | chain {l : Level} (first : Phrase l.operand) (rest : Tail l) : Phrase (.chain l)

/-- The operators of a chain, each with the operand after it. -/
inductive Tail : Level → Type
  | done {l : Level} : Tail l
  | more {l : Level} (before : Blanks) (op : BinaryOp) (hop : op.level = l) (after : Blanks)
    (right : Phrase l.operand) (rest : Tail l) : Tail l

end

mutual

def Phrase.text {r : Rank} : Phrase r → List Char
  | .number n => n.text
  | .field name => '$' :: name.chars
  | .parens before inner after => '(' :: (before.chars ++ inner.text ++ after.chars ++ [')'])
  | .minus blanks operand => '-' :: (blanks.chars ++ operand.text)
  | .chain first rest => first.text ++ rest.text

def Tail.text {l : Level} : Tail l → List Char
  | .done => []
  | .more before op _ after right rest =>
    before.chars ++ op.symbol :: (after.chars ++ right.text ++ rest.text)

end

mutual

def Phrase.tokens {r : Rank} : Phrase r → List Token
  | .number n => [.number n.value]
  | .field name => [.field (String.ofList name.chars)]
  | .parens _ inner _ => .opening :: (inner.tokens ++ [.closing])
  | .minus _ operand => .op .minus :: operand.tokens
  | .chain first rest => first.tokens ++ rest.tokens

def Tail.tokens {l : Level} : Tail l → List Token
  | .done => []
  | .more _ op _ _ right rest => .op op :: (right.tokens ++ rest.tokens)

end

mutual

def Phrase.formula {r : Rank} : Phrase r → Formula
  | .number n => .literal n.value
  | .field name => .field (String.ofList name.chars)
  | .parens _ inner _ => inner.formula
  | .minus _ operand => .negation operand.formula
  | .chain first rest => rest.formula first.formula

/-- The formula of a chain from what stands before the tail on. -/
def Tail.formula {l : Level} (left : Formula) : Tail l → Formula
  | .done => left
  | .more _ op _ _ right rest => rest.formula (.binary op left right.formula)

end

mutual

def Phrase.expr {r : Rank} : Phrase r → Expr
  | .number n => .literal n.value
  | .field name => .field (String.ofList name.chars)
  | .parens _ inner _ => inner.expr
  | .minus _ operand => .negation operand.expr
  | .chain first rest => rest.expr first.expr

def Tail.expr {l : Level} (left : Expr) : Tail l → Expr
  | .done => left
  | .more _ op _ _ right rest => rest.expr (combine op left right.expr)

end

/-- A whole formula as it is spelled, with the blanks around it. -/
structure Derivation where
  before : Blanks
  body : Phrase (.chain .additive)
  after : Blanks

namespace Derivation

def text (d : Derivation) : List Char := d.before.chars ++ d.body.text ++ d.after.chars

def formula (d : Derivation) : Formula := d.body.formula

def expr (d : Derivation) : Expr := d.body.expr

end Derivation

/-! ## Plain trees and expressions -/

mutual

theorem Phrase.toExpr_formula {r : Rank} : (p : Phrase r) → p.formula.toExpr = p.expr
  | .number _ => by simp only [Phrase.formula, Phrase.expr, toExpr]
  | .field _ => by simp only [Phrase.formula, Phrase.expr, toExpr]
  | .parens _ inner _ => by
    simp only [Phrase.formula, Phrase.expr]
    exact inner.toExpr_formula
  | .minus _ operand => by simp only [Phrase.formula, Phrase.expr, toExpr, operand.toExpr_formula]
  | .chain first rest => by
    simp only [Phrase.formula, Phrase.expr, rest.toExpr_formula, first.toExpr_formula]

theorem Tail.toExpr_formula {l : Level} (left : Formula) :
    (t : Tail l) → (t.formula left).toExpr = t.expr left.toExpr
  | .done => by simp only [Tail.formula, Tail.expr]
  | .more _ op _ _ right rest => by
    simp only [Tail.formula, Tail.expr, rest.toExpr_formula, toExpr, right.toExpr_formula]

end

theorem Derivation.toExpr_formula (d : Derivation) : d.formula.toExpr = d.expr :=
  d.body.toExpr_formula

end Formula

end ReportQuery
