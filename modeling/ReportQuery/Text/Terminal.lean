/-!
# Terminal text

Text for a terminal holds control sequences, which begin with the escape character. `plain` is the
text that is left where there is no terminal: without sequences and control characters, but with
tabs and line ends. Text without control characters is plain already.
-/

namespace ReportQuery.Text

namespace Terminal

/-- A control character of ASCII. -/
def isControl (c : Char) : Bool := c.toNat < 0x20 || c = '\x7f'

/-- A control character that is kept as a blank. -/
def isBlankControl (c : Char) : Bool := c = '\t' || c = '\n' || c = '\x0c' || c = '\r'

/-! ## Sequences -/

/-- How far a control sequence has come. -/
inductive Sequence where
  /-- Right after the escape character. -/
  | escape
  /-- Behind the first characters of an escape sequence of several. -/
  | intermediate
  /-- Behind `[`, up to a letter or a sign from `@` on. -/
  | control
deriving DecidableEq, Repr

/-- How far the head of a device string has come. -/
inductive Head where
  | entry
  | parameters
  | intermediate
deriving DecidableEq, Repr

/-- Where a terminal stands in a text. -/
inductive State where
  | text
  | sequence (s : Sequence)
  /-- In text that a blank within a sequence has begun. The next control character ends it, and the
  sequence goes on. -/
  | interrupted (s : Sequence)
  /-- In a system command, up to a bell. -/
  | command
  | device (head : Head)
  /-- In a string that is not shown, up to a string terminator. -/
  | string
deriving DecidableEq, Repr

/-- Where a graphic character of ASCII leads within a sequence. -/
def Sequence.next (s : Sequence) (c : Char) : State :=
  match s with
  | .escape =>
    if c ≤ '/' then .sequence .intermediate
    else if c = '[' then .sequence .control
    else if c = ']' then .command
    else if c = 'P' then .device .entry
    else if c = 'X' ∨ c = '^' ∨ c = '_' then .string
    else .text
  | .intermediate => if c ≤ '/' then .sequence .intermediate else .text
  | .control => if c ≤ '?' then .sequence .control else .text

/-- Where a graphic character of ASCII leads within the head of a device string. -/
def Head.next (h : Head) (c : Char) : State :=
  if '@' ≤ c then .string
  else if c ≤ '/' then .device .intermediate
  else
    match h with
    | .entry => .device .parameters
    | .parameters => if c ≤ ';' then .device .parameters else .string
    | .intermediate => .string

/-- The UTF-8 form of the character holds the byte that terminates a string. -/
def holdsTerminator (c : Char) : Bool := (String.utf8EncodeChar c).contains 0x9C

/-- Where a character leads, and whether it is shown. An escape character begins a sequence
everywhere, and the two cancelling characters end one everywhere. -/
def State.step (s : State) (c : Char) : State × Bool :=
  if c = '\x1b' then (.sequence .escape, false)
  else if c = '\x18' ∨ c = '\x1a' then (.text, false)
  else
    match s with
    | .text => (.text, isBlankControl c || !isControl c)
    | .sequence q =>
      if isBlankControl c then (.interrupted q, true)
      else if isControl c || 0x7F < c.toNat then (s, false)
      else (q.next c, false)
    | .interrupted q =>
      if isBlankControl c then (s, true)
      else if isControl c then (.sequence q, false)
      else (if 0x7F < c.toNat then .text else s, true)
    | .command => (if c = '\x07' then .text else s, false)
    | .device h => (if isControl c || 0x7F < c.toNat then s else h.next c, false)
    | .string => (if holdsTerminator c then .text else s, false)

/-- The characters that are shown. -/
def shownFrom (s : State) : List Char → List Char
  | [] => []
  | c :: rest =>
    let (next, shown) := s.step c
    if shown then c :: shownFrom next rest else shownFrom next rest

end Terminal

/-- The text without control sequences and control characters. -/
def plain (text : List Char) : List Char := Terminal.shownFrom .text text

/-- The text in bold on a terminal. -/
def bold (text : String) : String := "\x1b[1m" ++ text ++ "\x1b[0m"

end ReportQuery.Text
