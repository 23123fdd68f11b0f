import DasherTerminal.Shell.Syntax

/-!
# Patterns

Patterns that texts are matched against: a star for any text, a question mark
for a character, and brackets for one of several. Characters that are quoted
stand for themselves.
-/

namespace DasherTerminal.Shell

inductive Pattern.Part where
  | literal (c : Char)
  | any
  | star
  /-- One of some characters, or none of them: single ones, ranges and classes. -/
  | oneOf (inverted : Bool) (singles : Chars) (ranges : List (Char × Char)) (classes : List Chars)
  deriving DecidableEq, Repr

abbrev Pattern := List Pattern.Part

namespace Pattern

/-- A character of a pattern as it is written. -/
structure Letter where
  char : Char
  quoted : Bool
  deriving DecidableEq, Repr

def inClass (name : Chars) (c : Char) : Bool :=
  let isUpper := 'A' ≤ c && c ≤ 'Z'
  let isLower := 'a' ≤ c && c ≤ 'z'
  let isGraph := '!' ≤ c && c ≤ '~'
  match String.ofList name with
  | "alpha" => isUpper || isLower
  | "upper" => isUpper
  | "lower" => isLower
  | "digit" => isDigit c
  | "alnum" => isUpper || isLower || isDigit c
  | "xdigit" => isDigit c || ('a' ≤ c && c ≤ 'f') || ('A' ≤ c && c ≤ 'F')
  | "space" => c == ' ' || ('\t' ≤ c && c ≤ '\r')
  | "blank" => c == ' ' || c == '\t'
  | "cntrl" => c < ' ' || c == '\x7f'
  | "print" => isGraph || c == ' '
  | "graph" => isGraph
  | "punct" => isGraph && !(isUpper || isLower || isDigit c)
  | _ => false

structure Members where
  singles : Chars
  ranges : List (Char × Char)
  classes : List Chars

/-- The name of a class and what follows it, after its opening. -/
def className? (letters : List Letter) : Option (Chars × List Letter) :=
  let name := (letters.takeWhile fun l => l.char ≠ ':' ∧ l.char ≠ ']').map (·.char)
  match letters.drop name.length with
  | ⟨':', _⟩ :: ⟨']', _⟩ :: rest => some (name, rest)
  | _ => none

/-- Read the members of brackets up to their end, and what follows. The first
member may be a closing bracket. -/
def members? : Nat → Bool → Members → List Letter → Option (Members × List Letter)
  | 0, _, _, _ => none
  | _ + 1, _, _, [] => none
  | n + 1, isFirst, m, l :: rest =>
    if l.char = ']' ∧ !l.quoted ∧ !isFirst then some (m, rest)
    else
      let (c, rest) :=
        match l, rest with
        | ⟨'\\', false⟩, escaped :: rest => (escaped.char, rest)
        | _, _ => (l.char, rest)
      let single := members? n false { m with singles := c :: m.singles } rest
      match l, rest with
      | ⟨'[', false⟩, ⟨':', _⟩ :: more =>
        match className? more with
        | some (name, more) => members? n false { m with classes := name :: m.classes } more
        | none => single
      | _, ⟨'-', false⟩ :: last :: more =>
        if last.char = ']' ∧ !last.quoted then single
        else
          let (d, more) :=
            match last, more with
            | ⟨'\\', false⟩, escaped :: more => (escaped.char, more)
            | _, _ => (last.char, more)
          members? n false { m with ranges := (c, d) :: m.ranges } more
      | _, _ => single

/-- The pattern that letters make up, as long as the fuel lasts. Brackets that are
not closed stand for themselves. -/
def ofLettersWithin : Nat → List Letter → Pattern
  | 0, _ => []
  | _ + 1, [] => []
  | n + 1, l :: rest =>
    if l.quoted then .literal l.char :: ofLettersWithin n rest
    else
      match l.char, rest with
      | '*', _ => .star :: ofLettersWithin n rest
      | '?', _ => .any :: ofLettersWithin n rest
      | '\\', escaped :: rest => .literal escaped.char :: ofLettersWithin n rest
      | '[', _ =>
        let (inverted, inner) :=
          match rest with
          | ⟨'!', false⟩ :: inner => (true, inner)
          | _ => (false, rest)
        match members? (inner.length + 1) true ⟨[], [], []⟩ inner with
        | some (m, after) => .oneOf inverted m.singles m.ranges m.classes :: ofLettersWithin n after
        | none => .literal '[' :: ofLettersWithin n rest
      | c, _ => .literal c :: ofLettersWithin n rest

def ofLetters (letters : List Letter) : Pattern := ofLettersWithin (letters.length + 1) letters

def Part.accepts (p : Part) (c : Char) : Bool :=
  match p with
  | .literal d => c == d
  | .any => true
  | .star => false
  | .oneOf inverted singles ranges classes =>
    inverted != (singles.contains c || (ranges.any fun (a, b) => a ≤ c && c ≤ b) ||
      classes.any fun name => inClass name c)

def isMatch : Pattern → Chars → Bool
  | [], cs => cs.isEmpty
  | .star :: rest, [] => isMatch rest []
  | .star :: rest, c :: cs => isMatch rest (c :: cs) || isMatch (.star :: rest) cs
  | _ :: _, [] => false
  | p :: rest, c :: cs => p.accepts c && isMatch rest cs
termination_by p cs => (p.length, cs.length)

/-- A value without the part on one side that the pattern matches, the shortest
or the longest one. -/
def trim (p : Pattern) (side : Side) (longest : Bool) (value : Chars) : Chars :=
  let lengths := List.range (value.length + 1)
  let order := if longest then lengths.reverse else lengths
  match side with
  | .left => ((order.find? fun n => isMatch p (value.take n)).map value.drop).getD value
  | .right =>
    let keep (n : Nat) : Nat := value.length - n
    ((order.find? fun n => isMatch p (value.drop (keep n))).map fun n => value.take (keep n)).getD
      value

theorem isMatch_literals (cs : Chars) : isMatch (cs.map .literal) cs = true := by
  induction cs with
  | nil => simp [isMatch]
  | cons c cs ih => simp [isMatch, Part.accepts, ih]

end Pattern

end DasherTerminal.Shell
