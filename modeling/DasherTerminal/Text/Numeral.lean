/-!
# Numerals

Whole numbers in text as most command languages write them: decimal, octal after
a zero, hexadecimal after `0x`.
-/

namespace DasherTerminal.Text.Numeral

def digit? (base : Nat) (c : Char) : Option Nat :=
  let value :=
    if '0' ≤ c ∧ c ≤ '9' then c.toNat - '0'.toNat
    else if 'a' ≤ c ∧ c ≤ 'f' then c.toNat - 'a'.toNat + 10
    else if 'A' ≤ c ∧ c ≤ 'F' then c.toNat - 'A'.toNat + 10
    else base
  if value < base then some value else none

def digitsFrom (base acc : Nat) : List Char → Nat × List Char
  | [] => (acc, [])
  | c :: cs =>
    match digit? base c with
    | some d => digitsFrom base (base * acc + d) cs
    | none => (acc, c :: cs)

/-- The digits at the start of a text and what follows them. There must be one. -/
def digits? (base : Nat) (cs : List Char) : Option (Nat × List Char) :=
  match cs with
  | c :: _ => if (digit? base c).isSome then some (digitsFrom base 0 cs) else none
  | [] => none

def unsigned? (cs : List Char) : Option (Nat × List Char) :=
  match cs with
  | '0' :: x :: rest =>
    if x = 'x' ∨ x = 'X' then (digits? 16 rest).or (some (0, x :: rest)) else digits? 8 cs
  | '0' :: rest => some (0, rest)
  | _ => digits? 10 cs

/-- The numeral at the start of a text after blanks and a sign, and what follows it. -/
def signed? (cs : List Char) : Option (Int × List Char) :=
  let isSpace (c : Char) : Bool := c = ' ' || ('\t' ≤ c && c ≤ '\r')
  match cs.dropWhile isSpace with
  | '-' :: rest => (unsigned? rest).map fun (n, rest) => (-(n : Int), rest)
  | '+' :: rest => (unsigned? rest).map fun (n, rest) => ((n : Int), rest)
  | rest => (unsigned? rest).map fun (n, rest) => ((n : Int), rest)

theorem digit?_lt {base d : Nat} {c : Char} (h : digit? base c = some d) : d < base := by
  simp only [digit?, Option.ite_none_right_eq_some] at h
  exact Option.some.inj h.2 ▸ h.1

end DasherTerminal.Text.Numeral
