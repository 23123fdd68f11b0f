/-!
# Decimal numbers in text

A number is an optional plus sign and a nonempty run of ASCII digits, leading
zeros included, whose value does not exceed a given limit.
-/

namespace DasherTerminal.Text

def digit? (c : Char) : Option Nat :=
  if '0' ≤ c ∧ c ≤ '9' then some (c.toNat - '0'.toNat) else none

/-- The value of a run of digits, read after the digits of `acc`. -/
def digitsValue? (acc : Nat) : List Char → Option Nat
  | [] => some acc
  | c :: cs => (digit? c).bind fun d => digitsValue? (10 * acc + d) cs

def digits? : List Char → Option Nat
  | [] => none
  | cs => digitsValue? 0 cs

/-- Read a whole text as a number that is at most `limit`. -/
def number? (limit : Nat) (cs : List Char) : Option Nat :=
  (digits? (match cs with | '+' :: r => r | r => r)).filter (· ≤ limit)

/-- The largest port, column count and line count that can be written. -/
def wordLimit : Nat := 65535

theorem number?_le {limit n : Nat} {cs : List Char} (h : number? limit cs = some n) :
    n ≤ limit := by
  simp only [number?, Option.filter_eq_some_iff, decide_eq_true_eq] at h
  exact h.2

end DasherTerminal.Text
