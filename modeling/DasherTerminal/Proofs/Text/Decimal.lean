import Mathlib.Data.List.Basic
import Mathlib.Data.Nat.Digits.Defs
import DasherTerminal.Text.Decimal

/-!
# Written numbers are read back
-/

namespace DasherTerminal.Text

theorem toList_toString (n : Nat) : (toString n).toList = Nat.toDigits 10 n := by
  rw [Nat.toString_eq_ofList_toDigits, String.toList_ofList]

theorem isDigit_of_mem_toDigits {n : Nat} {c : Char} (h : c ∈ Nat.toDigits 10 n) :
    c.isDigit = true :=
  Nat.isDigit_of_mem_toDigits (by decide) (by decide) h

/-- Nothing is written with a zero in front. -/
theorem head?_toDigits {n : Nat} (h : 0 < n) : (Nat.toDigits 10 n).head? ≠ some '0' := by
  have hdigit : ∀ d < 10, 0 < d → [Nat.digitChar d].head? ≠ some '0' := by decide
  induction n using Nat.strong_induction_on with
  | h n ih =>
      by_cases hn : n < 10
      · rw [Nat.toDigits_of_lt_base hn]
        exact hdigit n hn h
      · have hrest := ih (n / 10) (by omega) (by omega)
        rw [Nat.toDigits_of_base_le (by decide) (by omega), List.head?_append_of_ne_nil _
          Nat.toDigits_ne_nil]
        exact hrest

theorem digit?_eq_some {c : Char} (h : c.isDigit = true) :
    digit? c = some (c.toNat - '0'.toNat) := by
  simp only [Char.isDigit, Bool.and_eq_true, decide_eq_true_eq] at h
  exact if_pos h

theorem digit?_eq_none {c : Char} (h : c.isDigit = false) : digit? c = none := by
  apply if_neg
  rintro ⟨hlow, hhigh⟩
  simp only [Char.isDigit, Bool.and_eq_false_iff, decide_eq_false_iff_not] at h
  rcases h with h | h
  · exact h hlow
  · exact h hhigh

theorem digitsValue?_eq_some {cs : List Char} (h : ∀ c ∈ cs, c.isDigit = true) (acc : Nat) :
    digitsValue? acc cs = some (Nat.ofDigitChars 10 cs acc) := by
  induction cs generalizing acc with
  | nil => rfl
  | cons c cs ih =>
      have hc := digit?_eq_some (h c (by simp))
      have hcs := ih fun d hd => h d (by simp [hd])
      rw [digitsValue?, hc, Option.bind_some, hcs, Nat.ofDigitChars_cons]

theorem digitsValue?_eq_none {cs : List Char} {c : Char} (hc : c ∈ cs) (h : c.isDigit = false)
    (acc : Nat) : digitsValue? acc cs = none := by
  induction cs generalizing acc with
  | nil => simp at hc
  | cons d cs ih =>
      rw [digitsValue?]
      rcases List.mem_cons.mp hc with rfl | hc
      · rw [digit?_eq_none h, Option.bind_none]
      · cases digit? d with
        | none => rfl
        | some value => exact ih hc _

@[simp] theorem digits?_toDigits (n : Nat) : digits? (Nat.toDigits 10 n) = some n := by
  have hdigits : digits? (Nat.toDigits 10 n) = digitsValue? 0 (Nat.toDigits 10 n) := by
    cases h : Nat.toDigits 10 n with
    | nil => exact absurd h Nat.toDigits_ne_nil
    | cons c cs => rfl
  rw [hdigits, digitsValue?_eq_some (fun c => isDigit_of_mem_toDigits), Nat.ofDigitChars_ten_toDigits]

theorem number?_toDigits {n limit : Nat} (h : n ≤ limit) :
    number? limit (Nat.toDigits 10 n) = some n := by
  unfold number?
  split
  · next r hr =>
      have hplus : '+'.isDigit = true := isDigit_of_mem_toDigits (n := n) (by simp [hr])
      cases hplus
  · rw [digits?_toDigits]
    simpa using h

theorem digits?_eq_none {cs : List Char} {c : Char} (hc : c ∈ cs) (h : c.isDigit = false) :
    digits? cs = none := by
  cases cs with
  | nil => rfl
  | cons d ds => exact digitsValue?_eq_none hc h 0

theorem number?_eq_none {cs : List Char} {c : Char} (hc : c ∈ cs) (h : c.isDigit = false)
    (hplus : c ≠ '+') (limit : Nat) : number? limit cs = none := by
  unfold number?
  split
  · rw [digits?_eq_none (by simpa [hplus] using hc) h, Option.filter_none]
  · rw [digits?_eq_none hc h, Option.filter_none]

end DasherTerminal.Text
