import Mathlib.Algebra.Ring.Nat
import Mathlib.Data.List.Basic
import DasherTerminal.Text.Utf8

/-!
# Where a text can be split

A text can be split at a byte exactly if the characters in front of that byte are
whole ones.
-/

namespace DasherTerminal.Text

theorem byteIndex_append_length (left right : List Char) :
    byteIndex (left ++ right) left.length = (left.map Char.utf8Size).sum := by
  induction left with
  | nil => cases right <;> rfl
  | cons c left ih =>
    rw [List.cons_append, List.length_cons, byteIndex, ih, List.map_cons, List.sum_cons]

theorem splitAtByte?_sum (left right : List Char) :
    splitAtByte? (left ++ right) (left.map Char.utf8Size).sum = some (left, right) := by
  induction left with
  | nil => cases right <;> rfl
  | cons c left ih =>
    obtain ⟨i, hi⟩ : ∃ i, c.utf8Size + (left.map Char.utf8Size).sum = i + 1 :=
      ⟨c.utf8Size - 1 + (left.map Char.utf8Size).sum, by have := c.utf8Size_pos; omega⟩
    have hrest : i + 1 - c.utf8Size = (left.map Char.utf8Size).sum := by omega
    rw [List.cons_append, List.map_cons, List.sum_cons, hi, splitAtByte?, if_pos (by omega), hrest,
      ih, Option.map_some]

/-- Only places between characters split a text. -/
theorem eq_append_of_splitAtByte? {cs left right : List Char} {i : Nat}
    (h : splitAtByte? cs i = some (left, right)) :
    cs = left ++ right ∧ i = (left.map Char.utf8Size).sum := by
  fun_induction splitAtByte? cs i generalizing left with
  | case1 cs =>
    cases h
    exact ⟨rfl, rfl⟩
  | case2 => cases h
  | case3 c cs i hsize ih =>
    obtain ⟨⟨rest, _⟩, hrest, heq⟩ := Option.map_eq_some_iff.mp h
    cases heq
    obtain ⟨rfl, hi⟩ := ih hrest
    refine ⟨rfl, ?_⟩
    rw [List.map_cons, List.sum_cons, ← hi]
    omega
  | case4 => cases h

theorem utf8ByteSize_ofList_eq_sum (cs : List Char) :
    (String.ofList cs).utf8ByteSize = (cs.map Char.utf8Size).sum := by
  induction cs with
  | nil => rfl
  | cons c cs ih =>
    rw [← List.singleton_append, String.ofList_append, String.utf8ByteSize_append, ih,
      ← String.singleton_eq_ofList, String.utf8ByteSize_singleton]
    simp

/-- A text is split at exactly those bytes where a character begins or it ends. -/
theorem isSome_splitAtByte?_iff {cs : List Char} {i : Nat} :
    (splitAtByte? cs i).isSome ↔ (⟨i⟩ : String.Pos.Raw).IsValid (String.ofList cs) := by
  rw [String.Pos.Raw.isValid_ofList]
  constructor
  · intro h
    obtain ⟨⟨left, right⟩, hsplit⟩ := Option.isSome_iff_exists.mp h
    obtain ⟨rfl, rfl⟩ := eq_append_of_splitAtByte? hsplit
    exact ⟨left.length, by rw [List.take_left, utf8ByteSize_ofList_eq_sum]⟩
  · rintro ⟨n, hn⟩
    have hi : i = ((cs.take n).map Char.utf8Size).sum := by
      rw [← utf8ByteSize_ofList_eq_sum]
      exact hn
    have hsplit := splitAtByte?_sum (cs.take n) (cs.drop n)
    rw [List.take_append_drop, ← hi] at hsplit
    rw [hsplit]
    rfl

end DasherTerminal.Text
