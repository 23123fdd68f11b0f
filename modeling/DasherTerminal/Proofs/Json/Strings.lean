import Mathlib.Data.List.Basic
import DasherTerminal.Json.Printer
import DasherTerminal.Json.Reader

/-!
# Written strings are read back
-/

namespace DasherTerminal.Json

/-- What a written character is read as, before surrogates are paired. -/
def pieceOf (c : Char) : Piece :=
  if c ∈ ['\x08', '\x0c', '\n', '\r', '\t'] then .char c
  else if c.toNat < 0x20 then .unit c.toNat
  else .char c

theorem hexDigit?_hexChar : ∀ n < 16, hexDigit? (hexChar n) = some n := by
  decide

theorem unit?_hexChar {n : Nat} (h : n < 0x20) :
    unit? '0' '0' (hexChar (n / 16)) (hexChar (n % 16)) = some n := by
  have hhigh := hexDigit?_hexChar (n / 16) (by omega)
  have hlow := hexDigit?_hexChar (n % 16) (by omega)
  have hzero : hexDigit? '0' = some 0 := by decide
  simp only [unit?, hzero, hhigh, hlow, Option.bind_eq_bind, Option.bind_some]
  congr 1
  omega

theorem pieces?_unit {a b c d : Char} {n : Nat} (h : unit? a b c d = some n) (rest : List Char) :
    pieces? ('\\' :: 'u' :: a :: b :: c :: d :: rest) =
      (pieces? rest).map fun (ps, rest) => (.unit n :: ps, rest) := by
  rw [pieces?, h]
  cases pieces? rest <;> rfl

theorem pieces?_escape {e c : Char} (hescape : escape? e = some c) (rest : List Char) :
    pieces? ('\\' :: e :: rest) = (pieces? rest).map fun (ps, rest) => (.char c :: ps, rest) := by
  have hu : e ≠ 'u' := by
    rintro rfl
    cases hescape
  rw [pieces?.eq_def]
  split
  · next h => cases h
  · next h => exact absurd (List.cons.inj h).1 (by decide)
  · next h => exact absurd (List.cons.inj (List.cons.inj h).2).1 hu
  · next h =>
      obtain ⟨rfl, rfl⟩ := List.cons.inj (List.cons.inj h).2
      rw [hescape]
      cases pieces? rest <;> rfl
  · next hnot h =>
      obtain ⟨rfl, rfl⟩ := List.cons.inj h
      exact absurd rfl (hnot _ _ rfl)

theorem pieces?_plain {c : Char} (hquote : c ≠ '"') (hslash : c ≠ '\\') (hplain : ¬c.toNat < 0x20)
    (rest : List Char) :
    pieces? (c :: rest) = (pieces? rest).map fun (ps, rest) => (.char c :: ps, rest) := by
  rw [pieces?.eq_def]
  split
  · next h => cases h
  · next h => exact absurd (List.cons.inj h).1 hquote
  · next h => exact absurd (List.cons.inj h).1 hslash
  · next h => exact absurd (List.cons.inj h).1 hslash
  · next h =>
      obtain ⟨rfl, rfl⟩ := List.cons.inj h
      rw [if_neg (by simp [hplain, hslash])]
      cases pieces? rest <;> rfl

theorem pieces?_writeChar (c : Char) (rest : List Char) :
    pieces? (writeChar c ++ rest) =
      (pieces? rest).map fun (ps, rest) => (pieceOf c :: ps, rest) := by
  unfold writeChar
  split
  case h_8 hquote hslash hb hf hn hr ht =>
    have hshort : c ∉ ['\x08', '\x0c', '\n', '\r', '\t'] := by simp_all
    rw [pieceOf, if_neg hshort]
    split_ifs with hcontrol
    · exact pieces?_unit (unit?_hexChar hcontrol) rest
    · exact pieces?_plain hquote hslash hcontrol rest
  all_goals exact pieces?_escape rfl rest

theorem pieces?_flatMap (cs rest : List Char) :
    pieces? (cs.flatMap writeChar ++ '"' :: rest) = some (cs.map pieceOf, rest) := by
  induction cs with
  | nil => rfl
  | cons c cs ih =>
      rw [List.flatMap_cons, List.append_assoc, pieces?_writeChar, ih]
      rfl

theorem characters?_unit {n : Nat} (h : n < 0x20) (ps : List Piece) :
    characters? (.unit n :: ps) = (characters? ps).map (Char.ofNat n :: ·) := by
  have hhigh : isHigh n = false := by
    simp [isHigh]
    omega
  have hlow : isLow n = false := by
    simp [isLow]
    omega
  rw [characters?.eq_def]
  split
  · next h => cases h
  · next h => cases h
  · next h =>
      cases h
      simp [hhigh, hlow]
  · next h =>
      cases h
      simp [hhigh, hlow]

theorem characters?_pieceOf (c : Char) (ps : List Piece) :
    characters? (pieceOf c :: ps) = (characters? ps).map (c :: ·) := by
  unfold pieceOf
  split_ifs with hshort hcontrol
  · rw [characters?]
  · rw [characters?_unit hcontrol, Char.ofNat_toNat]
  · rw [characters?]

theorem characters?_map_pieceOf (cs : List Char) : characters? (cs.map pieceOf) = some cs := by
  induction cs with
  | nil => rfl
  | cons c cs ih => rw [List.map_cons, characters?_pieceOf, ih, Option.map_some]

/-- A written string is read as its text, whatever follows. -/
theorem string?_writeString (text : String) (rest : List Char) :
    string? (text.toList.flatMap writeChar ++ '"' :: rest) = some (some text, rest) := by
  simp [string?, pieces?_flatMap, characters?_map_pieceOf]

end DasherTerminal.Json
