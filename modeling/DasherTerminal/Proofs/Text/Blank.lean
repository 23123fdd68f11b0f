import DasherTerminal.Text.Blank

/-!
# Trimming and splitting

What trimming keeps, and where a text is split.
-/

namespace DasherTerminal.Text

variable {cs : List Char} {c : Char}

/-! ### Trimming -/

theorem trimRight_isPrefix (cs : List Char) : trimRight cs <+: cs := by
  have hsuffix : cs.reverse.dropWhile isBlank <:+ cs.reverse := List.dropWhile_suffix isBlank
  simpa [trimRight] using List.reverse_prefix.mpr hsuffix

theorem dropWhile_of_head (h : ∀ d ∈ cs.head?, isBlank d = false) : cs.dropWhile isBlank = cs := by
  cases cs with
  | nil => rfl
  | cons d ds =>
      have hd : isBlank d = false := h d rfl
      rw [List.dropWhile_cons_of_neg (by simp [hd])]

theorem trim_eq_self (h : ∀ c ∈ cs, isBlank c = false) : trim cs = cs := by
  have hleft : cs.dropWhile isBlank = cs :=
    dropWhile_of_head fun d hd => h d (List.mem_of_head? hd)
  have hright : cs.reverse.dropWhile isBlank = cs.reverse :=
    dropWhile_of_head fun d hd => h d (List.mem_reverse.mp (List.mem_of_head? hd))
  rw [trim, hleft, trimRight, hright, List.reverse_reverse]

theorem mem_dropWhile (hc : c ∈ cs) (h : isBlank c = false) : c ∈ cs.dropWhile isBlank := by
  induction cs with
  | nil => simp at hc
  | cons d ds ih =>
      by_cases hd : isBlank d = true
      · rw [List.dropWhile_cons_of_pos hd]
        rcases List.mem_cons.mp hc with rfl | hc
        · simp [h] at hd
        · exact ih hc
      · rw [List.dropWhile_cons_of_neg hd]
        exact hc

theorem mem_trimRight (hc : c ∈ cs) (h : isBlank c = false) : c ∈ trimRight cs :=
  List.mem_reverse.mpr (mem_dropWhile (List.mem_reverse.mpr hc) h)

theorem mem_trim (hc : c ∈ cs) (h : isBlank c = false) : c ∈ trim cs :=
  mem_trimRight (mem_dropWhile hc h) h

theorem mem_of_mem_trim (h : c ∈ trim cs) : c ∈ cs :=
  (List.dropWhile_sublist isBlank).subset ((trimRight_isPrefix _).subset h)

theorem head?_trimRight (h : c ∈ trimRight cs) : (trimRight cs).head? = cs.head? := by
  obtain ⟨rest, hrest⟩ := trimRight_isPrefix cs
  cases htrim : trimRight cs with
  | nil => simp [htrim] at h
  | cons d ds =>
      rw [htrim] at hrest
      rw [← hrest]
      rfl

theorem isBlank_head?_trim (h : (trim cs).head? = some c) : isBlank c = false := by
  have hhead : (cs.dropWhile isBlank).head? = some c := by
    rw [← h]
    exact (head?_trimRight (List.mem_of_head? h)).symm
  have hnot := List.head?_dropWhile_not isBlank cs
  rw [hhead] at hnot
  simpa using hnot

theorem head?_trim (h : cs.head? = some c) (hc : isBlank c = false) : (trim cs).head? = some c := by
  have hleft : cs.dropWhile isBlank = cs := by
    apply dropWhile_of_head
    intro d hd
    rw [h] at hd
    cases hd
    exact hc
  rw [trim, hleft, head?_trimRight (mem_trimRight (List.mem_of_head? h) hc), h]

/-! ### Splitting -/

section

variable {p : Char → Bool} {a b : List Char}

theorem splitFirst?_append (ha : ∀ x ∈ a, p x = false) (hc : p c = true) :
    splitFirst? p (a ++ c :: b) = some (a, b) := by
  induction a with
  | nil => simp [splitFirst?, hc]
  | cons d a ih => simp [splitFirst?, ha d (by simp), ih fun x hx => ha x (by simp [hx])]

theorem splitFirst?_eq_none (h : ∀ x ∈ cs, p x = false) : splitFirst? p cs = none := by
  induction cs with
  | nil => rfl
  | cons d cs ih => simp [splitFirst?, h d (by simp), ih fun x hx => h x (by simp [hx])]

theorem splitLast?_eq_none (h : ∀ x ∈ cs, p x = false) : splitLast? p cs = none := by
  induction cs with
  | nil => rfl
  | cons d cs ih => simp [splitLast?, h d (by simp), ih fun x hx => h x (by simp [hx])]

theorem splitLast?_append (hb : ∀ x ∈ b, p x = false) (hc : p c = true) :
    splitLast? p (a ++ c :: b) = some (a, b) := by
  induction a with
  | nil => simp [splitLast?, splitLast?_eq_none hb, hc]
  | cons d a ih => simp [splitLast?, ih]

theorem eq_append_of_splitLast? (h : splitLast? p cs = some (a, b)) : ∃ c, cs = a ++ c :: b := by
  induction cs generalizing a with
  | nil => simp [splitLast?] at h
  | cons d cs ih =>
      rw [splitLast?] at h
      split at h
      · next a' b' hcs =>
          cases h
          obtain ⟨c, rfl⟩ := ih hcs
          exact ⟨c, rfl⟩
      · split at h
        · cases h
          exact ⟨d, rfl⟩
        · cases h

end

end DasherTerminal.Text
