import DasherTerminal.Proofs.Protocol.Effect

/-!
# How far tokens reach

A printable code takes the cursor one place on, a line feed at most one line.
While there are more places left than the tokens can take, nothing scrolls.
-/

namespace DasherTerminal

namespace Screen

/-- The number of places before the cursor, row by row. -/
def place (s : Screen) : Nat := s.cursor.row * s.size.cols + s.cursor.col

variable {s : Screen} {n : Nat}

theorem row_succ_lt (hnext : (s.cursor.row + 1) * s.size.cols ≤ s.place + n)
    (hfits : s.place + n < s.size.cells) : s.cursor.row + 1 < s.size.lines := by
  have hcells : s.size.cells = s.size.lines * s.size.cols := Nat.mul_comm ..
  rw [hcells] at hfits
  exact Nat.lt_of_mul_lt_mul_right (Nat.lt_of_le_of_lt hnext hfits)

/-- `t` is no more than `n` places further on than `s`, and nothing has scrolled. -/
structure GoesOn (s t : Screen) (n : Nat) : Prop where
  place_le : t.place ≤ s.place + n
  history : t.history = s.history

theorem GoesOn.mono {t : Screen} {m : Nat} (h : s.GoesOn t m) (hmn : m ≤ n) : s.GoesOn t n :=
  ⟨Nat.le_trans h.place_le (Nat.add_le_add_left hmn _), h.history⟩

theorem next_line_le : (s.cursor.row + 1) * s.size.cols ≤ s.place + s.size.cols := by
  rw [Nat.succ_mul, place]
  omega

theorem next_line_le_of_eq (hcol : s.cursor.col + 1 = s.size.cols) :
    (s.cursor.row + 1) * s.size.cols ≤ s.place + 1 := by
  rw [Nat.succ_mul, place]
  omega

theorem goesOn_setBlinkEnabled (on : Bool) : s.GoesOn (s.setBlinkEnabled on) n := by
  unfold setBlinkEnabled
  split <;> exact ⟨Nat.le_add_right .., rfl⟩

theorem goesOn_newLine (hnext : (s.cursor.row + 1) * s.size.cols ≤ s.place + n)
    (hfits : s.place + n < s.size.cells) : s.GoesOn s.newLine n := by
  rw [newLine, if_pos (row_succ_lt hnext hfits)]
  exact ⟨hnext, rfl⟩

theorem goesOn_down (hfits : s.place + s.size.cols < s.size.cells) :
    s.GoesOn s.down s.size.cols := by
  have hrow : (s.cursor.row + 1) % s.size.lines = s.cursor.row + 1 :=
    Nat.mod_eq_of_lt (row_succ_lt next_line_le hfits)
  refine ⟨?_, rfl⟩
  simp only [place, down, hrow, Nat.succ_mul]
  omega

theorem WellFormed.goesOn_right (hs : s.WellFormed) (hfits : s.place + 1 < s.size.cells) :
    s.GoesOn s.right 1 := by
  rw [right]
  split
  · exact ⟨Nat.le_refl _, rfl⟩
  · have hcol : s.cursor.col + 1 = s.size.cols := by
      have hlt := hs.col_lt
      omega
    have hnext := next_line_le_of_eq hcol
    have hrow : (s.cursor.row + 1) % s.size.lines = s.cursor.row + 1 :=
      Nat.mod_eq_of_lt (row_succ_lt hnext hfits)
    rw [hrow]
    exact ⟨hnext, rfl⟩

theorem WellFormed.goesOn_put (hs : s.WellFormed) (code : UInt8)
    (hfits : s.place + 1 < s.size.cells) : s.GoesOn (s.put code) 1 := by
  rw [put, advance]
  split
  · exact ⟨Nat.le_refl _, rfl⟩
  · next hright =>
      have hcol : s.cursor.col + 1 = s.size.cols := by
        have hlt := hs.col_lt
        have hle := Nat.le_of_not_lt hright
        dsimp only [write] at hle
        omega
      have hwritten := goesOn_newLine
        (s := s.write s.cursor.col s.cursor.row ⟨code, s.attributes⟩) (next_line_le_of_eq hcol)
        hfits
      exact ⟨hwritten.place_le, hwritten.history⟩

theorem up_down (h : s.cursor.row + 1 < s.size.lines) : s.down.up = s := by
  have hrow : (s.cursor.row + 1) % s.size.lines = s.cursor.row + 1 := Nat.mod_eq_of_lt h
  simp only [up, down, hrow, Nat.succ_ne_zero, if_false, Nat.add_sub_cancel]

end Screen

namespace Token

def isStep : Token → Bool
  | code byte => Decoder.isPrintable byte || byte == 0o30
  | _ => false

def isFeed : Token → Bool
  | code byte => byte == 0o12 || byte == 0o32
  | _ => false

/-- The tokens that may take the cursor any distance on: up from the first line
is the last. -/
def jumps : Token → Bool
  | code byte => byte == 0o27
  | address _ _ => true
  | command _ => false

/-- The places that tokens without jumps can take on lines of the given width. -/
def reach (cols : Nat) (tokens : List Token) : Nat :=
  tokens.countP isStep + tokens.countP isFeed * cols

theorem reach_cons (cols : Nat) (t : Token) (tokens : List Token) :
    reach cols (t :: tokens) = reach cols [t] + reach cols tokens := by
  simp only [reach, List.countP_cons, List.countP_nil, Nat.add_mul]
  omega

theorem one_le_reach {t : Token} (h : t.isStep = true) (cols : Nat) : 1 ≤ reach cols [t] := by
  simp [reach, h]

theorem le_reach {t : Token} (h : t.isFeed = true) (cols : Nat) : cols ≤ reach cols [t] := by
  simp [reach, h]

variable {s : Screen}

theorem goesOn_effect (hs : s.WellFormed) (policy : AttributeOffPolicy) {t : Token}
    (hjumps : t.jumps = false) (hfits : s.place + reach s.size.cols [t] < s.size.cells) :
    s.GoesOn (t.effect policy s) (reach s.size.cols [t]) := by
  cases t with
  | address col row => cases hjumps
  | command byte =>
      simp only [effect]
      split
      · exact ⟨Nat.le_add_right .., rfl⟩
      · split <;> exact ⟨Nat.le_add_right .., rfl⟩
  | code byte =>
      have hback : ∀ n, s.cursor.row * s.size.cols + (s.cursor.col - 1) ≤ s.place + n := by
        intro n
        rw [Screen.place]
        omega
      have hreturn : ∀ n, s.cursor.row * s.size.cols + 0 ≤ s.place + n := by
        intro n
        rw [Screen.place]
        omega
      have hhome : ∀ n, 0 * s.size.cols + 0 ≤ s.place + n := by
        intro n
        omega
      have hstep : (code byte).isStep = true → s.place + 1 < s.size.cells := fun h =>
        Nat.lt_of_le_of_lt (Nat.add_le_add_left (one_le_reach h _) _) hfits
      have hfeed : (code byte).isFeed = true → s.place + s.size.cols < s.size.cells := fun h =>
        Nat.lt_of_le_of_lt (Nat.add_le_add_left (le_reach h _) _) hfits
      simp only [effect]
      unfold Decoder.effect
      split
      case h_1 | h_2 => exact Screen.goesOn_setBlinkEnabled _
      case h_3 | h_6 => exact ⟨hhome _, rfl⟩
      case h_4 =>
        exact (Screen.goesOn_newLine Screen.next_line_le (hfeed rfl)).mono (le_reach rfl _)
      case h_7 => exact ⟨hreturn _, rfl⟩
      case h_14 => cases hjumps
      case h_15 => exact (hs.goesOn_right (hstep rfl)).mono (one_le_reach rfl _)
      case h_16 => exact ⟨hback _, rfl⟩
      case h_17 => exact (Screen.goesOn_down (hfeed rfl)).mono (le_reach rfl _)
      case h_20 =>
        split
        · next hprintable =>
            have hisStep : (code byte).isStep = true := by simp [isStep, hprintable]
            exact (hs.goesOn_put byte (hstep hisStep)).mono (one_le_reach hisStep _)
        · exact ⟨Nat.le_add_right .., rfl⟩
      all_goals exact ⟨Nat.le_add_right .., rfl⟩

theorem goesOn_foldl (hs : s.WellFormed) (policy : AttributeOffPolicy) {tokens : List Token}
    (hjumps : ∀ t ∈ tokens, t.jumps = false)
    (hfits : s.place + reach s.size.cols tokens < s.size.cells) :
    s.GoesOn (tokens.foldl (fun s t => t.effect policy s) s) (reach s.size.cols tokens) := by
  induction tokens generalizing s with
  | nil => exact ⟨Nat.le_add_right .., rfl⟩
  | cons t tokens ih =>
      -- What the first token takes of the places is no longer there for the rest.
      have hsplit := reach_cons s.size.cols t tokens
      have hstep := goesOn_effect hs policy (hjumps t List.mem_cons_self) (by omega)
      have hchanges := changes_effect hs policy t
      have hsize := hchanges.size_eq
      have hplace := hstep.place_le
      have hrest := ih (hchanges.wellFormed hs)
        (fun u hu => hjumps u (List.mem_cons_of_mem t hu)) (by rw [hsize]; omega)
      rw [hsize] at hrest
      refine ⟨?_, hrest.history.trans hstep.history⟩
      have hlast := hrest.place_le
      rw [List.foldl_cons]
      omega

/-! ### Tame tokens -/

/-- Tokens without jumps that reach no further than so many steps and feeds, and
end with the attributes plain and roll on if they begin so. -/
structure Tame (steps feeds : Nat) (tokens : List Token) : Prop where
  jumps : ∀ t ∈ tokens, t.jumps = false
  steps_le : tokens.countP isStep ≤ steps
  feeds_le : tokens.countP isFeed ≤ feeds
  pen : ∀ policy, tokens.foldl (fun p t => t.pen policy p) ⟨.plain, true⟩ = ⟨.plain, true⟩

instance (steps feeds : Nat) (tokens : List Token) : Decidable (Tame steps feeds tokens) :=
  decidable_of_iff
    ((∀ t ∈ tokens, t.jumps = false) ∧ tokens.countP isStep ≤ steps ∧
      tokens.countP isFeed ≤ feeds ∧ ∀ policy ∈ [AttributeOffPolicy.resetAll, .specific],
        tokens.foldl (fun p t => t.pen policy p) ⟨.plain, true⟩ = ⟨.plain, true⟩)
    ⟨fun h => ⟨h.1, h.2.1, h.2.2.1, fun policy => h.2.2.2 policy (by cases policy <;> simp)⟩,
      fun h => ⟨h.jumps, h.steps_le, h.feeds_le, fun policy _ => h.pen policy⟩⟩

variable {steps feeds : Nat} {tokens : List Token}

theorem Tame.reach_le (h : Tame steps feeds tokens) (cols : Nat) :
    reach cols tokens ≤ steps + feeds * cols :=
  Nat.add_le_add h.steps_le (Nat.mul_le_mul_right cols h.feeds_le)

theorem Tame.append {steps' feeds' : Nat} {tokens' : List Token} (h : Tame steps feeds tokens)
    (h' : Tame steps' feeds' tokens') :
    Tame (steps + steps') (feeds + feeds') (tokens ++ tokens') := by
  refine ⟨?_, ?_, ?_, ?_⟩
  · intro t ht
    exact (List.mem_append.mp ht).elim (h.jumps t) (h'.jumps t)
  · rw [List.countP_append]
    exact Nat.add_le_add h.steps_le h'.steps_le
  · rw [List.countP_append]
    exact Nat.add_le_add h.feeds_le h'.feeds_le
  · intro policy
    rw [List.foldl_append, h.pen policy, h'.pen policy]

theorem tame_text {text : List UInt8} (htext : ∀ byte ∈ text, Decoder.isPrintable byte = true)
    (hlength : text.length ≤ steps) : Tame steps 0 (text.map code) := by
  refine ⟨?_, ?_, ?_, fun policy => foldl_pen_text policy htext _⟩
  · intro t ht
    obtain ⟨byte, hbyte, rfl⟩ := List.mem_map.mp ht
    have hne : byte ≠ 0o27 := by
      rintro rfl
      exact absurd (htext _ hbyte) (by decide)
    simpa [jumps] using hne
  · rw [← List.length_map code] at hlength
    exact Nat.le_trans List.countP_le_length hlength
  · rw [List.countP_map, Nat.le_zero, List.countP_eq_zero]
    intro byte hbyte hfeed
    have hcode : byte = 0o12 ∨ byte = 0o32 := by simpa [isFeed] using hfeed
    rcases hcode with rfl | rfl <;> exact absurd (htext _ hbyte) (by decide)

end Token

/-- On the way from `s`, `t` is at most at place `n`, ready to write plainly in
roll mode, and nothing has scrolled. -/
structure Screen.Underway (s t : Screen) (n : Nat) : Prop where
  changes : s.Changes t
  pen : t.pen = ⟨.plain, true⟩
  place_le : t.place ≤ n
  history : t.history = s.history

theorem Screen.Underway.foldl {s t : Screen} {n steps feeds : Nat} {tokens : List Token}
    (h : s.Underway t n) (hs : s.WellFormed) (policy : AttributeOffPolicy)
    (htame : Token.Tame steps feeds tokens)
    (hfits : n + (steps + feeds * s.size.cols) < s.size.cells) :
    s.Underway (tokens.foldl (fun s t => t.effect policy s) t)
      (n + (steps + feeds * s.size.cols)) := by
  have ht := h.changes.wellFormed hs
  have hplace := h.place_le
  have hreach := htame.reach_le s.size.cols
  have hsize := h.changes.size_eq
  have hon := Token.goesOn_foldl ht policy htame.jumps (by rw [hsize]; omega)
  rw [hsize] at hon
  refine ⟨h.changes.trans (Token.changes_foldl ht policy tokens), ?_, ?_,
    hon.history.trans h.history⟩
  · rw [Token.pen_foldl, h.pen, htame.pen policy]
  · have hlast := hon.place_le
    omega

theorem Screen.Underway.foldl_address {s t : Screen} {n : Nat} (h : s.Underway t n)
    (policy : AttributeOffPolicy) {x y : Nat} (hx : x < s.size.cols) (hy : y < s.size.lines) :
    let r := [Token.address (UInt8.ofNat (x + 1)) (UInt8.ofNat (y + 1))].foldl
      (fun s u => u.effect policy s) t
    r.cursor = ⟨y, x⟩ ∧ s.Underway r (y * s.size.cols + x) := by
  have hsize := h.changes.size_eq
  rw [← hsize] at hx hy
  have hplace : ({ t with cursor := ⟨y, x⟩ } : Screen).place = y * s.size.cols + x :=
    congrArg (fun size : ScreenSize => y * size.cols + x) hsize
  rw [List.foldl_cons, List.foldl_nil, Token.effect_address policy hx hy]
  exact ⟨rfl, h.changes.trans (Screen.changes_cursor _ hy hx), h.pen, Nat.le_of_eq hplace,
    h.history⟩

theorem Screen.Underway.foldl_down_up {s t : Screen} {n : Nat} (h : s.Underway t n)
    (policy : AttributeOffPolicy) (hfits : n + s.size.cols < s.size.cells) :
    [Token.code 0o32, Token.code 0o27].foldl (fun s u => u.effect policy s) t = t := by
  have hplace := h.place_le
  have hsize := h.changes.size_eq
  exact Screen.up_down (Screen.row_succ_lt Screen.next_line_le (by rw [hsize]; omega))

end DasherTerminal
