import DasherTerminal.Proofs.Protocol.Grammar

/-!
# Tokens on a screen

Tokens change a screen as their bytes do. Which attributes the next code is
written with, and whether the screen rolls, follows from the tokens alone.
-/

namespace DasherTerminal

/-- How the next code is written: its attributes, and whether the last line rolls. -/
structure Pen where
  attributes : Attributes
  roll : Bool
  deriving DecidableEq, Repr

def Screen.pen (s : Screen) : Pen := ⟨s.attributes, s.roll⟩

namespace Token

/-- The pen after a token. -/
def pen (policy : AttributeOffPolicy) (t : Token) (p : Pen) : Pen :=
  match t with
  | code 0o14 => { p with attributes := .plain }
  | code 0o16 => { p with attributes := { p.attributes with blink := true } }
  | code 0o17 => { p with attributes := { p.attributes with blink := false } }
  | code 0o22 => { p with roll := true }
  | code 0o23 => { p with roll := false }
  | code 0o24 => { p with attributes := { p.attributes with underscore := true } }
  | code 0o25 => { p with attributes := policy.apply .underscore p.attributes }
  | code 0o34 => { p with attributes := { p.attributes with dim := true } }
  | code 0o35 => { p with attributes := policy.apply .dim p.attributes }
  | command byte =>
    if byte = 'D'.toUInt8 then { p with attributes := { p.attributes with reverse := true } }
    else if byte = 'E'.toUInt8 then { p with attributes := { p.attributes with reverse := false } }
    else p
  -- Blinking is on or off for the whole screen, so 003 and 004 are not here.
  | _ => p

variable {s : Screen}

theorem effect_address (policy : AttributeOffPolicy) {x y : Nat} (hx : x < s.size.cols)
    (hy : y < s.size.lines) :
    (address (UInt8.ofNat (x + 1)) (UInt8.ofNat (y + 1))).effect policy s =
      { s with cursor := ⟨y, x⟩ } := by
  have hcols := s.size.cols_lt
  have hlines := s.size.lines_lt
  have hcol : (UInt8.ofNat (x + 1)).toNat = x + 1 :=
    UInt8.toNat_ofNat_of_lt (show x + 1 < 256 by omega)
  have hrow : (UInt8.ofNat (y + 1)).toNat = y + 1 :=
    UInt8.toNat_ofNat_of_lt (show y + 1 < 256 by omega)
  rw [effect, hcol, hrow, if_pos (by omega)]
  rfl

theorem changes_effect (hs : s.WellFormed) (policy : AttributeOffPolicy) (t : Token) :
    s.Changes (t.effect policy s) := by
  cases t with
  | code byte => exact Decoder.changes_effect hs policy byte
  | address col row =>
      rw [← Decoder.effectWith_address]
      exact Decoder.changes_effectWith _ _
  | command byte => exact Decoder.changes_effectWith .command [byte]

theorem changes_foldl (hs : s.WellFormed) (policy : AttributeOffPolicy) (tokens : List Token) :
    s.Changes (tokens.foldl (fun s t => t.effect policy s) s) := by
  induction tokens generalizing s with
  | nil => exact .refl
  | cons t tokens ih =>
      have hstep := changes_effect hs policy t
      exact hstep.trans (ih (hstep.wellFormed hs))

theorem pen_newLine (s : Screen) : s.newLine.pen = s.pen := by
  unfold Screen.newLine
  split
  · rfl
  · split <;> rfl

theorem pen_right (s : Screen) : s.right.pen = s.pen := by
  unfold Screen.right
  split <;> rfl

theorem pen_setBlinkEnabled (s : Screen) (on : Bool) : (s.setBlinkEnabled on).pen = s.pen := by
  unfold Screen.setBlinkEnabled
  split <;> rfl

theorem pen_put (s : Screen) (byte : UInt8) : (s.put byte).pen = s.pen := by
  unfold Screen.put Screen.advance
  split
  · rfl
  · exact pen_newLine _

theorem pen_foldl_put (text : List UInt8) (s : Screen) : (text.foldl Screen.put s).pen = s.pen := by
  induction text generalizing s with
  | nil => rfl
  | cons byte text ih => rw [List.foldl_cons, ih, pen_put]

theorem pen_of_isPrintable (policy : AttributeOffPolicy) {byte : UInt8}
    (h : Decoder.isPrintable byte = true) (p : Pen) : (code byte).pen policy p = p := by
  unfold pen
  split
  case h_10 heq => cases heq
  case h_11 => rfl
  all_goals
    next heq =>
      cases heq
      exact absurd h (by decide)

theorem pen_effect (policy : AttributeOffPolicy) (t : Token) (s : Screen) :
    (t.effect policy s).pen = t.pen policy s.pen := by
  cases t with
  | code byte =>
      rw [effect]
      unfold Decoder.effect
      split
      case h_1 | h_2 => exact pen_setBlinkEnabled s _
      case h_4 => exact pen_newLine s
      case h_15 => exact pen_right s
      case h_20 =>
        have hpen : (code byte).pen policy s.pen = s.pen := by
          unfold pen
          split <;> grind
        rw [hpen]
        split
        · exact pen_put s byte
        · rfl
      all_goals rfl
  | address col row =>
      simp only [effect]
      split <;> rfl
  | command byte =>
      simp only [effect, pen]
      split
      · rfl
      · split <;> rfl

theorem pen_foldl (policy : AttributeOffPolicy) (tokens : List Token) (s : Screen) :
    (tokens.foldl (fun s t => t.effect policy s) s).pen =
      tokens.foldl (fun p t => t.pen policy p) s.pen := by
  induction tokens generalizing s with
  | nil => rfl
  | cons t tokens ih => rw [List.foldl_cons, ih, pen_effect, List.foldl_cons]

/-! ### Texts -/

theorem flatMap_code (text : List UInt8) : (text.map code).flatMap bytes = text := by
  induction text with
  | nil => rfl
  | cons byte text ih => rw [List.map_cons, List.flatMap_cons, ih, bytes, List.singleton_append]

variable {text : List UInt8}

theorem isToken_of_mem_text (htext : ∀ byte ∈ text, Decoder.isPrintable byte = true)
    (model : Model) {t : Token} (ht : t ∈ text.map code) : t.IsToken model := by
  obtain ⟨byte, hbyte, rfl⟩ := List.mem_map.mp ht
  exact Decoder.opcode?_of_isPrintable model (htext byte hbyte)

theorem foldl_effect_text (policy : AttributeOffPolicy)
    (htext : ∀ byte ∈ text, Decoder.isPrintable byte = true) (s : Screen) :
    (text.map code).foldl (fun s t => t.effect policy s) s = text.foldl Screen.put s := by
  induction text generalizing s with
  | nil => rfl
  | cons byte text ih =>
      have hbyte := Decoder.effect_of_isPrintable policy (htext byte List.mem_cons_self) s
      rw [List.map_cons, List.foldl_cons, effect, hbyte,
        ih fun b hb => htext b (List.mem_cons_of_mem byte hb), List.foldl_cons]

theorem foldl_pen_text (policy : AttributeOffPolicy)
    (htext : ∀ byte ∈ text, Decoder.isPrintable byte = true) (p : Pen) :
    (text.map code).foldl (fun p t => t.pen policy p) p = p := by
  induction text with
  | nil => rfl
  | cons byte text ih =>
      rw [List.map_cons, List.foldl_cons, pen_of_isPrintable policy (htext byte List.mem_cons_self),
        ih fun b hb => htext b (List.mem_cons_of_mem byte hb)]

end Token

end DasherTerminal
