import DasherTerminal.Proofs.Protocol.Grammar

/-!
# What the decoder does not look at

A code does the same to a screen whatever its model, its dirty flags and its
blink phase are. It leaves the model and the phase as they are, and it may raise
flags, but nothing else depends on them.
-/

namespace DasherTerminal

namespace Screen

/-- The operation keeps the model and the blink phase and reads neither of them
nor the dirty flags, though it may write the latter. -/
def Blind (f : Screen → Screen) : Prop :=
  ∀ (s : Screen) (model : Model) (dirty : Grid Bool) (blinkPhase : Bool),
    ∃ flags, f { s with model, dirty, blinkPhase } =
        { f s with model, dirty := flags, blinkPhase } ∧
      (dirty = s.dirty → flags = (f s).dirty)

theorem Blind.comp {f g : Screen → Screen} (hg : Blind g) (hf : Blind f) : Blind (g ∘ f) := by
  intro s model dirty blinkPhase
  obtain ⟨flags, hfirst, hflags⟩ := hf s model dirty blinkPhase
  obtain ⟨flags', hsecond, hflags'⟩ := hg (f s) model flags blinkPhase
  exact ⟨flags', (congrArg g hfirst).trans hsecond, hflags' ∘ hflags⟩

theorem Blind.keeps {f : Screen → Screen} (hf : Blind f) (s : Screen) :
    (f s).model = s.model ∧ (f s).blinkPhase = s.blinkPhase := by
  obtain ⟨flags, hsame, -⟩ := hf s s.model s.dirty s.blinkPhase
  have hself : f s = { f s with model := s.model, dirty := flags, blinkPhase := s.blinkPhase } :=
    hsame
  exact ⟨(congrArg model hself).trans rfl, (congrArg blinkPhase hself).trans rfl⟩

theorem Blind.setModel {f : Screen → Screen} (hf : Blind f) (s : Screen) (model : Model) :
    f (s.setModel model) = (f s).setModel model := by
  obtain ⟨flags, hother, hflags⟩ := hf s model s.dirty s.blinkPhase
  rw [hflags rfl] at hother
  refine hother.trans ?_
  rw [Screen.setModel, ← (hf.keeps s).2]

theorem Blind.redrawn {f : Screen → Screen} (hf : Blind f) (s : Screen) (dirty : Grid Bool)
    (blinkPhase : Bool) :
    ∃ flags, f { s with dirty, blinkPhase } = { f s with dirty := flags, blinkPhase } := by
  obtain ⟨flags, hother, -⟩ := hf s s.model dirty blinkPhase
  refine ⟨flags, hother.trans ?_⟩
  rw [← (hf.keeps s).1]

theorem blind_setBlinkEnabled (on : Bool) : Blind (·.setBlinkEnabled on) := by
  intro s model dirty blinkPhase
  dsimp only [setBlinkEnabled]
  split
  · exact ⟨dirty, rfl, id⟩
  · exact ⟨_, rfl, fun h => h ▸ rfl⟩

theorem blind_newLine : Blind newLine := by
  intro s model dirty blinkPhase
  dsimp only [newLine]
  split
  · exact ⟨dirty, rfl, id⟩
  · split
    · exact ⟨_, rfl, fun h => h ▸ rfl⟩
    · exact ⟨dirty, rfl, id⟩

theorem blind_right : Blind right := by
  intro s model dirty blinkPhase
  dsimp only [right]
  split <;> exact ⟨dirty, rfl, id⟩

theorem blind_advance : Blind advance := by
  intro s model dirty blinkPhase
  unfold advance
  split
  · exact ⟨dirty, rfl, id⟩
  · exact blind_newLine s model dirty blinkPhase

theorem blind_put (code : UInt8) : Blind (·.put code) := by
  have hwrite : Blind fun s => s.write s.cursor.col s.cursor.row ⟨code, s.attributes⟩ :=
    fun s model dirty blinkPhase => ⟨_, rfl, fun h => h ▸ rfl⟩
  exact blind_advance.comp hwrite

end Screen

namespace Decoder

theorem blind_effect (policy : AttributeOffPolicy) (byte : UInt8) :
    Screen.Blind (effect policy byte) := by
  intro s model dirty blinkPhase
  unfold effect
  split
  case h_1 | h_2 => exact Screen.blind_setBlinkEnabled _ s model dirty blinkPhase
  case h_4 => exact Screen.blind_newLine s model dirty blinkPhase
  case h_15 => exact Screen.blind_right s model dirty blinkPhase
  case h_20 =>
    split
    · exact Screen.blind_put byte s model dirty blinkPhase
    · exact ⟨dirty, rfl, id⟩
  all_goals exact ⟨_, rfl, fun h => h ▸ rfl⟩

theorem blind_effectWith (op : Opcode) (given : List UInt8) :
    Screen.Blind (effectWith op given) := by
  intro s model dirty blinkPhase
  unfold effectWith
  split
  · dsimp only
    split <;> exact ⟨dirty, rfl, id⟩
  · split
    · exact ⟨dirty, rfl, id⟩
    · split <;> exact ⟨dirty, rfl, id⟩
  · exact ⟨dirty, rfl, id⟩

/-- A byte is taken in the same way whatever has been drawn and whatever is hidden. -/
theorem step_redrawn (d : Decoder) (s : Screen) (dirty : Grid Bool) (blinkPhase : Bool)
    (byte : UInt8) :
    ∃ flags, d.step { s with dirty, blinkPhase } byte =
      ((d.step s byte).1, { (d.step s byte).2 with dirty := flags, blinkPhase }) := by
  unfold step
  split
  · unfold dispatch
    dsimp only
    split
    · exact ⟨dirty, rfl⟩
    · obtain ⟨flags, heffect⟩ := (blind_effect d.policy byte).redrawn s dirty blinkPhase
      refine ⟨flags, Prod.ext rfl ?_⟩
      split <;> exact heffect
  · next op given _ =>
      dsimp only
      split
      · exact ⟨dirty, rfl⟩
      · obtain ⟨flags, heffect⟩ :=
          (blind_effectWith op (given ++ [byte])).redrawn s dirty blinkPhase
        exact ⟨flags, Prod.ext rfl heffect⟩

end Decoder

namespace Token

theorem blind_effect (policy : AttributeOffPolicy) (t : Token) :
    Screen.Blind (t.effect policy) := by
  cases t with
  | code byte => exact Decoder.blind_effect policy byte
  | address col row =>
      have heffect : (address col row).effect policy =
          Decoder.effectWith .cursorAddress [col, row] :=
        funext fun _ => (Decoder.effectWith_address policy col row).symm
      rw [heffect]
      exact Decoder.blind_effectWith _ _
  | command byte => exact Decoder.blind_effectWith .command [byte]

theorem foldl_effect_setModel (policy : AttributeOffPolicy) (tokens : List Token) (s : Screen)
    (model : Model) :
    tokens.foldl (fun s t => t.effect policy s) (s.setModel model) =
      (tokens.foldl (fun s t => t.effect policy s) s).setModel model := by
  induction tokens generalizing s with
  | nil => rfl
  | cons t tokens ih => rw [List.foldl_cons, (blind_effect policy t).setModel, ih, List.foldl_cons]

end Token

end DasherTerminal
