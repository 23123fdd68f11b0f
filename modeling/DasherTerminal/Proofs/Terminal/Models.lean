import DasherTerminal.Proofs.Protocol.Reverse
import DasherTerminal.Proofs.Protocol.Unseen
import DasherTerminal.Proofs.Terminal.Operation

/-!
# What the models have in common

The models share the base codes. What one of them shows differs from what
another shows only where the host uses commands, which a D200 does not know,
and only a D211 says what it is.
-/

namespace DasherTerminal

namespace Token

/-- A stream that uses commands nowhere is cut alike for all models. -/
theorem cut_eq_of_commandless {stream : List UInt8}
    (h : code 0o36 ∉ (cut false stream).1) (hasCommands : Bool) :
    cut hasCommands stream = cut false stream := by
  fun_induction cut false stream with
  | case1 => rfl
  | case2 b hb =>
      have hb' : b = 0o20 := by simpa using hb
      simp [cut, hb']
  | case3 b hb =>
      have hcode : b ≠ 0o36 := by
        rintro rfl
        exact h List.mem_cons_self
      simp only [not_or] at hb
      simp [cut, hb.1, hcode]
  | case4 c => simp [cut]
  | case5 c d rest ih =>
      have hrest := ih fun hmem => h (List.mem_cons_of_mem _ hmem)
      simp [cut, hrest]
  | case6 b c rest hb hcommand ih => exact absurd hcommand.2 Bool.false_ne_true
  | case7 b c rest hb hcommand ih =>
      have hcode : b ≠ 0o36 := by
        rintro rfl
        exact h List.mem_cons_self
      have hrest := ih fun hmem => h (List.mem_cons_of_mem _ hmem)
      rw [cut.eq_def]
      dsimp only
      rw [if_neg hb, if_neg fun h => hcode h.1, hrest]

theorem not_mem_cut_false (stream : List UInt8) (byte : UInt8) :
    command byte ∉ (cut false stream).1 := by
  intro hmem
  have htoken : (command byte).IsToken .d200 := isToken_of_mem_cut hmem
  exact absurd htoken Bool.false_ne_true

end Token

namespace Terminal

theorem fresh_model (setup : Setup) (model : Model) :
    fresh { setup with model } = (fresh setup).mapScreen (·.setModel model) := by
  have hblind := Screen.blind_setBlinkEnabled setup.blinkEnabled
  have hscreen :=
    hblind.setModel (.empty setup.size setup.model (.empty setup.historyCapacity)) model
  exact congrArg (Terminal.mk · (.fresh setup.policy)) hscreen

/-- A terminal shows the tokens that its model finds in the stream. -/
theorem process_fresh (setup : Setup) (model : Model) (bytes : List UInt8) :
    let cut := Token.cut model.hasCommandPrefix bytes
    (fresh { setup with model }).process bytes =
      { screen := (cut.1.foldl (fun s t => t.effect setup.policy s) (fresh setup).screen).setModel
          model
        decoder :=
          { policy := setup.policy
            wait := .after cut.2
            notifications := cut.1.flatMap Token.notifications
            responses := cut.1.flatMap (Token.responses model) } } := by
  intro cut
  have hrun := Decoder.run_eq_tokens (d := .fresh setup.policy)
    (s := (fresh setup).screen.setModel model) rfl bytes
  rw [Token.foldl_effect_setModel] at hrun
  rw [fresh_model, process]
  exact congrArg (fun p : Decoder × Screen => Terminal.mk p.2 p.1) hrun

theorem cellsHave_fresh {P : Attributes → Prop} (hplain : P .plain) (setup : Setup) :
    (fresh setup).screen.CellsHave P :=
  Screen.cellsHave_of_replicate hplain (Screen.cells_setBlinkEnabled _)

/-- Models that find no questions to answer queue nothing. -/
theorem responses_eq_nil {model : Model} {tokens : List Token}
    (h : model.answersModelQuery = false ∨ ∀ byte, .command byte ∉ tokens) :
    tokens.flatMap (Token.responses model) = [] := by
  rw [Decoder.responses_eq_replicate]
  split
  · next hasked =>
    have hnone := h.resolve_left (Bool.not_eq_false _ ▸ hasked)
    rw [List.count_eq_zero_of_not_mem (hnone _), List.replicate_zero]
  · rfl

theorem process_fresh_of_commandless (setup : Setup) {bytes : List UInt8}
    (h : .code 0o36 ∉ (Token.cut false bytes).1) (model : Model) :
    let cut := Token.cut false bytes
    (fresh { setup with model }).process bytes =
      { screen := (cut.1.foldl (fun s t => t.effect setup.policy s) (fresh setup).screen).setModel
          model
        decoder :=
          { policy := setup.policy
            wait := .after cut.2
            notifications := cut.1.flatMap Token.notifications
            responses := [] } } := by
  have hquiet : (Token.cut false bytes).1.flatMap (Token.responses model) = [] :=
    responses_eq_nil (.inr (Token.not_mem_cut_false bytes))
  intro cut
  rw [process_fresh, Token.cut_eq_of_commandless h model.hasCommandPrefix, hquiet]

/-- Whatever comes to terminals of two models in the same setup, a D211 shows
what a D210 shows and differs in its answers only, of which a D210 has none. As
long as 036 comes as an argument of 020 only, a D200 is no different from both. A
D200 never shows reverse characters and never answers. -/
theorem process_models (setup : Setup) (bytes : List UInt8) :
    let after (model : Model) : Terminal := (fresh { setup with model }).process bytes
    ((after .d211).screen = (after .d210).screen.setModel .d211 ∧
      (after .d211).decoder =
        { (after .d210).decoder with responses := (after .d211).decoder.responses } ∧
      (after .d210).decoder.responses = []) ∧
    (.code 0o36 ∉ (Token.cut false bytes).1 →
      (after .d200).screen = (after .d210).screen.setModel .d200 ∧
        (after .d200).decoder = (after .d210).decoder ∧
        (after .d200).screen = (after .d211).screen.setModel .d200 ∧
        (after .d200).decoder = (after .d211).decoder) ∧
    (∀ x y cell, (after .d200).screen.cell? x y = some cell → cell.attributes.reverse = false) ∧
    (after .d200).decoder.responses = [] := by
  intro after
  have hafter (model : Model) : after model = _ := process_fresh setup model bytes
  have hquestions := Token.not_mem_cut_false bytes
  refine ⟨⟨?_, ?_, ?_⟩, ?_, ?_, ?_⟩
  · rw [hafter, hafter]
    rfl
  · rw [hafter, hafter]
    rfl
  · rw [hafter]
    exact responses_eq_nil (.inl rfl)
  · intro hcommandless
    have hsame (model : Model) : after model = _ :=
      process_fresh_of_commandless setup hcommandless model
    rw [hsame, hsame, hsame]
    exact ⟨rfl, rfl, rfl, rfl⟩
  · rw [hafter]
    have hplain : (fresh setup).screen.attributes.reverse = false := by
      change ((Screen.empty _ _ _).setBlinkEnabled _).pen.attributes.reverse = false
      rw [Token.pen_setBlinkEnabled]
      rfl
    exact Token.unreversed_foldl setup.policy hquestions (sound_fresh setup).screen.wellFormed
      (cellsHave_fresh (P := (·.reverse = false)) rfl setup) hplain
  · rw [hafter]
    exact responses_eq_nil (.inl rfl)

/-- A stream with 036 as a column, and nowhere else. -/
theorem process_models_column :
    let after (model : Model) : Terminal :=
      (fresh { Setup.default with model }).process [0o20, 0o36, 5, 0x44]
    .code 0o36 ∉ (Token.cut false [0o20, 0o36, 5, 0x44]).1 ∧
      (after .d200).screen = (after .d211).screen.setModel .d200 ∧
      (after .d200).screen.cursor = ⟨4, 30⟩ := by
  intro after
  have hcolumn : Token.code 0o36 ∉ (Token.cut false [0o20, 0o36, 5, 0x44]).1 := by decide
  obtain ⟨_, hsame, _⟩ := process_models .default [0o20, 0o36, 5, 0x44]
  exact ⟨hcolumn, (hsame hcolumn).2.2.1, rfl⟩

end Terminal

end DasherTerminal
