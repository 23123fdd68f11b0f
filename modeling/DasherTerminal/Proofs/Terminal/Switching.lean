import Mathlib.Data.List.Induction
import DasherTerminal.Proofs.Protocol.Reverse
import DasherTerminal.Proofs.Terminal.Operation

/-!
# Switching the model between two bytes

A model is looked at when a code comes, and again when an answer is due. A
command that has begun is carried out whatever the model has become, so that
reverse characters can begin on a model that has no commands; an answer is only
given on the model that answers.
-/

namespace DasherTerminal

namespace Decoder

variable {d : Decoder} {s : Screen}

/-- A decoder begins to wait for a command only by the code of commands. -/
theorem wait_step_eq_command_iff (d : Decoder) (s : Screen) (byte : UInt8) :
    (d.step s byte).1.wait = .arguments .command [] ↔
      d.wait = .idle ∧ byte = 0o36 ∧ s.model.hasCommandPrefix = true := by
  cases hwait : d.wait with
  | idle =>
      by_cases hcommand : byte = 0o36 ∧ s.model.hasCommandPrefix = true
      · have hop : opcode? s.model byte = some .command := by
          rw [hcommand.1, opcode?, if_neg (by decide), if_pos ⟨rfl, hcommand.2⟩]
        rw [step_opcode hwait hop]
        simp only [true_and, true_iff]
        exact hcommand
      · have hno : (d.step s byte).1.wait ≠ .arguments .command [] := by
          by_cases haddress : byte = 0o20
          · have hop : opcode? s.model byte = some .cursorAddress := by
              rw [haddress]
              rfl
            rw [step_opcode hwait hop]
            simp
          · rw [step_code hwait (by rw [opcode?, if_neg haddress, if_neg hcommand])]
            simp [report, hwait]
        simp only [hno, true_and, false_iff]
        exact hcommand
  | arguments op given =>
      rw [step, hwait]
      dsimp only
      split <;> simp

theorem eq_nil_of_command (h : d.wait.Unfinished) {given : List UInt8}
    (hwait : d.wait = .arguments .command given) : given = [] := by
  have hlength : given.length < 1 := h _ _ hwait
  exact List.length_eq_zero_iff.mp (by omega)

/-- Only the argument of a command turns reverse characters on. -/
theorem reverse_step (h : d.wait.Unfinished) (hoff : s.attributes.reverse = false) (byte : UInt8) :
    (d.step s byte).2.attributes.reverse = true ↔
      d.wait = .arguments .command [] ∧ byte = 'D'.toUInt8 := by
  cases hwait : d.wait with
  | idle =>
      have hstep : (d.step s byte).2.attributes.reverse = false := by
        cases hop : opcode? s.model byte with
        | some op => rw [step_opcode hwait hop, hoff]
        | none =>
            have hpen := congrArg Pen.attributes (Token.pen_effect d.policy (.code byte) s)
            rw [step_code hwait hop]
            change ((Token.code byte).effect d.policy s).pen.attributes.reverse = false
            rw [hpen]
            exact Token.reverse_pen d.policy (t := .code byte) (by simp) hoff
      simp [hstep]
  | arguments op given =>
      cases op with
      | cursorAddress =>
          have hstep : (d.step s byte).2.attributes = s.attributes := by
            rw [step, hwait]
            dsimp only
            split
            · rfl
            · simp only [effectWith]
              split
              · split <;> rfl
              · next hop _ => cases hop
              · rfl
          simp [hstep, hoff]
      | command =>
          obtain rfl := eq_nil_of_command h hwait
          have hstep : (d.step s byte).2 = effectWith .command [byte] s := by
            rw [step, hwait]
            rfl
          rw [hstep, effectWith]
          by_cases hon : byte = 'D'.toUInt8
          · simp [hon, Screen.mapAttributes]
          · rw [if_neg hon]
            split <;> simp [Screen.mapAttributes, hoff, hon]

/-- An answer is only due when the argument of a command has come. -/
theorem responses_step (h : d.wait.Unfinished) (s : Screen) (byte : UInt8) :
    (d.step s byte).1.responses = d.responses ++
      if d.wait = .arguments .command [] ∧ byte = 'C'.toUInt8 ∧ s.model.answersModelQuery = true
      then [modelAnswer s.model] else [] := by
  cases hwait : d.wait with
  | idle =>
      cases hop : opcode? s.model byte with
      | some op => simp [step_opcode hwait hop]
      | none => simp [step_code hwait hop, report, Token.responses]
  | arguments op given =>
      cases op with
      | cursorAddress =>
          rw [step, hwait]
          dsimp only
          split
          · simp
          · simp [answersTo]
      | command =>
          obtain rfl := eq_nil_of_command h hwait
          have hstep : (d.step s byte).1.responses =
              d.responses ++ answersTo .command [byte] s.model := by
            rw [step, hwait]
            rfl
          rw [hstep, answersTo]
          simp

end Decoder

namespace Terminal

/-- A byte that comes, or a switch to a model. -/
inductive Input where
  | byte (byte : UInt8)
  | model (model : Model)
  deriving DecidableEq, Repr

def Input.operation : Input → Operation
  | byte b => .process [b]
  | model m => .setModel m

def takeAll (t : Terminal) (inputs : List Input) : Terminal :=
  t.performAll (inputs.map Input.operation)

variable {t : Terminal}

theorem takeAll_concat (t : Terminal) (inputs : List Input) (input : Input) :
    t.takeAll (inputs ++ [input]) = (t.takeAll inputs).perform input.operation := by
  rw [takeAll, List.map_append, performAll_append]
  rfl

theorem unfinished_takeAll (h : t.decoder.wait.Unfinished) (inputs : List Input) :
    (t.takeAll inputs).decoder.wait.Unfinished := by
  induction inputs generalizing t with
  | nil => exact h
  | cons input inputs ih => exact ih (unfinished_perform h input.operation)

/-- The code of commands came while the decoder was idle, on a model that knows
it, and since then the model was switched and nothing came. -/
def HasBegunCommand (t : Terminal) (inputs : List Input) : Prop :=
  ∃ (before : List Input) (models : List Model),
    inputs = before ++ .byte 0o36 :: models.map .model ∧
    (t.takeAll before).decoder.wait = .idle ∧
    (t.takeAll before).screen.model.hasCommandPrefix = true

/-- What came last is either the code of commands itself or a switch. -/
theorem eq_of_concat_eq {inputs before : List Input} {input : Input} {models : List Model}
    (h : inputs ++ [input] = before ++ .byte 0o36 :: models.map .model) :
    (input = .byte 0o36 ∧ inputs = before) ∨
      ∃ (last : Model) (earlier : List Model), input = .model last ∧
        inputs = before ++ .byte 0o36 :: earlier.map .model := by
  rcases List.eq_nil_or_concat models with rfl | ⟨earlier, last, rfl⟩
  · rcases List.append_inj' h rfl with ⟨rfl, hinput⟩
    exact .inl ⟨List.head_eq_of_cons_eq hinput, rfl⟩
  · rw [List.concat_eq_append, List.map_append, ← List.cons_append, ← List.append_assoc] at h
    rcases List.append_inj' h rfl with ⟨rfl, hinput⟩
    exact .inr ⟨last, earlier, List.head_eq_of_cons_eq hinput, rfl⟩

theorem hasBegunCommand_concat_model (inputs : List Input) (model : Model) :
    t.HasBegunCommand (inputs ++ [.model model]) ↔ t.HasBegunCommand inputs := by
  constructor
  · rintro ⟨before, models, hsplit, hidle, hknown⟩
    rcases eq_of_concat_eq hsplit with ⟨hinput, -⟩ | ⟨last, earlier, -, rfl⟩
    · cases hinput
    · exact ⟨before, earlier, rfl, hidle, hknown⟩
  · rintro ⟨before, models, rfl, hidle, hknown⟩
    exact ⟨before, models ++ [model], by simp, hidle, hknown⟩

theorem hasBegunCommand_concat_byte (inputs : List Input) (byte : UInt8) :
    t.HasBegunCommand (inputs ++ [.byte byte]) ↔
      (t.takeAll inputs).decoder.wait = .idle ∧ byte = 0o36 ∧
        (t.takeAll inputs).screen.model.hasCommandPrefix = true := by
  constructor
  · rintro ⟨before, models, hsplit, hidle, hknown⟩
    rcases eq_of_concat_eq hsplit with ⟨hinput, rfl⟩ | ⟨last, earlier, hinput, -⟩
    · cases hinput
      exact ⟨hidle, rfl, hknown⟩
    · cases hinput
  · rintro ⟨hidle, rfl, hknown⟩
    exact ⟨inputs, [], rfl, hidle, hknown⟩

/-- The decoder waits for a command exactly if one has begun. -/
theorem wait_takeAll_eq_command_iff (hidle : t.decoder.wait = .idle) (inputs : List Input) :
    (t.takeAll inputs).decoder.wait = .arguments .command [] ↔ t.HasBegunCommand inputs := by
  -- From the end: only what came last, and the state before it, decide.
  induction inputs using List.reverseRecOn with
  | nil =>
      rw [takeAll, List.map_nil, performAll_nil, hidle]
      simp [HasBegunCommand]
  | append_singleton inputs input ih =>
      rw [takeAll_concat]
      cases input with
      | model model =>
          rw [hasBegunCommand_concat_model]
          exact ih
      | byte byte =>
          rw [hasBegunCommand_concat_byte]
          exact Decoder.wait_step_eq_command_iff _ _ byte

/-- A command that began and was not parted from its argument by a switch began
on the model that there is. -/
theorem hasCommandPrefix_of_hasBegunCommand {inputs : List Input}
    (hcommand : t.HasBegunCommand inputs)
    (hwhole : ∀ before model after, inputs = before ++ .model model :: after →
      ¬t.HasBegunCommand before) :
    (t.takeAll inputs).screen.model.hasCommandPrefix = true := by
  rcases hcommand with ⟨before, models, rfl, hidle, hknown⟩
  cases models with
  | nil =>
      have hop : Decoder.opcode? (t.takeAll before).screen.model 0o36 = some .command := by
        simp [Decoder.opcode?, hknown]
      rw [List.map_nil, takeAll_concat, Input.operation, perform, process, Decoder.run_cons,
        Decoder.run_nil, Decoder.step_opcode hidle hop]
      exact hknown
  | cons model models =>
      have hbegun : t.HasBegunCommand (before ++ [.byte 0o36]) :=
        (hasBegunCommand_concat_byte before 0o36).mpr ⟨hidle, rfl, hknown⟩
      exact absurd hbegun (hwhole _ model (models.map .model) (by simp))

/-- Over bytes and switches in any order, reverse characters begin exactly with a
byte 'D' before which a command has begun, whatever the model is by then, and an
answer is queued exactly with a byte 'C' before which a command has begun, on the
D211. A switch by itself does neither. So if no switch parts a command from its
argument, reverse characters begin only on a model that has commands. -/
theorem reverse_takeAll_iff (hidle : t.decoder.wait = .idle) (inputs : List Input)
    (byte : UInt8) :
    let u := t.takeAll inputs
    let v := t.takeAll (inputs ++ [.byte byte])
    (u.screen.attributes.reverse = false →
      (v.screen.attributes.reverse = true ↔
        t.HasBegunCommand inputs ∧ byte = 'D'.toUInt8)) ∧
    (t.HasBegunCommand inputs ∧ byte = 'C'.toUInt8 ∧ u.screen.model = .d211 →
      v.decoder.responses = u.decoder.responses ++ [Decoder.modelAnswer .d211]) ∧
    (¬(t.HasBegunCommand inputs ∧ byte = 'C'.toUInt8 ∧ u.screen.model = .d211) →
      v.decoder.responses = u.decoder.responses) ∧
    (∀ model, t.takeAll (inputs ++ [.model model]) =
      { u with screen := { u.screen with model } }) ∧
    ((∀ before model after, inputs = before ++ .model model :: after →
        ¬t.HasBegunCommand before) →
      u.screen.attributes.reverse = false → v.screen.attributes.reverse = true →
        u.screen.model.hasCommandPrefix = true) := by
  intro u v
  have hbegun : u.decoder.wait = .arguments .command [] ↔ t.HasBegunCommand inputs :=
    wait_takeAll_eq_command_iff hidle inputs
  have hunfinished : u.decoder.wait.Unfinished := by
    apply unfinished_takeAll
    rw [hidle]
    exact Decoder.unfinished_idle
  have hv : v = u.process [byte] := t.takeAll_concat inputs (.byte byte)
  have hreverse : u.screen.attributes.reverse = false →
      (v.screen.attributes.reverse = true ↔
        t.HasBegunCommand inputs ∧ byte = 'D'.toUInt8) := by
    intro hoff
    rw [hv, ← hbegun]
    exact Decoder.reverse_step hunfinished hoff byte
  have hresponses : v.decoder.responses = u.decoder.responses ++
      if u.decoder.wait = .arguments .command [] ∧ byte = 'C'.toUInt8 ∧
        u.screen.model.answersModelQuery = true then [Decoder.modelAnswer u.screen.model] else [] := by
    rw [hv]
    exact Decoder.responses_step hunfinished u.screen byte
  refine ⟨hreverse, ?_, ?_, fun model => t.takeAll_concat inputs (.model model), ?_⟩
  · rintro ⟨hcommand, hbyte, hmodel⟩
    rw [hresponses, hmodel, if_pos ⟨hbegun.mpr hcommand, hbyte, rfl⟩]
  · intro hno
    rw [hresponses, if_neg, List.append_nil]
    rintro ⟨hwait, hbyte, hanswers⟩
    refine hno ⟨hbegun.mp hwait, hbyte, ?_⟩
    cases hmodel : u.screen.model with
    | d211 => rfl
    | d200 | d210 =>
        rw [hmodel] at hanswers
        cases hanswers
  · intro hwhole hoff hon
    exact hasCommandPrefix_of_hasBegunCommand ((hreverse hoff).mp hon).1 hwhole

/-- A command that began on the D210 is a question to the D211. -/
theorem reverse_takeAll_iff_asked :
    let t := fresh .default
    let inputs : List Input := [.byte 0o36, .model .d211]
    t.decoder.wait = .idle ∧ t.HasBegunCommand inputs ∧
      (t.takeAll (inputs ++ [.byte 'D'.toUInt8])).screen.attributes.reverse = true ∧
      (t.takeAll (inputs ++ [.byte 'C'.toUInt8])).decoder.responses =
        [Decoder.modelAnswer .d211] := by
  intro t inputs
  have hidle : t.decoder.wait = .idle := rfl
  have hbegun : t.HasBegunCommand inputs := ⟨[], [.d211], rfl, rfl, rfl⟩
  have hoff : (t.takeAll inputs).screen.attributes.reverse = false := rfl
  rcases reverse_takeAll_iff hidle inputs 'D'.toUInt8 with ⟨hreverse, -⟩
  rcases reverse_takeAll_iff hidle inputs 'C'.toUInt8 with ⟨-, hasked, -⟩
  exact ⟨hidle, hbegun, (hreverse hoff).mpr ⟨hbegun, rfl⟩, hasked ⟨hbegun, rfl, rfl⟩⟩

/-- Reverse characters begin on the D200, which has no commands. -/
theorem reverse_begun_on_d200 :
    let t := (fresh .default).takeAll [.byte 0o36, .model .d200]
    t.screen.model = .d200 ∧ t.screen.model.hasCommandPrefix = false ∧
      t.screen.attributes.reverse = false ∧
      (t.process ['D'.toUInt8]).screen.attributes.reverse = true := by
  decide +kernel

end Terminal

end DasherTerminal
