import DasherTerminal.Proofs.Terminal.Switching

/-!
# Queries

An answer costs a query: the code of commands and a 'C' behind it. An answer that
comes in is none. Whatever a decoder was in the middle of, the answer ends it, and
a command that the answer begins is over with its second byte.
-/

namespace DasherTerminal

namespace Decoder

variable {d : Decoder} {s : Screen}

/-! ### What answers do -/

theorem run_of_isPrintable (hidle : d.wait = .idle) {text : List UInt8}
    (htext : ∀ byte ∈ text, isPrintable byte = true) (s : Screen) : (d.run s text).1 = d := by
  induction text generalizing s with
  | nil => rfl
  | cons byte text ih =>
      have hop : opcode? s.model byte = none := opcode?_of_isPrintable _ (htext byte (by simp))
      have hbell : byte ≠ 0o07 := by
        rintro rfl
        exact absurd (htext _ List.mem_cons_self) (by decide)
      have hstep : (d.step s byte).1 = d := by
        rw [step_code hidle hop]
        simp [report, Token.notifications, Token.responses, hbell]
      rw [run_cons, hstep]
      exact ih (fun b hb => htext b (List.mem_cons_of_mem byte hb)) _

theorem answersTo_concat {byte : UInt8} (hbyte : byte ≠ 'C'.toUInt8) (op : Opcode)
    (given : List UInt8) (model : Model) : answersTo op (given ++ [byte]) model = [] := by
  rw [answersTo, if_neg]
  rintro ⟨-, hgiven, -⟩
  exact hbyte (by simpa using congrArg List.getLast? hgiven)

/-- The last argument of a code, other than the 'C' of a query. -/
theorem step_last {op : Opcode} {given : List UInt8} (hwait : d.wait = .arguments op given)
    {byte : UInt8} (hlast : op.arity ≤ given.length + 1) (hbyte : byte ≠ 'C'.toUInt8) :
    (d.step s byte).1 = d.reset := by
  have hall : ¬(given ++ [byte]).length < op.arity := by
    rw [List.length_append, List.length_singleton]
    omega
  rw [step, hwait]
  dsimp only
  rw [if_neg hall, answersTo_concat hbyte, List.append_nil, reset]

/-- The code of commands ends what it is an argument of, or the byte behind it
does. -/
theorem step_command (d : Decoder) (s : Screen) :
    (d.step s 0o36).1 = d.reset ∨
      ∃ op given, (d.step s 0o36).1 = { d with wait := .arguments op given } ∧
        op.arity ≤ given.length + 1 := by
  cases hwait : d.wait with
  | idle =>
      have hreset : d.reset = d := by rw [reset, ← hwait]
      by_cases hknown : s.model.hasCommandPrefix = true
      · have hop : opcode? s.model 0o36 = some .command := by simp [opcode?, hknown]
        right
        exact ⟨.command, [], by rw [step_opcode hwait hop], Nat.le_refl 1⟩
      · have hop : opcode? s.model 0o36 = none := by simp [opcode?, hknown]
        left
        rw [step_code hwait hop, hreset]
        simp [report, Token.notifications, Token.responses]
  | arguments op given =>
      by_cases hlast : op.arity ≤ given.length + 1
      · left
        exact step_last hwait hlast (by decide)
      · right
        refine ⟨op, given ++ [0o36], ?_, ?_⟩
        · have hmore : (given ++ [0o36]).length < op.arity := by
            rw [List.length_append, List.length_singleton]
            omega
          rw [step, hwait]
          dsimp only
          rw [if_pos hmore]
        · have harity : op.arity ≤ 2 := by cases op <;> decide
          rw [List.length_append, List.length_singleton]
          omega

/-- An answer that comes in asks nothing and rings no bell. -/
theorem run_modelAnswer (d : Decoder) (s : Screen) (model : Model) :
    (d.run s (modelAnswer model)).1 = d.reset := by
  have hletters : ∀ byte ∈ ['o'.toUInt8, '#'.toUInt8, model.code, 0o100, 0o101],
      isPrintable byte = true := by
    rw [← List.all_eq_true]
    cases model <;> decide
  rw [modelAnswer, run_cons]
  rcases step_command d s with hended | ⟨op, given, hbegun, hlast⟩
  · rw [hended]
    exact run_of_isPrintable rfl hletters _
  · have hended (s : Screen) :
        (({ d with wait := .arguments op given } : Decoder).step s 'o'.toUInt8).1 = d.reset :=
      step_last rfl hlast (by decide)
    rw [hbegun, run_cons, hended]
    exact run_of_isPrintable rfl (fun byte hbyte => hletters byte (List.mem_cons_of_mem _ hbyte)) _

/-! ### What queries cost -/

/-- How often the code of commands is followed by a 'C'. -/
def queries : List UInt8 → Nat
  | [] => 0
  | byte :: rest =>
    (if byte = 0o36 ∧ rest.head? = some 'C'.toUInt8 then 1 else 0) + queries rest

theorem queries_le_cons (byte : UInt8) (rest : List UInt8) :
    queries rest ≤ queries (byte :: rest) :=
  Nat.le_add_left _ _

theorem queries_le_append (a b : List UInt8) : queries b ≤ queries (a ++ b) := by
  induction a with
  | nil => exact Nat.le_refl _
  | cons byte a ih => exact Nat.le_trans ih (queries_le_cons byte (a ++ b))

/-- An answer adds no query, wherever it comes. -/
theorem queries_modelAnswer_append (model : Model) (rest : List UInt8) :
    queries (modelAnswer model ++ rest) = queries rest := by
  cases model <;> simp [modelAnswer, queries, Model.code, Char.toUInt8]

/-- The part of a query that the decoder has. -/
def begun (d : Decoder) : List UInt8 := if d.wait = .arguments .command [] then [0o36] else []

theorem begun_eq_nil (hidle : d.wait = .idle) : d.begun = [] := by
  rw [begun, hidle, if_neg (by simp)]

/-- Every answer that is queued is paid for with a query. -/
theorem queued_step (h : d.wait.Unfinished) (s : Screen) (byte : UInt8) (rest : List UInt8) :
    (d.step s byte).1.responses.length + queries ((d.step s byte).1.begun ++ rest) ≤
      d.responses.length + queries (d.begun ++ byte :: rest) := by
  have hnext : queries ((d.step s byte).1.begun ++ rest) ≤ queries (byte :: rest) := by
    rw [begun]
    split
    · next hwait =>
        rcases (wait_step_eq_command_iff d s byte).mp hwait with ⟨-, rfl, -⟩
        exact Nat.le_refl _
    · exact queries_le_cons byte rest
  -- The pair that is answered is in the count before the byte, and not after it.
  by_cases hasked : d.wait = .arguments .command [] ∧ byte = 'C'.toUInt8
  · have hpaid : queries (d.begun ++ byte :: rest) = 1 + queries (byte :: rest) := by
      rw [begun, if_pos hasked.1, hasked.2]
      rfl
    have hqueued : (d.step s byte).1.responses.length ≤ d.responses.length + 1 := by
      rw [responses_step h, List.length_append]
      split
      · exact Nat.le_refl _
      · exact Nat.le_succ _
    omega
  · have hqueued : (d.step s byte).1.responses = d.responses := by
      rw [responses_step h, if_neg fun hall => hasked ⟨hall.1, hall.2.1⟩, List.append_nil]
    have hmore := queries_le_append d.begun (byte :: rest)
    rw [hqueued]
    omega

theorem queued_run (h : d.wait.Unfinished) (s : Screen) (bytes rest : List UInt8) :
    (d.run s bytes).1.responses.length + queries ((d.run s bytes).1.begun ++ rest) ≤
      d.responses.length + queries (d.begun ++ (bytes ++ rest)) := by
  induction bytes generalizing d s with
  | nil => exact Nat.le_refl _
  | cons byte bytes ih =>
      rw [run_cons]
      exact Nat.le_trans (ih (unfinished_step h s byte) _) (queued_step h s byte (bytes ++ rest))

/-! ### Echoes -/

/-- What was sent comes back, with answers in any places. -/
inductive Echoed : List UInt8 → List UInt8 → Prop
  | nil : Echoed [] []
  | byte (byte : UInt8) {sent came : List UInt8} (h : Echoed sent came) :
      Echoed (byte :: sent) (byte :: came)
  | answer (model : Model) {sent came : List UInt8} (h : Echoed sent came) :
      Echoed sent (modelAnswer model ++ came)

namespace Echoed

variable {sent sent' came came' : List UInt8}

theorem append (h : Echoed sent came) (h' : Echoed sent' came') :
    Echoed (sent ++ sent') (came ++ came') := by
  induction h with
  | nil => exact h'
  | byte byte _ ih => exact .byte byte ih
  | answer model _ ih =>
      rw [List.append_assoc]
      exact .answer model ih

theorem refl (bytes : List UInt8) : Echoed bytes bytes := by
  induction bytes with
  | nil => exact .nil
  | cons byte bytes ih => exact .byte byte ih

theorem prepend (h : Echoed sent came) (bytes : List UInt8) :
    Echoed (bytes ++ sent) (bytes ++ came) :=
  (refl bytes).append h

theorem modelAnswer (model : Model) : Echoed [] (modelAnswer model) := by
  have h := Echoed.answer model .nil
  rw [List.append_nil] at h
  exact h

/-- Answers stand between the halves of queries, and make none whole. -/
theorem queries_le (h : Echoed sent came) : queries came ≤ queries sent := by
  induction h with
  | nil => exact Nat.le_refl _
  | answer model _ ih =>
      rw [queries_modelAnswer_append]
      exact ih
  | @byte byte sent came h ih =>
      -- What begins with an answer does not begin with a 'C'.
      have hhead : came.head? = some 'C'.toUInt8 → sent.head? = some 'C'.toUInt8 := by
        intro hcame
        cases h with
        | nil => cases hcame
        | byte => exact hcame
        | answer model => cases hcame
      rw [queries, queries]
      split
      · next hquery =>
          rw [if_pos ⟨hquery.1, hhead hquery.2⟩]
          omega
      · omega

end Echoed

end Decoder

end DasherTerminal
