import DasherTerminal.Proofs.Session.Moves

/-!
# Answers that wait

Only bytes of a host ask for answers, and poll alone takes them out of the
terminal to send them. Meanwhile the question that belongs to each is on record.
-/

namespace DasherTerminal

theorem Decoder.exists_responses_run (d : Decoder) (s : Screen) (bytes : List UInt8) :
    ∃ new, (d.run s bytes).1.responses = d.responses ++ new := by
  induction bytes generalizing d s with
  | nil => exact ⟨[], (List.append_nil _).symm⟩
  | cons byte bytes ih =>
      obtain ⟨new, hrun⟩ := ih (d.step s byte).1 (d.step s byte).2
      have hstep : ∃ asked, (d.step s byte).1.responses = d.responses ++ asked := by
        unfold Decoder.step Decoder.dispatch
        split
        · refine ⟨[], ?_⟩
          rw [List.append_nil]
          split
          · rfl
          · split <;> rfl
        · dsimp only
          split
          · exact ⟨[], (List.append_nil _).symm⟩
          · exact ⟨_, rfl⟩
      obtain ⟨asked, hasked⟩ := hstep
      refine ⟨asked ++ new, ?_⟩
      rw [Decoder.run_cons, hrun, hasked, List.append_assoc]

namespace Terminal

theorem length_responses_process (t : Terminal) (bytes : List UInt8) :
    t.decoder.responses.length ≤ (t.process bytes).decoder.responses.length := by
  obtain ⟨new, hnew⟩ := t.decoder.exists_responses_run t.screen bytes
  have hprocess : (t.process bytes).decoder.responses = t.decoder.responses ++ new := hnew
  rw [hprocess, List.length_append]
  exact Nat.le_add_right _ _

/-- Only bytes of a host can ask for an answer. -/
theorem length_responses_perform (t : Terminal) {op : Operation} (hop : op.fed = []) :
    (t.perform op).decoder.responses.length ≤ t.decoder.responses.length := by
  cases op with
  | process bytes =>
      obtain rfl : bytes = [] := hop
      exact Nat.le_refl _
  | drainResponses => exact Nat.zero_le _
  | selfTest =>
      obtain ⟨stream, htest⟩ := t.selfTest_eq
      rw [perform, htest]
      exact Nat.zero_le _
  | resize size => exact Nat.le_refl _
  | setModel model => exact Nat.le_refl _
  | setBlinkEnabled on => exact Nat.le_refl _
  | toggleBlinkPhase => exact Nat.le_refl _
  | drainNotifications => exact Nat.le_refl _

theorem length_responses_performAll (t : Terminal) {ops : List Operation}
    (hops : ops.flatMap Operation.fed = []) :
    (t.performAll ops).decoder.responses.length ≤ t.decoder.responses.length := by
  induction ops generalizing t with
  | nil => exact Nat.le_refl _
  | cons op ops ih =>
      rw [List.flatMap_cons, List.append_eq_nil_iff] at hops
      rw [performAll_cons]
      exact Nat.le_trans (ih _ hops.2) (t.length_responses_perform hops.1)

end Terminal

namespace Threads

variable {m m' : Threads}

/-- To every answer that waits its question is known. -/
def Paired (m : Threads) : Prop :=
  m.asked.length = m.session.terminal.decoder.responses.length

theorem paired_start (setup : Terminal.Setup) (encoder : Encoder) (files : Files) :
    (start (.fresh setup) encoder files).Paired := rfl

theorem Paired.undergo (h : m.Paired) {s : Session} {ops : List Terminal.Operation}
    (hs : m.session.Undergoes s ops) (hfed : ops.flatMap Terminal.Operation.fed = []) :
    (m.undergo s ops).Paired := by
  have hfewer := m.session.terminal.length_responses_performAll hfed
  rw [← hs.terminal, ← h] at hfewer
  exact (List.length_take).trans (Nat.min_eq_left hfewer)

theorem Paired.effect (h : m.Paired) (number : Nat) (move : ReaderMove) (hand : Hand) :
    (m.effect number move hand).Paired := by
  unfold Threads.effect
  split
  · next piece =>
      obtain ⟨files, capture, hrecord⟩ := m.session.record_eq piece
      rw [hrecord]
      exact h
  · next b =>
      have hmore := m.session.terminal.length_responses_process [b]
      rw [Paired, process, List.length_append, List.length_replicate, h]
      exact Nat.add_sub_of_le hmore
  · exact h

theorem Paired.steps (h : m.Paired) (hstep : m.Steps m') : m'.Paired := by
  cases hstep with
  | undergo hs hfed => exact h.undergo hs hfed
  | @reader l r move =>
      have hmoved : Paired { m.setLink r.link with hand := r.hand, current := r.account } := h
      exact hmoved.effect l.number move m.hand
  | raise htask =>
      rw [m.session.raiseFlag_eq]
      exact h
  | close htask =>
      obtain ⟨calls, hclose, -⟩ := m.session.closeLink_eq
      rw [hclose]
      exact h
  | startLink htask => exact (List.length_map _).trans h
  | drain htask => rfl
  | answer htask hlink hsend => exact h.undergo (Session.undergoes_send hsend) rfl
  | _ => exact h

theorem Paired.run (h : m.Paired) (moves : List Move) : (m.run moves).Paired :=
  run_induction Paired.steps h moves

end Threads

end DasherTerminal
