import DasherTerminal.Proofs.Session.Order

/-!
# Where answers go

An answer waits in the terminal until poll sends it, and poll sends it over the
link that is in use then. That need not be the link that asked: the queue of
answers outlives links, and poll itself leaves a host that has hung up before it
empties the queue. So the answer to such a host goes to the loopback and from
there to the screen.
-/

namespace DasherTerminal

namespace Threads

def Task.isSending : Task → Bool
  | .sending _ _ => true
  | _ => false

/-- The link that is in use is the one that gets an answer. -/
structure Attributed (m : Threads) : Prop where
  asked : ∀ q ∈ m.asked, q.asker + q.switches + 1 = m.session.opened
  sending : ∀ answers news, m.task = .sending answers news →
    ∀ a ∈ answers, a.1.asker + a.1.switches + 1 = m.session.opened
  answered : ∀ d ∈ m.answered, Call.write d.receiver d.bytes ∈ m.session.calls ∧
    d.receiver = d.question.asker + d.question.switches

theorem attributed_start (terminal : Terminal) (encoder : Encoder) (files : Files) :
    (start terminal encoder files).Attributed := by
  refine ⟨?_, ?_, ?_⟩
  · intro q hq
    cases hq
  · intro answers news htask
    cases htask
  · intro d hd
    cases hd

variable {terminal : Terminal} {m m' : Threads}

/-- Nothing is asked, nothing answered, and no link started. -/
theorem Attributed.frame (h : m.Attributed) (hopened : m'.session.opened = m.session.opened)
    (hasked : ∀ q ∈ m'.asked, q ∈ m.asked) (hanswered : m'.answered = m.answered)
    (hcalls : ∀ c ∈ m.session.calls, c ∈ m'.session.calls)
    (htask : m'.task = m.task ∨ m'.task.isSending = false) : m'.Attributed where
  asked := by
    intro q hq
    rw [hopened]
    exact h.asked q (hasked q hq)
  sending := by
    intro answers news hsending
    rw [hopened]
    obtain hsame | hnot := htask
    · exact h.sending answers news (hsame.symm.trans hsending)
    · rw [hsending] at hnot
      cases hnot
  answered := by
    intro d hd
    obtain ⟨hcall, hreceiver⟩ := h.answered d (hanswered ▸ hd)
    exact ⟨hcalls _ hcall, hreceiver⟩

theorem Attributed.undergo (h : m.Attributed) {s : Session} {ops : List Terminal.Operation}
    (hs : m.session.Undergoes s ops) : (m.undergo s ops).Attributed :=
  h.frame hs.opened (fun _ => List.mem_of_mem_take) rfl hs.calls (.inl rfl)

theorem Attributed.effect (h : m.Attributed) {number : Nat} (move : ReaderMove) (hand : Hand)
    (hnumber : number + 1 = m.session.opened) : (m.effect number move hand).Attributed := by
  unfold Threads.effect
  split
  · next piece =>
      obtain ⟨files, capture, hrecord⟩ := m.session.record_eq piece
      rw [hrecord]
      exact h.frame rfl (fun _ => id) rfl (fun _ => id) (.inl rfl)
  · refine ⟨?_, h.sending, h.answered⟩
    intro q hq
    obtain hq | hq := List.mem_append.mp hq
    · exact h.asked q hq
    · obtain rfl := List.eq_of_mem_replicate hq
      exact hnumber
  · exact h

/-- One more link was started since what is queued was asked. -/
theorem Attributed.startLink (h : m.Attributed) (e : Errand) : (m.startLink e).Attributed := by
  refine ⟨?_, ?_, h.answered⟩
  · intro q hq
    obtain ⟨old, hold, rfl⟩ := List.mem_map.mp hq
    exact congrArg (· + 1) (h.asked old hold)
  · intro answers news htask
    rw [Threads.startLink] at htask
    split at htask <;> cases htask

theorem Attributed.drain (h : m.Attributed) : m.drain.Attributed := by
  refine ⟨?_, ?_, h.answered⟩
  · intro q hq
    cases hq
  · intro answers news htask a ha
    obtain ⟨rfl, -⟩ := Task.sending.inj htask
    exact h.asked a.1 (List.of_mem_zip ha).1

theorem write_mem_of_send {s s' : Session} {out : Outside} {bytes : List UInt8} {l : Link}
    (hlink : s.link = some l) (h : s.send out bytes = (.ok (), s')) :
    Call.write l.number bytes ∈ s'.calls := by
  rw [Session.send, hlink] at h
  split at h
  · cases h
  · cases h
  · next k hk _ =>
      obtain rfl := Option.some.inj hk
      cases h
      split
      · exact Array.mem_push_self
      · exact Array.mem_push_self

theorem Attributed.answer (h : m.Attributed) (horderly : m.Orderly terminal) {out : Outside}
    {l : Link} {s : Session} {question : Question} {bytes : List UInt8}
    {answers : List (Question × List UInt8)} {news : List Notification}
    (htask : m.task = .sending ((question, bytes) :: answers) news)
    (hlink : m.session.link = some l) (hsend : m.session.send out bytes = (.ok (), s)) :
    Attributed { m.undergo s [] with
      answered := m.answered ++ [⟨question, l.number, bytes⟩]
      task := .sending answers news } := by
  have hsending := h.sending _ _ htask
  have hs := Session.undergoes_send hsend
  have hundergo := h.undergo hs
  refine ⟨hundergo.asked, ?_, ?_⟩
  · intro answers' news' htask'
    obtain ⟨rfl, -⟩ := Task.sending.inj htask'
    intro a ha
    exact (hsending a (List.mem_cons_of_mem _ ha)).trans hs.opened.symm
  · intro d hd
    obtain hd | hd := List.mem_append.mp hd
    · exact hundergo.answered d hd
    · obtain rfl := List.mem_singleton.mp hd
      have hdue := hsending _ List.mem_cons_self
      have hnumber := horderly.number l hlink
      exact ⟨write_mem_of_send hlink hsend, Nat.succ.inj (hnumber.trans hdue.symm)⟩

theorem Attributed.steps (h : m.Attributed) (horderly : m.Orderly terminal) (hstep : m.Steps m') :
    m'.Attributed := by
  have hgoOn : ∀ {s : Session} {task : Task}, s.opened = m.session.opened →
      (∀ c ∈ m.session.calls, c ∈ s.calls) → task.isSending = false →
      Attributed { m with session := s, task } := fun hopened hcalls htask =>
    h.frame hopened (fun _ => id) rfl hcalls (.inr htask)
  cases hstep with
  | stay => exact h
  | undergo hs hfed => exact h.undergo hs
  | merge hlink => exact h.frame rfl (fun _ => id) rfl (fun _ => id) (.inl rfl)
  | @reader l r move hlink hrunning hmove =>
      have hmoved : Attributed { m.setLink r.link with hand := r.hand, current := r.account } :=
        h.frame rfl (fun _ => id) rfl (fun _ => id) (.inl rfl)
      exact hmoved.effect move m.hand (horderly.number l hlink)
  | begin hfree hhungUp => exact hgoOn rfl (fun _ => id) rfl
  | look hfree => exact hgoOn rfl (fun _ => id) rfl
  | fail htask => exact hgoOn rfl (fun _ => Array.mem_push_of_mem _) rfl
  | openNext htask => exact hgoOn rfl (fun _ => Array.mem_push_of_mem _) rfl
  | raise htask =>
      rw [m.session.raiseFlag_eq]
      exact hgoOn rfl (fun _ => id) rfl
  | close htask =>
      obtain ⟨calls, hclose, hcalls⟩ := m.session.closeLink_eq
      rw [hclose]
      exact hgoOn rfl hcalls rfl
  | release htask hended => exact h.frame rfl (fun _ => id) rfl (fun _ => id) (.inr rfl)
  | giveUp htask => exact hgoOn rfl (fun _ => id) rfl
  | @startLink e htask => exact h.startLink e
  | drain htask => exact h.drain
  | answer htask hlink hsend => exact h.answer horderly htask hlink hsend
  | lose htask => exact hgoOn rfl (fun _ => id) rfl
  | notify htask => exact hgoOn rfl (fun _ => id) rfl

theorem Attributed.run (h : m.Attributed) (horderly : m.Orderly terminal) (moves : List Move) :
    (m.run moves).Attributed := by
  have hboth : (m.run moves).Orderly terminal ∧ (m.run moves).Attributed := by
    refine run_induction (P := fun m => m.Orderly terminal ∧ m.Attributed) ?_ ⟨horderly, h⟩ moves
    rintro m₁ m₂ ⟨horderly, h⟩ hstep
    exact ⟨(horderly.steps hstep).orderly, h.steps horderly hstep⟩
  exact hboth.2

/-- An answer is written to the link that is in use when it is sent, and that is
the link that asked exactly if no other was started in the meantime. -/
theorem receiver_eq_asker_iff (setup : Terminal.Setup) (encoder : Encoder) (files : Files)
    (moves : List Move) :
    let m := (start (.fresh setup) encoder files).run moves
    m.asked.length = m.session.terminal.decoder.responses.length ∧
    ∀ d ∈ m.answered,
      Call.write d.receiver d.bytes ∈ m.session.calls ∧
      d.receiver = d.question.asker + d.question.switches ∧
      (d.receiver = d.question.asker ↔ d.question.switches = 0) := by
  intro m
  have hpaired : m.Paired := (paired_start setup encoder files).run moves
  have hattributed : m.Attributed :=
    (attributed_start _ encoder files).run (orderly_start _ encoder files) moves
  refine ⟨hpaired, ?_⟩
  intro d hd
  obtain ⟨hcall, hreceiver⟩ := hattributed.answered d hd
  refine ⟨hcall, hreceiver, ?_⟩
  rw [hreceiver]
  exact Nat.add_eq_left

/-- A host asks which model it talks to and hangs up. Then poll looks. -/
def askAndHangUp : List Move :=
  [.request .fair (.connect (.telnet "mv" 23)), .proceed .fair, .proceed .fair, .proceed .fair,
    .reader .finish, .proceed .fair, .proceed .fair,
    .arrival (.bytes [0o36, 'C'.toUInt8]), .arrival .ending,
    .reader (.read 2), .reader .look, .reader .copy, .reader .look, .reader .process,
    .reader .look, .reader .process, .reader .finish,
    .request .fair .poll, .proceed .fair, .proceed .fair, .proceed .fair, .proceed .fair,
    .proceed .fair, .proceed .fair, .proceed .fair, .proceed .fair]

/-- The answer to the host is written to the loopback, which brings it back. -/
theorem answer_written_to_loopback :
    let m := (start (.fresh { Terminal.Setup.default with model := .d211 }) default .empty).run
      askAndHangUp
    m.accounts.map Account.target = [none, some (.telnet "mv" 23), none] ∧
      m.answered = [⟨⟨1, 1⟩, 2, Decoder.modelAnswer .d211⟩] ∧
      m.session.link =
        some { Link.fresh 2 none with inbound := [.bytes (Decoder.modelAnswer .d211)] } ∧
      m.session.calls.back? = some (.write 2 (Decoder.modelAnswer .d211)) := by
  decide +kernel

end Threads

end DasherTerminal
