import DasherTerminal.Proofs.Session.Polls
import DasherTerminal.Proofs.Terminal.Query
import DasherTerminal.Proofs.Terminal.SelfTest

/-!
# Echoes

Without a host, answers come back to the terminal that gave them, in the middle
of what the user types. They are no queries there and make none of what stands
around them, so that polls come to an end: there are no more answers than the
user asked for.
-/

namespace DasherTerminal

namespace Decoder

def IsAnswer (bytes : List UInt8) : Prop := ∃ model, bytes = modelAnswer model

/-- Nothing but answers is queued for the host. -/
theorem isAnswer_run {d : Decoder} (h : d.wait.Unfinished) (s : Screen) (bytes : List UInt8)
    (hqueued : ∀ a ∈ d.responses, IsAnswer a) :
    ∀ a ∈ (d.run s bytes).1.responses, IsAnswer a := by
  induction bytes generalizing d s with
  | nil => exact hqueued
  | cons byte bytes ih =>
      apply ih (unfinished_step h s byte)
      intro a ha
      rw [responses_step h, List.mem_append] at ha
      rcases ha with hold | hnew
      · exact hqueued a hold
      · split at hnew
        · exact ⟨s.model, List.mem_singleton.mp hnew⟩
        · cases hnew

end Decoder

namespace Terminal

/-- How many answers are queued in the course of operations. The question in the
pattern of the self-test is answered to nobody. -/
def queued (t : Terminal) (ops : List Operation) : Nat :=
  (Mail.concat ((t.turnovers ops).map Turnover.provoked)).answers.length

theorem queued_cons (t : Terminal) (op : Operation) (ops : List Operation) :
    t.queued (op :: ops) =
      (t.turnover op).provoked.answers.length + (t.perform op).queued ops := by
  rw [queued, turnovers, Turnover.along, List.map_cons, Mail.concat_cons]
  exact List.length_append

theorem queued_append (t : Terminal) (a b : List Operation) :
    t.queued (a ++ b) = t.queued a + (t.performAll a).queued b := by
  induction a generalizing t with
  | nil => exact (Nat.zero_add _).symm
  | cons op a ih =>
      rw [List.cons_append, queued_cons, queued_cons, ih, performAll_cons, Nat.add_assoc]

theorem begun_process (t : Terminal) (bytes : List UInt8) :
    (t.process bytes).decoder.begun = (t.emptied.process bytes).decoder.begun := by
  rw [decoder_process]
  rfl

variable {t : Terminal}

theorem queued_perform (h : t.decoder.wait.Unfinished) (op : Operation) (rest : List UInt8) :
    (t.turnover op).provoked.answers.length +
        Decoder.queries ((t.perform op).decoder.begun ++ rest) ≤
      Decoder.queries (t.decoder.begun ++ (op.fed ++ rest)) := by
  cases op with
  | process bytes =>
      have hrun := Decoder.queued_run (d := t.emptied.decoder) h t.screen bytes rest
      rw [perform, begun_process]
      exact Nat.le_trans hrun (Nat.le_of_eq (Nat.zero_add _))
  | selfTest =>
      rw [perform, Decoder.begun_eq_nil t.idle_selfTest]
      exact Nat.le_trans (Nat.le_of_eq (Nat.zero_add _)) (Decoder.queries_le_append _ _)
  | _ => exact Nat.le_of_eq (Nat.zero_add _)

theorem queued_performAll (h : t.decoder.wait.Unfinished) (ops : List Operation)
    (rest : List UInt8) :
    t.queued ops + Decoder.queries ((t.performAll ops).decoder.begun ++ rest) ≤
      Decoder.queries (t.decoder.begun ++ (ops.flatMap Operation.fed ++ rest)) := by
  induction ops generalizing t with
  | nil => exact Nat.le_of_eq (Nat.zero_add _)
  | cons op ops ih =>
      have hrest := ih (unfinished_perform h op)
      have hfirst := queued_perform h op (ops.flatMap Operation.fed ++ rest)
      rw [queued_cons, performAll_cons, List.flatMap_cons, List.append_assoc]
      omega

end Terminal

namespace Session

def outgoing? (s : Session) : Request → Option (List UInt8)
  | .sendBytes bytes => some bytes
  | .sendKey key => s.encoder.encode key
  | .sendFile path => (s.files.read path).toOption
  | _ => none

variable {s : Session} {l : Link}

theorem link_send (hlink : s.link = some l) (hoffline : l.isOnline = false) (out : Outside)
    (bytes : List UInt8) :
    (s.send out bytes).2.link =
      some (if out.writeFault?.isNone then l.arrive (.bytes bytes) else l) := by
  cases hfault : out.writeFault? with
  | some fault => simp [send, hlink, hfault]
  | none => simp [send, hlink, hfault, hoffline]

theorem send_of_outgoing? {out : Outside} {r : Request} {bytes : List UInt8}
    (hbytes : s.outgoing? r = some bytes) : (s.perform out r).2 = (s.send out bytes).2 := by
  cases r with
  | sendBytes =>
      cases hbytes
      rfl
  | sendKey key =>
      have hkey : s.encoder.encode key = some bytes := hbytes
      rw [perform, sendKey, hkey]
  | sendFile path =>
      cases hread : s.files.read path with
      | error cause =>
          rw [outgoing?, hread] at hbytes
          cases hbytes
      | ok content =>
          rw [outgoing?, hread] at hbytes
          cases hbytes
          rw [perform, sendFile, hread]
  | _ => cases hbytes

theorem link_of_outgoing? {r : Request} (hr : r.changesLink = false)
    (hbytes : s.outgoing? r = none) (out : Outside) : (s.perform out r).2.link = s.link := by
  cases r with
  | connect => cases hr
  | reconnect => cases hr
  | disconnect => cases hr
  | poll => cases hr
  | sendBytes => cases hbytes
  | sendKey key =>
      have hkey : s.encoder.encode key = none := hbytes
      rw [perform, sendKey, hkey]
  | sendFile path =>
      cases hread : s.files.read path with
      | error cause => rw [perform, sendFile, hread]
      | ok content =>
          rw [outgoing?, hread] at hbytes
          cases hbytes
  | resize size =>
      rw [perform, resize]
      dsimp only
      split
      · split <;> rfl
      · rfl
  | selfTest => rw [perform, selfTest]
  | startCapture path =>
      rw [perform, startCapture]
      split <;> rfl
  | loadTemplate path =>
      rw [perform, loadTemplate]
      split <;> rfl
  | _ => rfl

end Session

namespace Threads

variable {m m' : Threads} {setup : Terminal.Setup}

/-! ### Answers in the post -/

/-- What a terminal from the given setup and its polls can have come to. -/
structure Genuine (setup : Terminal.Setup) (m : Threads) : Prop where
  orderly : m.Orderly (.fresh setup)
  paired : m.Paired
  answers : ∀ a ∈ m.mail.answers, Decoder.IsAnswer a

theorem Genuine.unfinished (h : m.Genuine setup) :
    m.session.terminal.decoder.wait.Unfinished := by
  rw [h.orderly.terminal]
  exact ((Terminal.Reachable.fresh setup).performAll m.past).sound.wait

theorem genuine_start (setup : Terminal.Setup) (encoder : Encoder) (files : Files) :
    (start (.fresh setup) encoder files).Genuine setup :=
  ⟨orderly_start _ encoder files, paired_start setup encoder files, fun _ ha => nomatch ha⟩

theorem Genuine.provoked (h : m.Genuine setup) (move : Move) :
    ∀ a ∈ (m.turnover move).provoked.answers, Decoder.IsAnswer a := by
  have hnone : ∀ a ∈ Mail.none.answers, Decoder.IsAnswer a := fun _ ha => nomatch ha
  rw [turnover]
  split
  · change ∀ a ∈ (m.provoked move).answers, Decoder.IsAnswer a
    unfold Threads.provoked
    split
    · split
      · next b _ =>
          have hunfinished : m.session.terminal.emptied.decoder.wait.Unfinished := h.unfinished
          exact Decoder.isAnswer_run hunfinished m.session.terminal.screen [b] hnone
      · exact hnone
    · exact hnone
  · exact hnone

theorem Genuine.next (h : m.Genuine setup) (move : Move) : (m.next move).Genuine setup := by
  refine ⟨(h.orderly.steps (m.steps_next move)).orderly, h.paired.steps (m.steps_next move), ?_⟩
  intro a ha
  -- What waits after the move waited before it or was provoked in it.
  have hmail := congrArg Mail.answers (mail_next h.paired move)
  have hmem : a ∈ m.mail.answers ++ (m.turnover move).provoked.answers := by
    change m.mail.answers ++ (m.turnover move).provoked.answers = _ at hmail
    rw [hmail]
    exact List.mem_append_right _ ha
  rcases List.mem_append.mp hmem with hold | hnew
  · exact h.answers a hold
  · exact h.provoked move a hnew

theorem Genuine.run (h : m.Genuine setup) (moves : List Move) : (m.run moves).Genuine setup := by
  induction moves generalizing m with
  | nil => exact h
  | cons move moves ih => exact ih (h.next move)

/-! ### Without a host -/

/-- The user asks for no other link. -/
def Move.isLocal : Move → Bool
  | .request _ (.connect _) => false
  | .request _ .reconnect => false
  | .request _ .disconnect => false
  | _ => true

/-- The user's thread is not about to change the link. -/
def Task.isLocal : Task → Bool
  | .free => true
  | .draining => true
  | .sending _ _ => true
  | _ => false

/-- There is no host, and the user is not on the way to one. -/
structure Offline (m : Threads) : Prop where
  link : ∃ l, m.session.link = some l ∧ l.isOnline = false
  task : m.task.isLocal = true

/-- The bytes of the user that the link takes in a move. -/
def sent? (m : Threads) : Move → Option (List UInt8)
  | .request out r => if out.writeFault?.isNone then m.session.outgoing? r else none
  | _ => none

/-- What became of what the user sent: it has come back with answers in it. -/
structure Echoes (m : Threads) (sent : List UInt8) (m' : Threads) : Prop where
  offline : m'.Offline
  closed : m'.closed = m.closed
  inbound : ∃ came, m'.current.inbound = m.current.inbound ++ came ∧ Decoder.Echoed sent came

theorem echoes_nothing (h : m'.Offline) (hclosed : m'.closed = m.closed)
    (hinbound : m'.current.inbound = m.current.inbound) : m.Echoes [] m' :=
  ⟨h, hclosed, [], hinbound.trans (List.append_nil _).symm, .nil⟩

theorem Echoes.trans {m₁ m₂ m₃ : Threads} {sent sent' : List UInt8} (h : m₁.Echoes sent m₂)
    (h' : m₂.Echoes sent' m₃) : m₁.Echoes (sent ++ sent') m₃ := by
  rcases h.inbound with ⟨came, hcame, hechoed⟩
  rcases h'.inbound with ⟨came', hcame', hechoed'⟩
  refine ⟨h'.offline, h'.closed.trans h.closed, came ++ came', ?_, hechoed.append hechoed'⟩
  rw [hcame', hcame, List.append_assoc]

/-- The link stays, or takes something. -/
theorem echoes_undergo (h : m.Offline) {s : Session} {ops : List Terminal.Operation} {l l' : Link}
    {came sent : List UInt8} (hlink : m.session.link = some l) (hlink' : s.link = some l')
    (hoffline : l'.isOnline = false) (hunread : l'.unread = l.unread ++ came)
    (hechoed : Decoder.Echoed sent came) : m.Echoes sent (m.undergo s ops) := by
  refine ⟨⟨⟨l', hlink', hoffline⟩, h.task⟩, rfl, came, ?_, hechoed⟩
  have hbefore : m.session.unread = l.unread := by
    rw [Session.unread, hlink]
    rfl
  have hafter : s.unread = l.unread ++ came := by
    rw [Session.unread, hlink', ← hunread]
    rfl
  rw [undergo, hbefore, hafter, List.drop_left]

theorem echoes_send (h : m.Offline) (out : Outside) (bytes : List UInt8)
    (ops : List Terminal.Operation) {sent : List UInt8}
    (hechoed : Decoder.Echoed sent (if out.writeFault?.isNone then bytes else [])) :
    m.Echoes sent (m.undergo (m.session.send out bytes).2 ops) := by
  rcases h.link with ⟨l, hlink, hoffline⟩
  have hlink' := Session.link_send hlink hoffline out bytes
  cases hfault : out.writeFault?.isNone with
  | true =>
      rw [hfault] at hlink' hechoed
      exact echoes_undergo h hlink hlink' hoffline (unread_arrive l (.bytes bytes)) hechoed
  | false =>
      rw [hfault] at hlink' hechoed
      exact echoes_undergo h hlink hlink' hoffline (List.append_nil _).symm hechoed

theorem echoes_request (h : m.Offline) (out : Outside) {r : Request}
    (hlocal : (Move.request out r).isLocal = true) :
    m.Echoes (m.sent? (.request out r)).toList.flatten (m.request out r) := by
  rcases h.link with ⟨l, hlink, hoffline⟩
  cases hr : r.changesLink with
  | true =>
      cases r with
      | poll =>
          have hserved : m.session.isHungUp = false := by
            rw [Session.isHungUp, hlink, Option.any_some, hoffline, Bool.and_false]
          have hsent : m.sent? (.request out .poll) = none := ite_self none
          rw [hsent, request, hserved]
          exact echoes_nothing ⟨⟨l, hlink, hoffline⟩, rfl⟩ rfl rfl
      | connect target => cases hlocal
      | reconnect => cases hlocal
      | disconnect => cases hlocal
      | _ => cases hr
  | false =>
      rw [m.request_eq_undergo out hr, sent?]
      cases hbytes : m.session.outgoing? r with
      | none =>
          have hsame := Session.link_of_outgoing? hr hbytes out
          rw [ite_self]
          exact echoes_undergo h hlink (hsame.trans hlink) hoffline (List.append_nil _).symm .nil
      | some bytes =>
          have hsent : (if out.writeFault?.isNone then some bytes else none).toList.flatten =
              if out.writeFault?.isNone then bytes else [] := by
            split <;> simp
          rw [Session.send_of_outgoing? hbytes, hsent]
          exact echoes_send h out bytes _ (.refl _)

theorem echoes_answer (h : m.Offline) (out : Outside) (question : Question) (model : Model)
    (answers : List (Question × List UInt8)) (news : List Notification) :
    m.Echoes [] (m.answer out question (Decoder.modelAnswer model) answers news) := by
  have hechoed : Decoder.Echoed []
      (if out.writeFault?.isNone then Decoder.modelAnswer model else []) := by
    split
    · exact .modelAnswer model
    · exact .nil
  have hsent := echoes_send h out (Decoder.modelAnswer model) [] hechoed
  unfold answer
  split
  · next s _ hsend =>
      rw [hsend] at hsent
      exact ⟨⟨hsent.offline.link, rfl⟩, hsent.closed, hsent.inbound⟩
  · exact echoes_nothing ⟨h.link, rfl⟩ rfl rfl

theorem echoes_proceed (h : m.Offline) (hgenuine : m.Genuine setup) {out : Outside}
    (hstep : m.proceed? out = some m') : m.Echoes [] m' := by
  have hlocal := h.task
  unfold proceed? at hstep
  split at hstep
  case h_1 => cases hstep
  case h_7 =>
    cases hstep
    exact echoes_nothing ⟨h.link, rfl⟩ rfl rfl
  case h_8 =>
    cases hstep
    exact echoes_nothing ⟨h.link, rfl⟩ rfl rfl
  case h_9 question bytes answers news htask =>
    cases hstep
    have hanswer : Decoder.IsAnswer bytes := by
      apply hgenuine.answers
      rw [mail, htask]
      exact List.mem_append_left _ List.mem_cons_self
    rcases hanswer with ⟨model, rfl⟩
    exact echoes_answer h out question model answers news
  all_goals
    next htask =>
      rw [htask] at hlocal
      cases hlocal

theorem Reading.Moves.inbound_eq {r r' : Reading} {move : ReaderMove} (h : r.Moves move r') :
    r'.account.inbound = r.account.inbound := by
  cases h <;> rfl

theorem task_of_reader {move : ReaderMove} (hstep : m.step? (.reader move) = some m') :
    m'.task = m.task := by
  rw [step?, readerStep?] at hstep
  split at hstep
  · next l _ =>
      split at hstep
      · cases hstep
      · obtain ⟨r, -, rfl⟩ := Option.map_eq_some_iff.mp hstep
        obtain ⟨files, capture, asked, heffect⟩ :=
          effect_eq { m.setLink r.link with hand := r.hand, current := r.account } l.number move
            m.hand
        rw [heffect]
        rfl
  · cases hstep

theorem echoes_step? (h : m.Offline) (hgenuine : m.Genuine setup) {move : Move}
    (hmove : move.isLocal = true) (hstep : m.step? move = some m') :
    m.Echoes (m.sent? move).toList.flatten m' := by
  rcases h.link with ⟨l, hlink, hoffline⟩
  cases move with
  | arrival a =>
      obtain ⟨s, hs, rfl⟩ := Option.map_eq_some_iff.mp hstep
      rw [Session.arrive?, hlink] at hs
      simp [hoffline] at hs
  | merge =>
      obtain ⟨k, hk, rfl⟩ := Option.map_eq_some_iff.mp hstep
      obtain rfl := Option.some.inj (hlink.symm.trans hk)
      exact echoes_nothing ⟨⟨_, rfl, hoffline⟩, h.task⟩ rfl rfl
  | reader move =>
      obtain ⟨k, r, hk, -, hmoves, hlink', -, hcurrent, hclosed⟩ := reader_of_step? hstep
      obtain rfl := Option.some.inj (hlink.symm.trans hk)
      have hoffline' : r.link.isOnline = false := by
        rw [Link.isOnline, hmoves.target_eq.1]
        exact hoffline
      apply echoes_nothing
      · exact ⟨⟨r.link, hlink', hoffline'⟩, (task_of_reader hstep) ▸ h.task⟩
      · exact hclosed
      · rw [hcurrent]
        exact hmoves.inbound_eq
  | request out r =>
      rw [step?] at hstep
      split at hstep
      · cases hstep
        exact echoes_request h out hmove
      · cases hstep
  | proceed out => exact echoes_proceed h hgenuine hstep
  | blinkTimer =>
      cases hstep
      exact echoes_undergo h hlink hlink hoffline (List.append_nil _).symm .nil

theorem echoes_run (h : m.Offline) (hgenuine : m.Genuine setup) {moves : List Move}
    (hmoves : ∀ move ∈ moves, move.isLocal = true) :
    m.Echoes (m.seen sent? moves).flatten (m.run moves) := by
  induction moves generalizing m with
  | nil => exact echoes_nothing h rfl rfl
  | cons move moves ih =>
      rw [List.forall_mem_cons] at hmoves
      have hgenuine' := hgenuine.next move
      rw [run_cons, seen]
      rw [next] at hgenuine' ⊢
      cases hstep : m.step? move with
      | none => exact ih h hgenuine hmoves.2
      | some m' =>
          have hfirst := echoes_step? h hgenuine hmoves.1 hstep
          rw [hstep] at hgenuine'
          have hrest := ih hfirst.offline hgenuine' hmoves.2
          rw [List.flatten_append]
          exact hfirst.trans hrest

theorem steps_past (hstep : m.Steps m') : ∃ ops, m'.past = m.past ++ ops := by
  cases hstep with
  | undergo => exact ⟨_, rfl⟩
  | @reader l r move =>
      obtain ⟨files, capture, asked, heffect⟩ :=
        effect_eq { m.setLink r.link with hand := r.hand, current := r.account } l.number move
          m.hand
      rw [heffect]
      exact ⟨_, rfl⟩
  | drain => exact ⟨_, rfl⟩
  | answer => exact ⟨_, rfl⟩
  | _ => exact ⟨[], (List.append_nil _).symm⟩

theorem past_run (m : Threads) (moves : List Move) :
    ∃ ops, (m.run moves).past = m.past ++ ops := by
  refine run_induction (P := fun u => ∃ ops, u.past = m.past ++ ops) ?_
    ⟨[], (List.append_nil _).symm⟩ moves
  rintro u v ⟨ops, hops⟩ hstep
  obtain ⟨more, hmore⟩ := steps_past hstep
  exact ⟨ops ++ more, by rw [hmore, hops, List.append_assoc]⟩

def unprocessed (m : Threads) : List UInt8 := m.current.inbound.drop m.current.processed.length

theorem Orderly.fed_eq {terminal : Terminal} (h : m.Orderly terminal) :
    m.past.flatMap Terminal.Operation.fed =
      (m.closed.map Account.processed).flatten ++ m.current.processed := by
  rw [h.fed, accounts, List.map_append, List.flatten_append]
  exact congrArg _ (List.append_nil _)

theorem Orderly.processed_append_unprocessed {terminal : Terminal} (h : m.Orderly terminal) :
    m.current.processed ++ m.unprocessed = m.current.inbound := by
  have hsound : m.current.Sound := h.sound (List.mem_append_right _ List.mem_cons_self)
  exact List.prefix_iff_eq_append.mp (hsound.processed.trans hsound.delivered)

/-- The terminal is fed what was left before, and then the echo. -/
theorem Echoes.fed_prefix {sent : List UInt8} {terminal : Terminal} (h : m.Echoes sent m')
    (horderly : m.Orderly terminal) (horderly' : m'.Orderly terminal)
    {ops : List Terminal.Operation} (hpast : m'.past = m.past ++ ops) :
    ∃ came, Decoder.Echoed sent came ∧
      ops.flatMap Terminal.Operation.fed <+: m.unprocessed ++ came := by
  rcases h.inbound with ⟨came, hcame, hechoed⟩
  refine ⟨came, hechoed, ?_⟩
  have hprocessed : m'.current.processed =
      m.current.processed ++ ops.flatMap Terminal.Operation.fed := by
    have hfed := horderly'.fed_eq
    rw [hpast, List.flatMap_append, horderly.fed_eq, h.closed, List.append_assoc] at hfed
    exact (List.append_cancel_left hfed).symm
  have hinbound := horderly'.processed_append_unprocessed
  rw [hcame, hprocessed, ← horderly.processed_append_unprocessed, List.append_assoc,
    List.append_assoc] at hinbound
  exact ⟨m'.unprocessed, List.append_cancel_left hinbound⟩

theorem offline_start (terminal : Terminal) (encoder : Encoder) (files : Files) :
    (start terminal encoder files).Offline :=
  ⟨⟨.fresh 0 none, rfl, rfl⟩, rfl⟩

/-- The decoder may have the first half of a query already, and the link may hold
what was never processed. -/
theorem Genuine.queued_le (h : m.Genuine setup) (hoffline : m.Offline) {moves : List Move}
    (hlocal : ∀ move ∈ moves, move.isLocal = true) :
    (Terminal.fresh setup).queued (m.run moves).past ≤ (Terminal.fresh setup).queued m.past +
      Decoder.queries (m.session.terminal.decoder.begun ++
        (m.unprocessed ++ (m.seen sent? moves).flatten)) := by
  have hechoes := echoes_run hoffline h hlocal
  obtain ⟨ops, hpast⟩ := past_run m moves
  obtain ⟨came, hechoed, rest, hrest⟩ :=
    hechoes.fed_prefix h.orderly (h.run moves).orderly hpast
  -- The operations are counted over all that came in, fed or not, and that over
  -- what was sent.
  have hqueued := Terminal.queued_performAll h.unfinished ops rest
  have hqueries := (hechoed.prepend (m.session.terminal.decoder.begun ++ m.unprocessed)).queries_le
  rw [hrest] at hqueued
  rw [List.append_assoc, List.append_assoc] at hqueries
  rw [hpast, Terminal.queued_append, ← h.orderly.terminal]
  omega

/-- An answer that comes in leaves the decoder as it was, but for a code that it
ends. Without a host, whatever comes first and whatever the user does with the
terminal, there are no more answers than queries in what the user sends. If there
was a host, what it left of a query counts with that. -/
theorem queued_le_queries (setup : Terminal.Setup) (encoder : Encoder) (files : Files) :
    let t₀ := Terminal.fresh setup
    let m₀ := start t₀ encoder files
    (∀ (t : Terminal) (model : Model),
      (t.process (Decoder.modelAnswer model)).decoder = { t.decoder with wait := .idle }) ∧
    (∀ moves, (m₀.run moves).session.terminal = t₀.performAll (m₀.run moves).past) ∧
    (∀ moves, (∀ move ∈ moves, move.isLocal = true) →
      (m₀.run moves).Offline ∧
      t₀.queued (m₀.run moves).past ≤ Decoder.queries (m₀.seen sent? moves).flatten) ∧
    ∀ before moves, let m := m₀.run before
      m.Offline → (∀ move ∈ moves, move.isLocal = true) →
        (m.run moves).Offline ∧
        t₀.queued (m.run moves).past ≤ t₀.queued m.past +
          Decoder.queries (m.session.terminal.decoder.begun ++
            (m.unprocessed ++ (m.seen sent? moves).flatten)) := by
  intro t₀ m₀
  have hgenuine : m₀.Genuine setup := genuine_start setup encoder files
  refine ⟨?_, ?_, ?_, ?_⟩
  · intro t model
    exact t.decoder.run_modelAnswer t.screen model
  · intro moves
    exact (hgenuine.run moves).orderly.terminal
  · intro moves hlocal
    have hoffline : m₀.Offline := offline_start _ encoder files
    have hqueued := hgenuine.queued_le hoffline hlocal
    have hnothing : t₀.queued m₀.past = 0 := rfl
    rw [hnothing, Nat.zero_add] at hqueued
    constructor
    · exact (echoes_run hoffline hgenuine hlocal).offline
    · exact hqueued
  · intro before moves m hoffline hlocal
    have h : m.Genuine setup := hgenuine.run before
    constructor
    · exact (echoes_run hoffline h hlocal).offline
    · exact h.queued_le hoffline hlocal

/-- The user asks a question and begins another; the answer to the first comes
before the end of the second, and is polled for again. -/
def askTwice : List Move :=
  let typing (bytes : List UInt8) : List Move := [.request .fair (.sendBytes bytes)]
  let reading (n : Nat) : List Move :=
    [.reader (.read n), .reader .look, .reader .copy] ++
      (List.replicate n [Move.reader .look, .reader .process]).flatten
  let polling : List Move := [.request .fair .poll, .proceed .fair, .proceed .fair, .proceed .fair]
  typing [0o36, 'C'.toUInt8, 0o36] ++ reading 3 ++ polling ++ typing ['C'.toUInt8] ++ reading 6 ++
    reading 1 ++ polling

theorem queued_le_queries_askTwice :
    let setup : Terminal.Setup := { Terminal.Setup.default with model := .d211 }
    let m₀ := start (.fresh setup) default .empty
    let m := m₀.run askTwice
    (∀ move ∈ askTwice, move.isLocal = true) ∧
      m.past.flatMap Terminal.Operation.fed =
        [0o36, 'C'.toUInt8, 0o36] ++ Decoder.modelAnswer .d211 ++ ['C'.toUInt8] ∧
      Decoder.queries (m₀.seen sent? askTwice).flatten = 2 ∧
      (Terminal.fresh setup).queued m.past ≤ 2 ∧ (Terminal.fresh setup).queued m.past = 1 := by
  have hlocal : ∀ move ∈ askTwice, move.isLocal = true := by decide
  refine ⟨hlocal, by decide +kernel, by decide +kernel, ?_, by decide +kernel⟩
  rcases queued_le_queries { Terminal.Setup.default with model := .d211 } default .empty with
    ⟨-, -, hall, -⟩
  exact Nat.le_trans (hall askTwice hlocal).2 (Nat.le_of_eq (by decide +kernel))

end Threads

end DasherTerminal
