import DasherTerminal.Proofs.Session.Queue

/-!
# Runs of a session are runs of its threads

Where a session takes a step at once, its threads make several moves. Every run
of a session is one of its threads in which these moves follow on each other.
-/

namespace DasherTerminal

namespace Threads

/-! ### Several moves for one step -/

/-- What of the threads decides how the session goes on. -/
structure Position where
  session : Session
  hand : Hand
  task : Task

def position (m : Threads) : Position := ⟨m.session, m.hand, m.task⟩

/-- From one position moves lead to another. -/
def Leads (p q : Position) : Prop :=
  ∀ m : Threads, m.Paired → m.position = p → ∃ moves, (m.run moves).position = q

variable {p q r : Position}

theorem Leads.refl (p : Position) : Leads p p := fun _ _ hm => ⟨[], hm⟩

theorem Leads.trans (h : Leads p q) (h' : Leads q r) : Leads p r := by
  intro m hpaired hm
  obtain ⟨moves, hmoves⟩ := h m hpaired hm
  obtain ⟨more, hmore⟩ := h' (m.run moves) (hpaired.run moves) hmoves
  refine ⟨moves ++ more, ?_⟩
  rw [run_append]
  exact hmore

theorem Leads.of_step? (move : Move)
    (h : ∀ m : Threads, m.Paired → m.position = p →
      ∃ m', m.step? move = some m' ∧ m'.position = q) : Leads p q := by
  intro m hpaired hm
  obtain ⟨m', hstep, hm'⟩ := h m hpaired hm
  refine ⟨[move], ?_⟩
  rw [run_cons, run_nil, next, hstep]
  exact hm'

/-! ### Steps of the reader -/

def ReaderMove.apply (move : ReaderMove) (hand : Hand) (s : Session) : Session :=
  match move, hand with
  | .copy, .uncopied piece => s.record piece
  | .process, .byte b => { s with terminal := s.terminal.process [b] }
  | _, _ => s

theorem position_effect (m : Threads) (number : Nat) (move : ReaderMove) (hand : Hand) :
    (m.effect number move hand).position = ⟨move.apply hand m.session, m.hand, m.task⟩ := by
  cases move <;> cases hand <;> rfl

theorem leads_reader (move : ReaderMove) {s : Session} {l l' : Link} {hand hand' : Hand}
    (hlink : s.link = some l) (hrunning : l.finished = false)
    (hstep : ∀ account, ∃ account',
      Reading.step? ⟨l, hand, account⟩ move = some ⟨l', hand', account'⟩) (task : Task) :
    Leads ⟨s, hand, task⟩ ⟨move.apply hand { s with link := some l' }, hand', task⟩ := by
  refine .of_step? (.reader move) fun m _ hm => ?_
  obtain ⟨rfl, rfl, rfl⟩ := Position.mk.inj hm
  obtain ⟨account', haccount'⟩ := hstep m.current
  refine ⟨_, ?_, position_effect { m.setLink l' with hand := hand', current := account' } l.number
    move m.hand⟩
  rw [step?, readerStep?, hlink]
  simp only [hrunning, Bool.false_eq_true, if_false, haccount', Option.map_some]

theorem splitPiece_eq (bytes : List UInt8) (rest : List Arrival) :
    Session.splitPiece bytes rest =
      (bytes.take (min readPiece bytes.length),
        Reading.leave (min readPiece bytes.length) bytes rest) := by
  unfold Session.splitPiece Reading.leave
  split
  · next hshort =>
      have hmin : min readPiece bytes.length = bytes.length := Nat.min_eq_right hshort
      simp [hmin]
  · next hlong =>
      have hlong : readPiece < bytes.length := Nat.lt_of_not_le hlong
      have hmin : min readPiece bytes.length = readPiece := Nat.min_eq_left (Nat.le_of_lt hlong)
      simp [hmin, hlong]

section Reader

variable {s : Session} {l : Link} (hlink : s.link = some l) (hrunning : l.finished = false)
include hlink hrunning

/-- The reader reads all that it may, and has not looked at the flag since. -/
theorem leads_read {bytes : List UInt8} {rest : List Arrival} (hheld : l.held = [])
    (hinbound : l.inbound = .bytes bytes :: rest) (task : Task) :
    Leads ⟨s, .empty, task⟩
      ⟨{ s with link := some { l with inbound := (Session.splitPiece bytes rest).2 } },
        .unchecked (Session.splitPiece bytes rest).1, task⟩ := by
  rw [splitPiece_eq]
  generalize hn : min readPiece bytes.length = n
  have hbound : n ≤ readPiece ∧ n ≤ bytes.length ∧ (n = 0 → bytes = []) := by
    refine ⟨hn ▸ Nat.min_le_left _ _, hn ▸ Nat.min_le_right _ _, ?_⟩
    intro hzero
    have hlength : bytes.length = 0 := by
      rw [readPiece] at hn
      omega
    exact List.length_eq_zero_iff.mp hlength
  refine leads_reader (.read n) hlink hrunning ?_ task
  intro account
  refine ⟨{ account with delivered := account.delivered ++ bytes.take n }, ?_⟩
  simp only [Reading.step?, Reading.read?, hheld, hinbound]
  exact if_pos hbound

theorem leads_discard {piece : List UInt8} (hflag : l.stopping = true) (task : Task) :
    Leads ⟨s, .unchecked piece, task⟩
      ⟨{ s with link := some { l with finished := true } }, .empty, task⟩ :=
  leads_reader .look hlink hrunning
    (fun account => ⟨account, by simp [Reading.step?, Reading.look?, hflag]⟩) task

theorem leads_copy {piece : List UInt8} (hflag : l.stopping = false) (task : Task) :
    Leads ⟨s, .unchecked piece, task⟩
      ⟨({ s with link := some { l with held := piece } } : Session).record piece, .empty,
        task⟩ := by
  have hlook : Leads ⟨s, .unchecked piece, task⟩
      ⟨{ s with link := some l }, .uncopied piece, task⟩ :=
    leads_reader .look hlink hrunning
      (fun account => ⟨account, by simp [Reading.step?, Reading.look?, hflag]⟩) task
  exact hlook.trans (leads_reader .copy rfl hrunning (fun _ => ⟨_, rfl⟩) task)

theorem leads_drop {b : UInt8} {held : List UInt8} (hheld : l.held = b :: held)
    (hflag : l.stopping = true) (task : Task) :
    Leads ⟨s, .empty, task⟩ ⟨{ s with link := some { l with held := [] } }, .empty, task⟩ :=
  leads_reader .look hlink hrunning
    (fun account => ⟨account, by simp [Reading.step?, Reading.look?, hheld, hflag]⟩) task

theorem leads_process {b : UInt8} {held : List UInt8} (hheld : l.held = b :: held)
    (hflag : l.stopping = false) (task : Task) :
    Leads ⟨s, .empty, task⟩
      ⟨{ s with terminal := s.terminal.process [b], link := some { l with held } }, .empty,
        task⟩ := by
  have hlook : Leads ⟨s, .empty, task⟩
      ⟨{ s with link := some { l with held } }, .byte b, task⟩ :=
    leads_reader .look hlink hrunning
      (fun account => ⟨account, by simp [Reading.step?, Reading.look?, hheld, hflag]⟩) task
  have hrunning' : Link.finished { l with held } = false := hrunning
  exact hlook.trans (leads_reader .process rfl hrunning' (fun _ => ⟨_, rfl⟩) task)

end Reader

theorem leads_readerStep {s s' : Session} (h : s.readerStep? = some s') (task : Task) :
    Leads ⟨s, .empty, task⟩ ⟨s', .empty, task⟩ := by
  unfold Session.readerStep? at h
  split at h
  · cases h
  · next l hlink =>
      split at h
      · cases h
      · next hrunning =>
          have hrunning : l.finished = false := Bool.eq_false_iff.mpr hrunning
          split at h
          · next b held hheld =>
              split at h
              · next hflag =>
                  cases h
                  exact leads_drop hlink hrunning hheld hflag task
              · next hflag =>
                  cases h
                  exact leads_process hlink hrunning hheld (Bool.eq_false_iff.mpr hflag) task
          · next bytes rest hheld hinbound =>
              have hread := leads_read hlink hrunning hheld hinbound task
              have hrunning' : Link.finished
                  { l with inbound := (Session.splitPiece bytes rest).2 } = false := hrunning
              dsimp only at h
              split at h
              · next hflag =>
                  cases h
                  exact hread.trans (leads_discard rfl hrunning' hflag task)
              · next hflag =>
                  cases h
                  exact hread.trans (leads_copy rfl hrunning' (Bool.eq_false_iff.mpr hflag) task)
          · next inbound hheld hinbound =>
              cases h
              refine leads_reader .retry hlink hrunning (fun account => ⟨account, ?_⟩) task
              simp [Reading.step?, Reading.retry?, hheld, hinbound]
          · next inbound hheld hinbound =>
              cases h
              refine leads_reader .finish hlink hrunning (fun account => ⟨account, ?_⟩) task
              simp [Reading.step?, Reading.finish?, hheld, hinbound]
          · cases h

theorem leads_readerSteps (n : Nat) (s : Session) (task : Task) :
    Leads ⟨s, .empty, task⟩ ⟨s.readerSteps n, .empty, task⟩ := by
  induction n generalizing s with
  | zero => exact .refl _
  | succ n ih =>
      rw [Session.readerSteps]
      split
      · next s' hstep => exact (leads_readerStep hstep task).trans (ih s')
      · exact .refl _

end Threads

namespace Link

theorem length_le_steps (l : Link) : l.held.length + l.inbound.length ≤ l.steps := by
  have hsum : ∀ (inbound : List Arrival) (n : Nat),
      n + inbound.length ≤ inbound.foldl (fun n a => n + a.steps) n := by
    intro inbound
    induction inbound with
    | nil => exact fun n => Nat.le_refl n
    | cons a inbound ih =>
        intro n
        have hpositive : 1 ≤ a.steps := by cases a <;> simp [Arrival.steps]
        have hrest := ih (n + a.steps)
        rw [List.length_cons, List.foldl_cons]
        omega
  exact hsum l.inbound l.held.length

end Link

namespace Session

variable {s : Session} {l : Link}

theorem readerSteps_finished (hlink : s.link = some l) (hfinished : l.finished = true) (n : Nat) :
    s.readerSteps n = s := by
  cases n with
  | zero => rfl
  | succ n => simp [readerSteps, readerStep?, hlink, hfinished]

/-- A reader that was asked to stop drops what it holds, then ends with the next
piece or with the stream. -/
theorem readerStep?_stopping (hlink : s.link = some l) (hrunning : l.finished = false)
    (hstopping : l.stopping = true) (hend : .ending ∈ l.inbound) :
    ∃ s' l', s.readerStep? = some s' ∧ s'.link = some l' ∧
      (l'.finished = true ∨ l'.finished = false ∧ l'.stopping = true ∧ .ending ∈ l'.inbound ∧
        l'.held.length + l'.inbound.length < l.held.length + l.inbound.length) := by
  cases hheld : l.held with
  | cons b held =>
      refine ⟨{ s with link := some { l with held := [] } }, _, ?_, rfl,
        .inr ⟨hrunning, hstopping, hend, ?_⟩⟩
      · simp [readerStep?, hlink, hrunning, hheld, hstopping]
      · simp
  | nil =>
      cases hinbound : l.inbound with
      | nil =>
          rw [hinbound] at hend
          cases hend
      | cons a inbound =>
          cases a with
          | bytes bytes =>
              obtain ⟨left, hleft⟩ : ∃ left, (splitPiece bytes inbound).2 = left := ⟨_, rfl⟩
              refine ⟨{ s with link := some { l with inbound := left, finished := true } }, _, ?_,
                rfl, .inl rfl⟩
              simp [readerStep?, hlink, hrunning, hheld, hinbound, hstopping, hleft]
          | interrupted =>
              have hrest : .ending ∈ inbound := by
                rw [hinbound] at hend
                simpa using hend
              refine ⟨{ s with link := some { l with inbound } }, _, ?_, rfl,
                .inr ⟨hrunning, hstopping, hrest, ?_⟩⟩
              · simp [readerStep?, hlink, hrunning, hheld, hinbound]
              · simp [hheld]
          | ending =>
              refine ⟨{ s with link := some { l with inbound, finished := true } }, _, ?_, rfl,
                .inl rfl⟩
              simp [readerStep?, hlink, hrunning, hheld, hinbound]

theorem finished_readerSteps (hlink : s.link = some l) (hstopping : l.stopping = true)
    (hend : .ending ∈ l.inbound) {n : Nat} (hn : l.held.length + l.inbound.length ≤ n) :
    (s.readerSteps n).link.all Link.finished = true := by
  induction n generalizing s l with
  | zero =>
      have hempty : l.inbound = [] := List.length_eq_zero_iff.mp (by omega)
      rw [hempty] at hend
      cases hend
  | succ n ih =>
      cases hrunning : l.finished with
      | true =>
          rw [readerSteps_finished hlink hrunning, hlink]
          exact hrunning
      | false =>
          obtain ⟨s', l', hstep, hlink', hended⟩ :=
            readerStep?_stopping hlink hrunning hstopping hend
          have hsteps : s.readerSteps (n + 1) = s'.readerSteps n := by rw [readerSteps, hstep]
          rw [hsteps]
          obtain hfinished | ⟨-, hstopping', hend', hless⟩ := hended
          · rw [readerSteps_finished hlink' hfinished, hlink']
            exact hfinished
          · exact ih hlink' hstopping' hend' (by omega)

/-- The reader has ended when the user's thread has waited for it. -/
theorem finished_settle_stopReader (s : Session) :
    s.stopReader.settle.link.all Link.finished = true := by
  cases hlink : s.link with
  | none =>
      have hstop : s.stopReader = s := by rw [stopReader, hlink]
      rw [hstop, settle, hlink]
      exact congrArg (Option.all Link.finished) hlink
  | some l =>
      have hstop : s.stopReader.link = some { l.arrive .ending with stopping := true } := by
        rw [stopReader, hlink]
      rw [settle, hstop]
      refine finished_readerSteps hstop rfl ?_ (Link.length_le_steps _)
      simp [Link.arrive]

end Session

namespace Session

/-- What poll leaves behind when it has emptied the queues. -/
def drained (s : Session) : Session :=
  { s with terminal := s.terminal.drainResponses.2.drainNotifications.2 }

variable {s s' : Session} {out : Outside} {bytes : List UInt8}

theorem exists_link_of_send (h : s.send out bytes = (.ok (), s')) : ∃ l, s.link = some l := by
  cases hlink : s.link with
  | none =>
      rw [send, hlink] at h
      cases h
  | some l => exact ⟨l, rfl⟩

theorem eq_of_send {fault : Fault} (h : s.send out bytes = (.error fault, s')) : s' = s := by
  unfold send at h
  split at h <;> cases h <;> rfl

end Session

namespace Threads

/-! ### Links -/

theorem leads_proceed {s s' : Session} {hand hand' : Hand} {task task' : Task} (out : Outside)
    (h : ∀ m : Threads, m.Paired → m.position = ⟨s, hand, task⟩ →
      ∃ m', m.proceed? out = some m' ∧ m'.position = ⟨s', hand', task'⟩) :
    Leads ⟨s, hand, task⟩ ⟨s', hand', task'⟩ :=
  .of_step? (.proceed out) h

theorem leads_dropLink (s : Session) (out : Outside) (e : Errand) :
    Leads ⟨s, .empty, .raising e⟩ ⟨s.dropLink, .empty, .starting e⟩ := by
  have hraise : Leads ⟨s, .empty, .raising e⟩ ⟨s.raiseFlag, .empty, .closing e⟩ := by
    refine leads_proceed out fun m _ hm => ?_
    obtain ⟨rfl, hhand, htask⟩ := Position.mk.inj hm
    exact ⟨_, by rw [proceed?, htask], by rw [position, hhand]⟩
  have hclose : Leads ⟨s.raiseFlag, .empty, .closing e⟩ ⟨s.stopReader, .empty, .joining e⟩ := by
    refine leads_proceed out fun m _ hm => ?_
    obtain ⟨hsession, hhand, htask⟩ := Position.mk.inj hm
    refine ⟨_, by rw [proceed?, htask], ?_⟩
    rw [position, hhand, hsession, s.stopReader_eq]
  -- While the user's thread waits, only the reader moves.
  have hsettle : Leads ⟨s.stopReader, .empty, .joining e⟩
      ⟨s.stopReader.settle, .empty, .joining e⟩ := leads_readerSteps _ _ _
  have hrelease : Leads ⟨s.stopReader.settle, .empty, .joining e⟩
      ⟨s.dropLink, .empty, .starting e⟩ := by
    refine leads_proceed out fun m _ hm => ?_
    obtain ⟨hsession, hhand, htask⟩ := Position.mk.inj hm
    have hended : m.session.link.all Link.finished = true := by
      rw [hsession]
      exact s.finished_settle_stopReader
    refine ⟨m.release e, by rw [proceed?, htask]; exact if_pos hended, ?_⟩
    rw [position, release, hhand, hsession, Session.dropLink]
  exact ((hraise.trans hclose).trans hsettle).trans hrelease

/-- Where the user's thread is after it has tried to replace the link. -/
def afterSwitch (e : Errand) : Except Fault Unit × Session → Position
  | (.ok (), s) =>
    ⟨{ s with lastTarget := e.target? <|> s.lastTarget }, .empty,
      if e = .leaveHungUp then .draining else .free⟩
  | (.error _, s) => ⟨s, .empty, .free⟩

theorem leads_switchLink (s : Session) (out : Outside) (e : Errand) :
    Leads ⟨s, .empty, .opening e⟩ (afterSwitch e (s.switchLink out e.target?)) := by
  have hopen : Leads ⟨s, .empty, .opening e⟩
      ⟨s.log (.open e.target? s.terminal.screen.size), .empty,
        if (out.openFault? e.target?).isSome then .free else .raising e⟩ := by
    refine leads_proceed out fun m _ hm => ?_
    obtain ⟨rfl, hhand, htask⟩ := Position.mk.inj hm
    exact ⟨_, by rw [proceed?, htask], by rw [position, hhand]⟩
  unfold Session.switchLink
  cases hfault : out.openFault? e.target? with
  | some fault =>
      rw [hfault] at hopen
      exact hopen
  | none =>
      rw [hfault] at hopen
      -- The old link is gone before it shows whether the new one gets a reader.
      have hdrop := hopen.trans (leads_dropLink _ out e)
      cases hreader : out.readerFault? with
      | some fault =>
          refine hdrop.trans (leads_proceed out fun m _ hm => ?_)
          obtain ⟨hsession, hhand, htask⟩ := Position.mk.inj hm
          refine ⟨{ m with task := .free }, ?_, ?_⟩
          · rw [proceed?, htask]
            simp [hreader]
          · rw [position, hhand, hsession]
      | none =>
          refine hdrop.trans (leads_proceed out fun m _ hm => ?_)
          obtain ⟨hsession, hhand, htask⟩ := Position.mk.inj hm
          refine ⟨m.startLink e, ?_, ?_⟩
          · rw [proceed?, htask]
            simp [hreader]
          · rw [position, startLink, hhand, hsession]

/-! ### Requests -/

theorem leads_request {s s' : Session} {task' : Task} (out : Outside) (r : Request)
    (h : ∀ m : Threads, m.position = ⟨s, .empty, .free⟩ →
      (m.request out r).position = ⟨s', .empty, task'⟩) :
    Leads ⟨s, .empty, .free⟩ ⟨s', .empty, task'⟩ := by
  refine .of_step? (.request out r) fun m _ hm => ?_
  obtain ⟨-, -, htask⟩ := Position.mk.inj hm
  exact ⟨m.request out r, by rw [step?, if_pos htask], h m hm⟩

theorem leads_opening (s : Session) (out : Outside) {r : Request} {e : Errand}
    (h : ∀ m : Threads, m.session = s → m.request out r = { m with task := .opening e }) :
    Leads ⟨s, .empty, .free⟩ ⟨s, .empty, .opening e⟩ := by
  refine leads_request out r fun m hm => ?_
  obtain ⟨hsession, hhand, -⟩ := Position.mk.inj hm
  rw [h m hsession, position, hhand, hsession]

theorem leads_connect (s : Session) (out : Outside) {r : Request} {target : Target}
    (h : ∀ m : Threads, m.session = s →
      m.request out r = { m with task := .opening (.connect target) }) :
    Leads ⟨s, .empty, .free⟩ ⟨(s.connect out target).2, .empty, .free⟩ := by
  have hswitch : Leads ⟨s, .empty, .free⟩
      (afterSwitch (.connect target) (s.switchLink out (some target))) :=
    (leads_opening s out h).trans (leads_switchLink s out (.connect target))
  rw [Session.connect]
  generalize s.switchLink out (some target) = done at hswitch ⊢
  obtain ⟨result, s'⟩ := done
  cases result with
  | ok => exact hswitch
  | error fault => exact hswitch

theorem leads_disconnect (s : Session) (out : Outside) :
    Leads ⟨s, .empty, .free⟩ ⟨(s.disconnect out).2, .empty, .free⟩ := by
  have hopen : Leads ⟨s, .empty, .free⟩ ⟨s, .empty, .opening .leave⟩ :=
    leads_opening (r := .disconnect) s out fun _ _ => rfl
  have hswitch : Leads ⟨s, .empty, .free⟩ (afterSwitch .leave (s.switchLink out none)) :=
    hopen.trans (leads_switchLink s out .leave)
  rw [Session.disconnect]
  generalize s.switchLink out none = done at hswitch ⊢
  obtain ⟨result, s'⟩ := done
  cases result with
  | ok => exact hswitch
  | error fault => exact hswitch

/-- Where the user's thread is when it has sent the answers, or tried to. -/
def afterSending (news : List Notification) : Except Fault Unit × Session → Position
  | (.ok (), s) => ⟨{ s with notices := s.notices ++ news }, .empty, .free⟩
  | (.error _, s) => ⟨s, .empty, .free⟩

theorem leads_sending (s : Session) (out : Outside) (answers : List (Question × List UInt8))
    (news : List Notification) :
    Leads ⟨s, .empty, .sending answers news⟩
      (afterSending news (s.sendAll out (answers.map Prod.snd))) := by
  induction answers generalizing s with
  | nil =>
      refine leads_proceed out fun m _ hm => ?_
      obtain ⟨rfl, hhand, htask⟩ := Position.mk.inj hm
      exact ⟨_, by rw [proceed?, htask], by rw [position, hhand]⟩
  | cons answer answers ih =>
      obtain ⟨question, bytes⟩ := answer
      rw [List.map_cons, Session.sendAll]
      cases hsend : s.send out bytes with
      | mk result s' =>
          cases result with
          | ok =>
              obtain ⟨l, hlink⟩ := Session.exists_link_of_send hsend
              refine .trans (leads_proceed out fun m _ hm => ?_) (ih s')
              obtain ⟨rfl, hhand, htask⟩ := Position.mk.inj hm
              refine ⟨m.answer out question bytes answers news, by rw [proceed?, htask], ?_⟩
              rw [answer, hlink, hsend, position]
              exact congrArg (Position.mk s' · _) hhand
          | error fault =>
              obtain rfl : s' = s := Session.eq_of_send hsend
              refine leads_proceed out fun m _ hm => ?_
              obtain ⟨rfl, hhand, htask⟩ := Position.mk.inj hm
              refine ⟨m.answer out question bytes answers news, by rw [proceed?, htask], ?_⟩
              rw [answer, hsend]
              simp [position, hhand]

theorem leads_draining (s : Session) (out : Outside) :
    Leads ⟨s, .empty, .draining⟩
      (afterSending s.terminal.decoder.notifications
        (s.drained.sendAll out s.terminal.decoder.responses)) := by
  intro m hpaired hm
  obtain ⟨rfl, hhand, htask⟩ := Position.mk.inj hm
  -- The questions are known here, and no answer is left without its own.
  have hanswers : (m.asked.zip m.session.terminal.decoder.responses).map Prod.snd =
      m.session.terminal.decoder.responses :=
    List.map_snd_zip (Nat.le_of_eq hpaired.symm)
  have hdrain : m.next (.proceed out) = m.drain := by
    rw [next, step?, proceed?, htask]
    rfl
  have hsending := leads_sending m.drain.session out
    (m.asked.zip m.session.terminal.decoder.responses) m.session.terminal.decoder.notifications
  rw [hanswers] at hsending
  have hposition : m.drain.position = ⟨m.drain.session, .empty, .sending
      (m.asked.zip m.session.terminal.decoder.responses)
      m.session.terminal.decoder.notifications⟩ := congrArg (Position.mk _ · _) hhand
  obtain ⟨moves, hmoves⟩ := hsending m.drain rfl hposition
  refine ⟨.proceed out :: moves, ?_⟩
  rw [run_cons, hdrain]
  exact hmoves

/-- What poll does after it has looked for a host that hung up. -/
theorem perform_poll_eq (s : Session) (out : Outside) :
    (s.perform out .poll).2 =
      match if s.isHungUp then s.disconnect out else (.ok (), s) with
      | (.error _, s) => s
      | (.ok (), s) =>
        (afterSending s.terminal.decoder.notifications
          (s.drained.sendAll out s.terminal.decoder.responses)).session := by
  rw [Session.perform, Session.poll]
  generalize (if s.isHungUp then s.disconnect out else (.ok (), s)) = left
  obtain ⟨result, s⟩ := left
  cases result with
  | error fault => rfl
  | ok =>
      dsimp only [Session.drained, Terminal.drainResponses, Terminal.drainNotifications]
      generalize Session.sendAll out _ _ = sent
      obtain ⟨result, s'⟩ := sent
      cases result with
      | error fault => rfl
      | ok => rfl

theorem leads_poll (s : Session) (out : Outside) :
    Leads ⟨s, .empty, .free⟩ ⟨(s.perform out .poll).2, .empty, .free⟩ := by
  have hdone : ∀ news done, afterSending news done =
      ⟨(afterSending news done).session, .empty, .free⟩ := by
    rintro news ⟨result, s'⟩
    cases result <;> rfl
  rw [perform_poll_eq]
  cases hhungUp : s.isHungUp with
  | false =>
      have hdrain : Leads ⟨s, .empty, .free⟩ ⟨s, .empty, .draining⟩ := by
        refine leads_request out .poll fun m hm => ?_
        obtain ⟨rfl, hhand, -⟩ := Position.mk.inj hm
        rw [request, hhungUp, position, hhand]
        rfl
      have hpoll := hdrain.trans (leads_draining s out)
      rw [hdone] at hpoll
      exact hpoll
  | true =>
      have hopen : Leads ⟨s, .empty, .free⟩ ⟨s, .empty, .opening .leaveHungUp⟩ := by
        refine leads_opening (r := .poll) s out ?_
        rintro m rfl
        rw [request, if_pos hhungUp]
      have hswitch : Leads ⟨s, .empty, .free⟩ (afterSwitch .leaveHungUp (s.switchLink out none)) :=
        hopen.trans (leads_switchLink s out .leaveHungUp)
      rw [if_pos rfl, Session.disconnect]
      generalize s.switchLink out none = left at hswitch ⊢
      obtain ⟨result, s'⟩ := left
      cases result with
      | error fault => exact hswitch
      | ok =>
          have hpoll := hswitch.trans (leads_draining s' out)
          rw [hdone] at hpoll
          exact hpoll

/-- A request that is not about links is fulfilled in one move. -/
theorem leads_undergo (s : Session) (out : Outside) {r : Request} (hr : r.changesLink = false) :
    Leads ⟨s, .empty, .free⟩ ⟨(s.perform out r).2, .empty, .free⟩ := by
  refine leads_request out r fun m hm => ?_
  obtain ⟨rfl, hhand, htask⟩ := Position.mk.inj hm
  rw [m.request_eq_undergo out hr, position, undergo, hhand, htask]

theorem leads_perform (s : Session) (out : Outside) (r : Request) :
    Leads ⟨s, .empty, .free⟩ ⟨(s.perform out r).2, .empty, .free⟩ := by
  cases r with
  | connect target => exact leads_connect (r := .connect target) s out fun _ _ => rfl
  | reconnect =>
      rw [Session.perform, Session.reconnect]
      split
      · next target htarget =>
          refine leads_connect (r := .reconnect) s out ?_
          rintro m rfl
          rw [request, htarget]
      · exact .refl _
  | disconnect => exact leads_disconnect s out
  | poll => exact leads_poll s out
  | _ => exact leads_undergo s out rfl

/-! ### Runs -/

theorem leads_next (s : Session) (event : Event) :
    Leads ⟨s, .empty, .free⟩ ⟨s.next event, .empty, .free⟩ := by
  cases event with
  | request out r => exact leads_perform s out r
  | arrival a =>
      rw [Session.next]
      cases harrive : s.arrive? a with
      | none => exact .refl _
      | some s' =>
          refine .of_step? (.arrival a) fun m _ hm => ?_
          obtain ⟨rfl, hhand, htask⟩ := Position.mk.inj hm
          refine ⟨m.undergo s' [], by rw [step?, harrive, Option.map_some], ?_⟩
          rw [position, undergo, hhand, htask]
          rfl
  | readerStep =>
      rw [Session.next]
      cases hstep : s.readerStep? with
      | none => exact .refl _
      | some s' => exact leads_readerStep hstep .free
  | blinkTimer =>
      refine .of_step? .blinkTimer fun m _ hm => ?_
      obtain ⟨rfl, hhand, htask⟩ := Position.mk.inj hm
      refine ⟨_, rfl, ?_⟩
      rw [position, undergo, hhand, htask]
      rfl

theorem leads_run (s : Session) (events : List Event) :
    Leads ⟨s, .empty, .free⟩ ⟨s.run events, .empty, .free⟩ := by
  induction events generalizing s with
  | nil => exact .refl _
  | cons event events ih => exact (leads_next s event).trans (ih _)

/-- A session starts as its threads do. -/
theorem start_eq {out : Outside} {terminal : Terminal} {encoder : Encoder} {files : Files}
    {s : Session} (h : Session.start out terminal encoder files = .ok s) :
    s = (start terminal encoder files).session := by
  unfold Session.start Session.switchLink at h
  cases hopen : out.openFault? none with
  | some fault =>
      rw [hopen] at h
      cases h
  | none =>
      cases hreader : out.readerFault? with
      | some fault =>
          rw [hopen, hreader] at h
          cases h
      | none =>
          rw [hopen, hreader] at h
          cases h
          rfl

/-- Every run of a session is one of its threads. -/
theorem exists_run_eq (setup : Terminal.Setup) (encoder : Encoder) (files : Files)
    (events : List Event) :
    ∃ moves, ((start (.fresh setup) encoder files).run moves).session =
      (start (.fresh setup) encoder files).session.run events := by
  obtain ⟨moves, hmoves⟩ :=
    leads_run _ events (start (.fresh setup) encoder files) (paired_start setup encoder files) rfl
  exact ⟨moves, (Position.mk.inj hmoves).1⟩

end Threads

end DasherTerminal
