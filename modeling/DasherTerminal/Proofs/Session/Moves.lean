import DasherTerminal.Proofs.Session.Threads

/-!
# What a move can be

Every move of the threads is of one of a few kinds, and what holds at the start
and is kept by each kind holds after every run.
-/

namespace DasherTerminal

namespace Session

/-! ### What calls and small steps do -/

variable {s s' : Session}

theorem arrive?_eq {a : Arrival} (h : s.arrive? a = some s') :
    ∃ l, s.link = some l ∧ s' = { s with link := some (l.arrive a) } := by
  unfold arrive? at h
  split at h
  · next l hlink =>
      split at h
      · cases h
        exact ⟨l, hlink, rfl⟩
      · cases h
  · cases h

/-- What is written is recorded, and may come back on the link. -/
theorem send_eq {out : Outside} {bytes : List UInt8} {result : Except Fault Unit}
    (h : s.send out bytes = (result, s')) :
    s' = s ∨ ∃ l l', s.link = some l ∧ (l' = l ∨ l' = l.arrive (.bytes bytes)) ∧
      s' = { s.log (.write l.number bytes) with link := some l' } := by
  unfold send at h
  split at h
  · cases h
    exact .inl rfl
  · cases h
    exact .inl rfl
  · next l hlink _ =>
      cases h
      refine .inr ⟨l, ?_⟩
      split
      · refine ⟨l, hlink, .inl rfl, ?_⟩
        rw [← hlink]
        rfl
      · exact ⟨_, hlink, .inr rfl, rfl⟩

theorem record_eq (s : Session) (piece : List UInt8) :
    ∃ files capture, s.record piece = { s with files, capture } := by
  unfold record
  split
  · exact ⟨s.files, s.capture, rfl⟩
  · split
    · exact ⟨_, s.capture, rfl⟩
    · exact ⟨s.files, none, rfl⟩

/-- A step of the reader stays on the link, and feeds the terminal at most one byte. -/
theorem readerStep?_eq (h : s.readerStep? = some s') :
    ∃ l l' terminal files capture, s.link = some l ∧
      s' = { s with link := some l', terminal, files, capture } ∧ l'.number = l.number ∧
      l'.target = l.target ∧ (terminal = s.terminal ∨ ∃ b, terminal = s.terminal.process [b]) := by
  unfold readerStep? at h
  split at h
  · cases h
  · next l hlink =>
      split at h
      · cases h
      · split at h
        · next b held _ =>
            split at h
            · cases h
              exact ⟨l, _, _, _, _, hlink, rfl, rfl, rfl, .inl rfl⟩
            · cases h
              exact ⟨l, _, _, _, _, hlink, rfl, rfl, rfl, .inr ⟨b, rfl⟩⟩
        · next piece rest _ _ =>
            dsimp only at h
            split at h
            · cases h
              exact ⟨l, _, _, _, _, hlink, rfl, rfl, rfl, .inl rfl⟩
            · cases h
              obtain ⟨files, capture, hrecord⟩ := record_eq
                { s with link := some { l with
                    inbound := (splitPiece piece rest).2, held := (splitPiece piece rest).1 } }
                (splitPiece piece rest).1
              exact ⟨l, _, _, files, capture, hlink, hrecord, rfl, rfl, .inl rfl⟩
        · cases h
          exact ⟨l, _, _, _, _, hlink, rfl, rfl, rfl, .inl rfl⟩
        · cases h
          exact ⟨l, _, _, _, _, hlink, rfl, rfl, rfl, .inl rfl⟩
        · cases h

/-! ### Moves -/

/-- One move outside of the reader: operations on the terminal, and something
may come in. -/
structure Undergoes (s s' : Session) (ops : List Terminal.Operation) : Prop where
  terminal : s'.terminal = s.terminal.performAll ops
  opened : s'.opened = s.opened
  link : s'.link = s.link ∨ ∃ l a, s.link = some l ∧ s'.link = some (l.arrive a)
  calls : ∀ c ∈ s.calls, c ∈ s'.calls

variable {ops : List Terminal.Operation}

theorem undergoes_arrive {a : Arrival} (h : s.arrive? a = some s') : s.Undergoes s' [] := by
  obtain ⟨l, hlink, rfl⟩ := arrive?_eq h
  exact ⟨rfl, rfl, .inr ⟨l, a, hlink, rfl⟩, fun _ => id⟩

theorem undergoes_send {out : Outside} {bytes : List UInt8} {result : Except Fault Unit}
    (h : s.send out bytes = (result, s')) : s.Undergoes s' [] := by
  obtain rfl | ⟨l, l', hlink, hl', rfl⟩ := send_eq h
  · exact ⟨rfl, rfl, .inl rfl, fun _ => id⟩
  · refine ⟨rfl, rfl, ?_, fun _ => Array.mem_push_of_mem _⟩
    obtain rfl | rfl := hl'
    · exact .inl hlink.symm
    · exact .inr ⟨l, .bytes bytes, hlink, rfl⟩

theorem undergoes_mapScreen (s : Session) (f : Screen → Screen) (op : Terminal.Operation)
    (h : s.terminal.perform op = s.terminal.mapScreen f) :
    s.Undergoes (s.mapScreen f) [op] :=
  ⟨h.symm, rfl, .inl rfl, fun _ => id⟩

theorem undergoes_selfTest (s : Session) : s.Undergoes s.selfTest [.selfTest] := by
  refine ⟨?_, ?_, .inl ?_, ?_⟩
  · rw [Terminal.performAll_cons, Terminal.performAll_nil, Terminal.perform, selfTest]
  · rw [selfTest]
  · rw [selfTest]
  · rw [selfTest]
    exact fun _ => id

theorem undergoes_resize (s : Session) (out : Outside) (size : ScreenSize) :
    s.Undergoes (s.resize out size) [.resize size] := by
  unfold resize
  dsimp only
  split
  · split
    · exact ⟨rfl, rfl, .inl rfl, fun _ => Array.mem_push_of_mem _⟩
    · exact ⟨rfl, rfl, .inl rfl, fun _ => id⟩
  · exact ⟨rfl, rfl, .inl rfl, fun _ => id⟩

/-- A request that is not about links. -/
theorem undergoes_perform (s : Session) (out : Outside) (r : Request)
    (hr : r.changesLink = false) : s.Undergoes (s.perform out r).2 (s.operations r) := by
  cases r with
  | connect => cases hr
  | reconnect => cases hr
  | disconnect => cases hr
  | poll => cases hr
  | sendBytes bytes => exact undergoes_send rfl
  | sendKey key =>
      rw [perform, sendKey]
      split
      · exact undergoes_send rfl
      · exact ⟨rfl, rfl, .inl rfl, fun _ => id⟩
  | sendFile path =>
      rw [perform, sendFile]
      split
      · exact undergoes_send rfl
      · exact ⟨rfl, rfl, .inl rfl, fun _ => id⟩
  | resize size => exact s.undergoes_resize out size
  | selfTest =>
      rw [perform, operations]
      exact s.undergoes_selfTest
  | cycleModel => exact s.undergoes_mapScreen _ _ rfl
  | toggleBlink => exact s.undergoes_mapScreen _ _ rfl
  | stopCapture => exact ⟨rfl, rfl, .inl rfl, fun _ => id⟩
  | startCapture path =>
      rw [perform, startCapture]
      split
      · exact ⟨rfl, rfl, .inl rfl, fun _ => id⟩
      · exact ⟨rfl, rfl, .inl rfl, fun _ => id⟩
  | loadTemplate path =>
      rw [perform, loadTemplate]
      split
      · exact ⟨rfl, rfl, .inl rfl, fun _ => id⟩
      · exact ⟨rfl, rfl, .inl rfl, fun _ => id⟩

/-- Only the reader feeds the terminal. -/
theorem fed_operations (s : Session) (r : Request) :
    (s.operations r).flatMap Terminal.Operation.fed = [] := by
  cases r <;> rfl

theorem raiseFlag_eq (s : Session) :
    s.raiseFlag = { s with link := s.link.map fun l => { l with stopping := true } } := by
  obtain ⟨_, _, link, _, _, _, _, _, _⟩ := s
  cases link <;> rfl

theorem closeLink_eq (s : Session) :
    ∃ calls, s.closeLink = { s with link := s.link.map (·.arrive .ending), calls } ∧
      ∀ c ∈ s.calls, c ∈ calls := by
  obtain ⟨_, _, link, _, _, _, _, _, calls⟩ := s
  cases link with
  | none => exact ⟨calls, rfl, fun _ => id⟩
  | some l => exact ⟨_, rfl, fun _ => Array.mem_push_of_mem _⟩

end Session

namespace Threads

variable {m m' : Threads}

def ReaderMove.operations (move : ReaderMove) (hand : Hand) : List Terminal.Operation :=
  match move, hand with
  | .process, .byte b => [.process [b]]
  | _, _ => []

theorem effect_eq (m : Threads) (number : Nat) (move : ReaderMove) (hand : Hand) :
    ∃ files capture asked, m.effect number move hand =
      { m with
        session := { m.session with
          terminal := m.session.terminal.performAll (move.operations hand), files, capture }
        past := m.past ++ move.operations hand
        asked } := by
  unfold effect
  split
  · next piece =>
      obtain ⟨files, capture, hrecord⟩ := m.session.record_eq piece
      refine ⟨files, capture, m.asked, ?_⟩
      have hnothing : ReaderMove.copy.operations (.uncopied piece) = [] := rfl
      rw [hrecord, hnothing, List.append_nil]
      rfl
  · exact ⟨m.session.files, m.session.capture, _, rfl⟩
  · next hcopy hprocess =>
      refine ⟨m.session.files, m.session.capture, m.asked, ?_⟩
      have hnothing : move.operations hand = [] := by
        unfold ReaderMove.operations
        split
        · exact absurd rfl (hprocess _ rfl)
        · rfl
      rw [hnothing, List.append_nil]
      rfl

theorem request_eq_undergo (m : Threads) (out : Outside) {r : Request}
    (hr : r.changesLink = false) :
    m.request out r = m.undergo (m.session.perform out r).2 (m.session.operations r) := by
  cases r with
  | connect target => cases hr
  | reconnect => cases hr
  | disconnect => cases hr
  | poll => cases hr
  | _ => rfl

inductive Steps (m : Threads) : Threads → Prop
  | stay : m.Steps m
  | undergo {s : Session} {ops : List Terminal.Operation} (h : m.session.Undergoes s ops)
      (hfed : ops.flatMap Terminal.Operation.fed = []) : m.Steps (m.undergo s ops)
  | merge {l : Link} (hlink : m.session.link = some l) :
      m.Steps (m.setLink { l with inbound := merged l.inbound })
  | reader {l : Link} {r : Reading} {move : ReaderMove} (hlink : m.session.link = some l)
      (hrunning : l.finished = false)
      (hstep : Reading.step? ⟨l, m.hand, m.current⟩ move = some r) :
      m.Steps ({ m.setLink r.link with hand := r.hand, current := r.account }.effect l.number move
        m.hand)
  | begin {e : Errand} (hfree : m.task = .free)
      (hhungUp : e = .leaveHungUp → m.session.isHungUp = true) :
      m.Steps { m with task := .opening e }
  | look (hfree : m.task = .free) : m.Steps { m with task := .draining }
  | fail {e : Errand} {call : Call} (htask : m.task = .opening e) :
      m.Steps { m with session := m.session.log call, task := .free }
  | openNext {e : Errand} {call : Call} (htask : m.task = .opening e) :
      m.Steps { m with session := m.session.log call, task := .raising e }
  | raise {e : Errand} (htask : m.task = .raising e) :
      m.Steps { m with session := m.session.raiseFlag, task := .closing e }
  | close {e : Errand} (htask : m.task = .closing e) :
      m.Steps { m with session := m.session.closeLink, task := .joining e }
  | release {e : Errand} (htask : m.task = .joining e)
      (hended : m.session.link.all Link.finished = true) : m.Steps (m.release e)
  | giveUp {e : Errand} (htask : m.task = .starting e) : m.Steps { m with task := .free }
  | startLink {e : Errand} (htask : m.task = .starting e) : m.Steps (m.startLink e)
  | drain (htask : m.task = .draining) : m.Steps m.drain
  | answer {l : Link} {s : Session} {out : Outside} {question : Question} {bytes : List UInt8}
      {answers : List (Question × List UInt8)} {news : List Notification}
      (htask : m.task = .sending ((question, bytes) :: answers) news)
      (hlink : m.session.link = some l) (hsend : m.session.send out bytes = (.ok (), s)) :
      m.Steps { m.undergo s [] with
        answered := m.answered ++ [⟨question, l.number, bytes⟩]
        task := .sending answers news }
  | lose {answers : List (Question × List UInt8)} {news : List Notification}
      (htask : m.task = .sending answers news) : m.Steps { m with task := .free }
  | notify {news : List Notification} (htask : m.task = .sending [] news) :
      m.Steps { m with
        session := { m.session with notices := m.session.notices ++ news }
        task := .free }

theorem steps_request (m : Threads) (out : Outside) (r : Request) (hfree : m.task = .free) :
    m.Steps (m.request out r) := by
  cases r with
  | connect target => exact .begin hfree (by simp)
  | reconnect =>
      rw [request]
      split
      · exact .begin hfree (by simp)
      · exact .stay
  | disconnect => exact .begin hfree (by simp)
  | poll =>
      rw [request]
      split
      · next hhungUp => exact .begin hfree fun _ => hhungUp
      · exact .look hfree
  | _ =>
      rw [m.request_eq_undergo out rfl]
      exact .undergo (m.session.undergoes_perform out _ rfl) (m.session.fed_operations _)

theorem steps_proceed? {out : Outside} (hstep : m.proceed? out = some m') : m.Steps m' := by
  unfold proceed? at hstep
  split at hstep
  case h_1 => cases hstep
  case h_2 e htask =>
    cases hstep
    split
    · exact .fail htask
    · exact .openNext htask
  case h_3 e htask =>
    cases hstep
    exact .raise htask
  case h_4 e htask =>
    cases hstep
    exact .close htask
  case h_5 e htask =>
    split at hstep
    · next hended =>
        cases hstep
        exact .release htask hended
    · cases hstep
  case h_6 e htask =>
    cases hstep
    split
    · exact .giveUp htask
    · exact .startLink htask
  case h_7 htask =>
    cases hstep
    exact .drain htask
  case h_8 news htask =>
    cases hstep
    exact .notify htask
  case h_9 question bytes answers news htask =>
    cases hstep
    rw [answer]
    split
    · next l s hlink hsend => exact .answer htask hlink hsend
    · exact .lose htask

theorem steps_step? {move : Move} (hstep : m.step? move = some m') : m.Steps m' := by
  cases move with
  | arrival a =>
      obtain ⟨s, hs, rfl⟩ := Option.map_eq_some_iff.mp hstep
      exact .undergo (Session.undergoes_arrive hs) rfl
  | merge =>
      obtain ⟨l, hlink, rfl⟩ := Option.map_eq_some_iff.mp hstep
      exact .merge hlink
  | reader move =>
      rw [step?, readerStep?] at hstep
      split at hstep
      · next l hlink =>
          split at hstep
          · cases hstep
          · next hrunning =>
              obtain ⟨r, hr, rfl⟩ := Option.map_eq_some_iff.mp hstep
              exact .reader hlink (Bool.eq_false_iff.mpr hrunning) hr
      · cases hstep
  | request out r =>
      rw [step?] at hstep
      split at hstep
      · next hfree =>
          cases hstep
          exact m.steps_request out r hfree
      · cases hstep
  | proceed out => exact steps_proceed? hstep
  | blinkTimer =>
      cases hstep
      exact .undergo (m.session.undergoes_mapScreen _ .toggleBlinkPhase rfl) rfl

theorem steps_next (m : Threads) (move : Move) : m.Steps (m.next move) := by
  rw [next]
  cases hstep : m.step? move with
  | none => exact .stay
  | some m' => exact steps_step? hstep

/-- What every kind of move keeps, every run keeps. -/
theorem run_induction {P : Threads → Prop} (hsteps : ∀ {m m'}, P m → m.Steps m' → P m')
    (h : P m) (moves : List Move) : P (m.run moves) := by
  induction moves generalizing m with
  | nil => exact h
  | cons move moves ih => exact ih (hsteps h (m.steps_next move))

end Threads

end DasherTerminal
