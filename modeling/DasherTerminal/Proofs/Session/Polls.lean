import DasherTerminal.Proofs.Session.Looks
import DasherTerminal.Proofs.Terminal.Mail

/-!
# What polls deliver

Poll takes all mail out of the terminal, hands the answers to the link one after
another, and gives the notifications at the end. An answer that cannot be written
ends the poll: the answers behind it are handed to no link and the notifications
are given to nobody, then or later.
-/

namespace DasherTerminal

namespace Session

variable {s s' : Session}

theorem notices_arrive? {a : Arrival} (h : s.arrive? a = some s') : s'.notices = s.notices := by
  obtain ⟨l, _, rfl⟩ := arrive?_eq h
  rfl

theorem notices_send (s : Session) (out : Outside) (bytes : List UInt8) :
    (s.send out bytes).2.notices = s.notices := by
  obtain hsame | ⟨l, l', _, _, hsent⟩ := send_eq (Prod.eta (s.send out bytes)).symm
  · rw [hsame]
  · rw [hsent]
    rfl

/-- Only poll collects notifications. -/
theorem notices_perform (s : Session) (out : Outside) (r : Request)
    (hr : r.changesLink = false) : (s.perform out r).2.notices = s.notices := by
  cases r with
  | connect => cases hr
  | reconnect => cases hr
  | disconnect => cases hr
  | poll => cases hr
  | sendBytes bytes => exact s.notices_send out bytes
  | sendKey key =>
      rw [perform, sendKey]
      split
      · exact s.notices_send out _
      · rfl
  | sendFile path =>
      rw [perform, sendFile]
      split
      · exact s.notices_send out _
      · rfl
  | resize size =>
      rw [perform, resize]
      dsimp only
      split
      · split <;> rfl
      · rfl
  | selfTest => rw [perform, selfTest]
  | cycleModel => rfl
  | toggleBlink => rfl
  | stopCapture => rfl
  | startCapture path =>
      rw [perform, startCapture]
      split <;> rfl
  | loadTemplate path =>
      rw [perform, loadTemplate]
      split <;> rfl

end Session

namespace Threads

/-- The mail that a poll has in hand. -/
def Task.mail : Task → Mail
  | .sending answers news => ⟨answers.map Prod.snd, news⟩
  | _ => .none

/-- All mail that somebody may still collect, oldest first. -/
def mail (m : Threads) : Mail := m.task.mail ++ m.session.terminal.mail

/-! ### What becomes of mail in a move -/

def provoked (m : Threads) : Move → Mail
  | .reader .process =>
    match m.hand with
    | .byte b => m.session.terminal.provoked [b]
    | _ => .none
  | _ => .none

/-- The answer that is handed to the link, and whether the link takes it. -/
def handed? (m : Threads) : Move → Option (List UInt8 × Bool)
  | .proceed out =>
    match m.task, m.session.link with
    | .sending ((_, bytes) :: _) _, some _ => some (bytes, out.writeFault?.isNone)
    | _, _ => none
  | _ => none

/-- The notifications that a poll gives. -/
def told (m : Threads) : Move → List Notification
  | .proceed _ =>
    match m.task with
    | .sending [] news => news
    | _ => []
  | _ => []

def lost (m : Threads) : Move → Mail
  | .proceed out =>
    match m.task, m.session.link, out.writeFault? with
    | .sending ((_, bytes) :: answers) news, none, _ => ⟨bytes :: answers.map Prod.snd, news⟩
    | .sending (_ :: answers) news, some _, some _ => ⟨answers.map Prod.snd, news⟩
    | _, _, _ => .none
  | .request _ .selfTest => m.session.terminal.mail
  | _ => .none

/-- What becomes of mail in a move that happens. -/
def handling (m : Threads) (move : Move) : Turnover where
  provoked := m.provoked move
  collected := ⟨(m.handed? move).toList.map Prod.fst, m.told move⟩
  lost := m.lost move

/-- Nothing becomes of it in one that does not. -/
def turnover (m : Threads) (move : Move) : Turnover :=
  if (m.step? move).isSome then m.handling move else .idle

/-- The answers that links took. -/
def written (handed : List (List UInt8 × Bool)) : List (List UInt8) :=
  (handed.filter Prod.snd).map Prod.fst

variable {m m' : Threads}

/-- What is said of a move is what it does. -/
structure Books (m : Threads) (move : Move) (m' : Threads) : Prop where
  mail : m.mail ++ m.provoked move = (m.handling move).gone ++ m'.mail
  notices : m'.session.notices = m.session.notices ++ m.told move
  answered : m'.answered.map Delivery.bytes =
    m.answered.map Delivery.bytes ++ written (m.handed? move).toList

/-- The move has nothing to do with mail. -/
theorem books_idle {move : Move} (hidle : m.handling move = .idle) (hmail : m'.mail = m.mail)
    (hnotices : m'.session.notices = m.session.notices) (hanswered : m'.answered = m.answered) :
    m.Books move m' := by
  have hprovoked : m.provoked move = .none := congrArg Turnover.provoked hidle
  have htold : m.told move = [] := congrArg (fun x => x.collected.news) hidle
  have hhanded : m.handed? move = none := by
    have hanswers := congrArg (fun x => x.collected.answers) hidle
    simpa [handling, Turnover.idle, Mail.none] using hanswers
  refine ⟨?_, ?_, ?_⟩
  · rw [hidle, hprovoked, hmail]
    exact Mail.append_none _
  · rw [htold, hnotices, List.append_nil]
  · rw [hhanded, hanswered]
    exact (List.append_nil _).symm

theorem books_answer {out : Outside} {question : Question} {bytes : List UInt8}
    {answers : List (Question × List UInt8)} {news : List Notification}
    (htask : m.task = .sending ((question, bytes) :: answers) news) :
    m.Books (.proceed out) (m.answer out question bytes answers news) := by
  have hfailed : ∀ fault, (m.session.send out bytes).1 = .error fault →
      m.answer out question bytes answers news = { m with task := .free } := by
    intro fault hfault
    unfold answer
    split
    · next hsend =>
        rw [hsend] at hfault
        cases hfault
    · rfl
  cases hlink : m.session.link with
  | none =>
      rw [hfailed .notConnected (by rw [Session.send, hlink])]
      refine ⟨?_, ?_, ?_⟩
      · simp [mail, Task.mail, htask, handling, Turnover.gone, provoked, handed?, told, lost, hlink]
      · simp [told, htask]
      · simp [handed?, htask, hlink, written]
  | some l =>
      cases hfault : out.writeFault? with
      | some fault =>
          rw [hfailed fault (by rw [Session.send, hlink, hfault])]
          refine ⟨?_, ?_, ?_⟩
          · simp [mail, Task.mail, htask, handling, Turnover.gone, provoked, handed?, told, lost,
              hlink, hfault]
          · simp [told, htask]
          · simp [handed?, htask, hlink, hfault, written]
      | none =>
          obtain ⟨s, hsend⟩ : ∃ s, m.session.send out bytes = (.ok (), s) := by
            rw [Session.send, hlink, hfault]
            exact ⟨_, rfl⟩
          have hterminal : s.terminal = m.session.terminal :=
            (Session.undergoes_send hsend).terminal
          have hnotices : s.notices = m.session.notices := by
            have hsame := m.session.notices_send out bytes
            rw [hsend] at hsame
            exact hsame
          rw [answer, hlink, hsend]
          refine ⟨?_, ?_, ?_⟩
          · simp [mail, Task.mail, htask, handling, Turnover.gone, provoked, handed?, told, lost,
              hlink, hfault, undergo, hterminal, ← Mail.append_assoc]
          · simp [told, htask, undergo, hnotices]
          · simp [handed?, htask, hlink, hfault, written]

/-- Poll has nothing in hand yet, or nobody polls. -/
theorem handling_proceed_eq_idle (hnot : ∀ answers news, m.task ≠ .sending answers news)
    (out : Outside) : m.handling (.proceed out) = .idle := by
  cases htask : m.task with
  | sending answers news => exact absurd htask (hnot answers news)
  | _ => simp [handling, Turnover.idle, provoked, handed?, told, lost, htask, Mail.none]

theorem mail_drain (hpaired : m.Paired) (htask : m.task = .draining) : m.drain.mail = m.mail := by
  -- Every answer has its question, so none is left out.
  have hanswers : (m.asked.zip m.session.terminal.decoder.responses).map Prod.snd =
      m.session.terminal.decoder.responses := List.map_snd_zip (Nat.le_of_eq hpaired.symm)
  rw [mail, mail, htask]
  simp [drain, Task.mail, hanswers, Terminal.mail, Terminal.drainResponses,
    Terminal.drainNotifications, Terminal.perform]

theorem books_proceed? (hpaired : m.Paired) {out : Outside} (h : m.proceed? out = some m') :
    m.Books (.proceed out) m' := by
  have hidle : (∀ answers news, m.task ≠ .sending answers news) →
      m.handling (.proceed out) = .idle := fun hnot => handling_proceed_eq_idle hnot out
  unfold proceed? at h
  split at h
  case h_1 => cases h
  case h_2 e htask =>
    cases h
    refine books_idle (hidle (by simp [htask])) ?_ rfl rfl
    rw [mail, mail, htask]
    dsimp only
    split <;> rfl
  case h_3 e htask =>
    cases h
    rw [m.session.raiseFlag_eq]
    exact books_idle (hidle (by simp [htask])) (by rw [mail, mail, htask]; rfl) rfl rfl
  case h_4 e htask =>
    obtain ⟨calls, hclose, -⟩ := m.session.closeLink_eq
    cases h
    rw [hclose]
    exact books_idle (hidle (by simp [htask])) (by rw [mail, mail, htask]; rfl) rfl rfl
  case h_5 e htask =>
    split at h
    · cases h
      exact books_idle (hidle (by simp [htask])) (by rw [mail, mail, htask]; rfl) rfl rfl
    · cases h
  case h_6 e htask =>
    cases h
    split
    · exact books_idle (hidle (by simp [htask])) (by rw [mail, mail, htask]; rfl) rfl rfl
    · refine books_idle (hidle (by simp [htask])) ?_ rfl rfl
      rw [mail, mail, htask, startLink]
      dsimp only
      split <;> rfl
  case h_7 htask =>
    cases h
    exact books_idle (hidle (by simp [htask])) (mail_drain hpaired htask) rfl rfl
  case h_8 news htask =>
    cases h
    refine ⟨?_, ?_, ?_⟩
    · simp [mail, Task.mail, htask, handling, Turnover.gone, provoked, handed?, told, lost]
    · simp [told, htask]
    · simp [handed?, htask, written]
  case h_9 question bytes answers news htask =>
    cases h
    exact books_answer htask

theorem books_request (hfree : m.task = .free) (out : Outside) (r : Request) :
    m.Books (.request out r) (m.request out r) := by
  have hterminal : r.changesLink = false →
      (m.session.perform out r).2.terminal =
        m.session.terminal.performAll (m.session.operations r) := fun hr =>
    (m.session.undergoes_perform out r hr).terminal
  cases r with
  | connect target => exact books_idle rfl (by rw [mail, mail, hfree]; rfl) rfl rfl
  | reconnect =>
      rw [request]
      split
      · exact books_idle rfl (by rw [mail, mail, hfree]; rfl) rfl rfl
      · exact books_idle rfl rfl rfl rfl
  | disconnect => exact books_idle rfl (by rw [mail, mail, hfree]; rfl) rfl rfl
  | poll =>
      refine books_idle rfl ?_ rfl rfl
      rw [mail, mail, hfree, request]
      dsimp only
      split <;> rfl
  | selfTest =>
      rw [m.request_eq_undergo out rfl]
      have hnone : (m.session.perform out .selfTest).2.terminal.mail = .none := by
        rw [hterminal rfl]
        exact m.session.terminal.mail_selfTest
      have hnotices := m.session.notices_perform out .selfTest rfl
      refine ⟨?_, ?_, ?_⟩
      · simp [mail, Task.mail, hfree, handling, Turnover.gone, provoked, handed?, told, lost,
          undergo, hnone]
      · simp [told, undergo, hnotices]
      · simp [handed?, written, undergo]
  | _ =>
      rw [m.request_eq_undergo out rfl]
      refine books_idle rfl ?_ (m.session.notices_perform out _ rfl) rfl
      rw [mail, mail, undergo, hterminal rfl]
      rfl

theorem books_reader (m : Threads) (r : Reading) (number : Nat) (move : ReaderMove) :
    m.Books (.reader move)
      ({ m.setLink r.link with hand := r.hand, current := r.account }.effect number move m.hand) := by
  have hfed : (m.session.terminal.performAll (move.operations m.hand)).mail =
      m.session.terminal.mail ++ m.provoked (.reader move) := by
    cases move with
    | process =>
        cases hhand : m.hand with
        | byte b => simp [provoked, hhand, ReaderMove.operations, Terminal.perform,
            Terminal.mail_process]
        | _ => simp [provoked, hhand, ReaderMove.operations]
    | _ => simp [provoked, ReaderMove.operations]
  obtain ⟨files, capture, asked, heffect⟩ :=
    effect_eq { m.setLink r.link with hand := r.hand, current := r.account } number move m.hand
  rw [heffect]
  refine ⟨?_, (List.append_nil _).symm, (List.append_nil _).symm⟩
  rw [mail, mail, Mail.append_assoc]
  exact congrArg (m.task.mail ++ ·) hfed.symm

theorem books_step? (hpaired : m.Paired) {move : Move} (h : m.step? move = some m') :
    m.Books move m' := by
  cases move with
  | arrival a =>
      obtain ⟨s, hs, rfl⟩ := Option.map_eq_some_iff.mp h
      refine books_idle rfl ?_ (Session.notices_arrive? hs) rfl
      rw [mail, mail, undergo, (Session.undergoes_arrive hs).terminal]
      rfl
  | merge =>
      obtain ⟨l, hlink, rfl⟩ := Option.map_eq_some_iff.mp h
      exact books_idle rfl rfl rfl rfl
  | reader move =>
      rw [step?, readerStep?] at h
      split at h
      · next l hlink =>
          split at h
          · cases h
          · obtain ⟨r, hr, rfl⟩ := Option.map_eq_some_iff.mp h
            exact m.books_reader r l.number move
      · cases h
  | request out r =>
      rw [step?] at h
      split at h
      · next hfree =>
          cases h
          exact books_request hfree out r
      · cases h
  | proceed out => exact books_proceed? hpaired h
  | blinkTimer =>
      cases h
      exact books_idle rfl rfl rfl rfl

/-! ### Runs -/

def turnovers (m : Threads) (moves : List Move) : List Turnover :=
  Turnover.along next turnover m moves

theorem mail_next (hpaired : m.Paired) (move : Move) :
    m.mail ++ (m.turnover move).provoked = (m.turnover move).gone ++ (m.next move).mail := by
  rw [turnover, next]
  cases hstep : m.step? move with
  | none => exact Mail.append_none _
  | some m' => exact (books_step? hpaired hstep).mail

theorem mail_run (hpaired : m.Paired) (moves : List Move) :
    m.mail ++ .concat ((m.turnovers moves).map Turnover.provoked) =
      .concat ((m.turnovers moves).map Turnover.gone) ++ (m.run moves).mail :=
  Turnover.balance_along mail (P := Paired) (fun m move h => h.steps (m.steps_next move))
    (fun _ move h => mail_next h move) hpaired moves

theorem written_append (a b : List (List UInt8 × Bool)) :
    written (a ++ b) = written a ++ written b := by
  simp [written]

/-- Links are written the answers that they take, and the user is given the
notifications of the polls that come to their end. -/
theorem collected_run (hpaired : m.Paired) (moves : List Move) :
    (Mail.concat ((m.turnovers moves).map Turnover.collected)).answers =
        (m.seen handed? moves).map Prod.fst ∧
      (m.run moves).answered.map Delivery.bytes =
        m.answered.map Delivery.bytes ++ written (m.seen handed? moves) ∧
      (m.run moves).session.notices = m.session.notices ++
        (Mail.concat ((m.turnovers moves).map Turnover.collected)).news := by
  induction moves generalizing m with
  | nil => exact ⟨rfl, (List.append_nil _).symm, (List.append_nil _).symm⟩
  | cons move moves ih =>
      rw [run_cons, turnovers, Turnover.along, List.map_cons, Mail.concat_cons, turnover, next,
        seen]
      cases hstep : m.step? move with
      | none => exact ih hpaired
      | some m' =>
          have hbooks := books_step? hpaired hstep
          obtain ⟨hanswers, hanswered, hnotices⟩ := ih (hpaired.steps (steps_step? hstep))
          refine ⟨?_, ?_, ?_⟩
          · dsimp only
            rw [List.map_append, ← hanswers]
            rfl
          · dsimp only
            rw [Option.getD_some, hanswered, hbooks.answered, written_append, List.append_assoc]
          · rw [Option.getD_some, hnotices, hbooks.notices, List.append_assoc]
            rfl

/-- A failing answer takes with it what the poll has in hand behind it. -/
theorem lost_proceed_eq_none_iff (m : Threads) (out : Outside) :
    m.lost (.proceed out) = .none ↔
      ∀ question bytes answers news fault,
        m.task = .sending ((question, bytes) :: answers) news →
        (m.session.send out bytes).1 = .error fault →
        m.session.link ≠ none ∧ answers = [] ∧ news = [] := by
  cases htask : m.task with
  | sending answers news =>
      cases answers with
      | nil => simp [lost, htask]
      | cons a answers =>
          obtain ⟨question, bytes⟩ := a
          cases hlink : m.session.link with
          | none => simp [lost, htask, hlink, Mail.none, Session.send]
          | some l =>
              cases hfault : out.writeFault? with
              | none => simp [lost, htask, hlink, hfault, Session.send]
              | some fault =>
                  simp only [lost, htask, hlink, hfault, Mail.none, Mail.mk.injEq,
                    List.map_eq_nil_iff]
                  constructor
                  · rintro ⟨rfl, rfl⟩ _ _ _ _ _ hsame -
                    cases hsame
                    exact ⟨by simp, rfl, rfl⟩
                  · intro h
                    refine (h question bytes answers news fault rfl ?_).2
                    rw [Session.send, hlink, hfault]
  | _ => simp [lost, htask]

theorem lost_turnover_eq_none_iff (m : Threads) (move : Move) :
    (m.turnover move).lost = .none ↔ (m.step? move ≠ none → m.lost move = .none) := by
  rw [turnover]
  cases m.step? move with
  | none => simp [Turnover.idle]
  | some m' => simp [handling]

/-- Mail is delivered unless a poll or a self-test spoils it. -/
theorem spared_iff (m : Threads) (moves : List Move) :
    (∀ x ∈ m.turnovers moves, x.lost = .none) ↔
      (∀ before out after, moves = before ++ .proceed out :: after →
        ∀ question bytes answers news fault,
          (m.run before).task = .sending ((question, bytes) :: answers) news →
          ((m.run before).session.send out bytes).1 = .error fault →
          (m.run before).session.link ≠ none ∧ answers = [] ∧ news = []) ∧
      ∀ before out after, moves = before ++ .request out .selfTest :: after →
        (m.run before).task = .free → (m.run before).session.terminal.mail = .none := by
  have hmoves : (∀ x ∈ m.turnovers moves, x.lost = .none) ↔
      ∀ before move after, moves = before ++ move :: after →
        (m.run before).step? move ≠ none → (m.run before).lost move = .none := by
    rw [turnovers, Turnover.forall_along_iff fun x => x.lost = .none]
    simp only [lost_turnover_eq_none_iff]
    rfl
  rw [hmoves]
  constructor
  · intro h
    refine ⟨?_, ?_⟩
    · intro before out after hsplit question bytes answers news fault htask
      refine (lost_proceed_eq_none_iff _ out).mp (h before _ after hsplit ?_) _ _ _ _ _ htask
      simp [step?, proceed?, htask]
    · intro before out after hsplit hfree
      exact h before _ after hsplit (by simp [step?, hfree])
  · rintro ⟨hpolls, htests⟩ before move after hsplit hstep
    cases move with
    | proceed out => exact (lost_proceed_eq_none_iff _ out).mpr (hpolls before out after hsplit)
    | request out r =>
        cases r with
        | selfTest =>
            refine htests before out after hsplit ?_
            by_contra hbusy
            exact hstep (by simp [step?, hbusy])
        | _ => rfl
    | _ => rfl

/-- Whatever the moves, their order and the writes that fail, what host bytes
provoke is handed to links, given by polls or lost, in the order in which it came,
or waits. Links took the answers that did not fail, and the user was given the
notifications of the polls that came to their end. Nothing is lost exactly if
every answer that failed was handed to a link as the last thing that its poll had
in hand, and every self-test found nothing waiting. -/
theorem delivered_iff_failures_last (setup : Terminal.Setup) (encoder : Encoder) (files : Files)
    (moves : List Move) :
    let m₀ := start (.fresh setup) encoder files
    let m := m₀.run moves
    let turns := m₀.turnovers moves
    let whole := Mail.concat (turns.map Turnover.provoked)
    let delivered := Mail.concat (turns.map Turnover.collected)
    let handed := m₀.seen handed? moves
    whole = .concat (turns.map Turnover.gone) ++ m.mail ∧
      delivered.answers = handed.map Prod.fst ∧
      m.answered.map Delivery.bytes = (handed.filter Prod.snd).map Prod.fst ∧
      m.session.notices = delivered.news ∧
      (whole = delivered ++ m.mail ↔
        (∀ before out after, moves = before ++ .proceed out :: after →
          ∀ question bytes answers news fault,
            (m₀.run before).task = .sending ((question, bytes) :: answers) news →
            ((m₀.run before).session.send out bytes).1 = .error fault →
            (m₀.run before).session.link ≠ none ∧ answers = [] ∧ news = []) ∧
        ∀ before out after, moves = before ++ .request out .selfTest :: after →
          (m₀.run before).task = .free → (m₀.run before).session.terminal.mail = .none) := by
  intro m₀ m turns whole delivered handed
  have hpaired : m₀.Paired := paired_start setup encoder files
  have hwhole : whole = .concat (turns.map Turnover.gone) ++ m.mail := mail_run hpaired moves
  obtain ⟨hanswers, hanswered, hnotices⟩ := collected_run hpaired moves
  refine ⟨hwhole, hanswers, hanswered, hnotices, ?_⟩
  rw [← spared_iff, hwhole, Mail.append_left_inj]
  exact Turnover.concat_gone_eq_iff

/-- A poll in which nothing can be written, and one more. The host has asked a
question and rung the bell. -/
def pollTwice : List Move :=
  let broken : Outside := { Outside.fair with writeFault? := some .notConnected }
  [.request .fair (.connect (.telnet "mv" 23)), .proceed .fair, .proceed .fair, .proceed .fair,
    .reader .finish, .proceed .fair, .proceed .fair,
    .arrival (.bytes [0o07, 0o36, 'C'.toUInt8]), .reader (.read 3), .reader .look, .reader .copy,
    .reader .look, .reader .process, .reader .look, .reader .process, .reader .look,
    .reader .process, .request broken .poll, .proceed broken, .proceed broken,
    .request .fair .poll, .proceed .fair, .proceed .fair]

/-- The bell is lost with the answer that could not be written. -/
theorem bell_lost_in_poll :
    let m := (start (.fresh { Terminal.Setup.default with model := .d211 }) default .empty).run
      pollTwice
    m.past.flatMap Terminal.Operation.fed = [0o07, 0o36, 'C'.toUInt8] ∧ m.session.notices = [] ∧
      m.answered = [] ∧ m.mail = .none ∧ m.task = .free := by
  decide +kernel

end Threads

end DasherTerminal
