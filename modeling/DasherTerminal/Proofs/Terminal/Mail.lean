import DasherTerminal.Proofs.Protocol.Pattern
import DasherTerminal.Proofs.Terminal.Operation

/-!
# What waits to be collected

What a host's bytes provoke, answers and notifications, waits in the terminal in
order until somebody collects it. The self-test takes the same way: its pattern
provokes at most one answer of its own and no notification, but it ends by
emptying the queues, and what waited before it is lost with its own answer.
-/

namespace DasherTerminal

/-- Answers for the host, and notifications for the user, oldest first. -/
structure Mail where
  answers : List (List UInt8)
  news : List Notification
  deriving DecidableEq, Repr

namespace Mail

def none : Mail := ⟨[], []⟩

instance : Append Mail := ⟨fun a b => ⟨a.answers ++ b.answers, a.news ++ b.news⟩⟩

@[simp] theorem append_mk (a b : List (List UInt8)) (c d : List Notification) :
    (⟨a, c⟩ : Mail) ++ ⟨b, d⟩ = ⟨a ++ b, c ++ d⟩ := rfl

@[simp] theorem none_append (a : Mail) : none ++ a = a := rfl

@[simp] theorem nil_append (a : Mail) : (⟨[], []⟩ : Mail) ++ a = a := rfl

@[simp] theorem append_none (a : Mail) : a ++ none = a := by
  obtain ⟨_, _⟩ := a
  simp [none]

theorem append_assoc (a b c : Mail) : a ++ b ++ c = a ++ (b ++ c) := by
  obtain ⟨_, _⟩ := a
  obtain ⟨_, _⟩ := b
  obtain ⟨_, _⟩ := c
  simp

theorem append_left_inj {a b : Mail} (c : Mail) : a ++ c = b ++ c ↔ a = b := by
  obtain ⟨_, _⟩ := a
  obtain ⟨_, _⟩ := b
  obtain ⟨_, _⟩ := c
  simp

theorem append_right_inj {a b : Mail} (c : Mail) : c ++ a = c ++ b ↔ a = b := by
  obtain ⟨_, _⟩ := a
  obtain ⟨_, _⟩ := b
  obtain ⟨_, _⟩ := c
  simp

def size (a : Mail) : Nat := a.answers.length + a.news.length

theorem size_append (a b : Mail) : (a ++ b).size = a.size + b.size := by
  obtain ⟨_, _⟩ := a
  obtain ⟨_, _⟩ := b
  simp only [append_mk, size, List.length_append]
  omega

theorem size_eq_zero_iff {a : Mail} : a.size = 0 ↔ a = none := by
  obtain ⟨_, _⟩ := a
  simp [size, none]

def concat (mails : List Mail) : Mail := mails.foldr (· ++ ·) none

@[simp] theorem concat_nil : concat [] = none := rfl

@[simp] theorem concat_cons (a : Mail) (mails : List Mail) :
    concat (a :: mails) = a ++ concat mails := rfl

end Mail

/-- What becomes of mail in a step. -/
structure Turnover where
  provoked : Mail
  collected : Mail
  /-- What nobody will ever collect. -/
  lost : Mail
  deriving DecidableEq, Repr

namespace Turnover

/-- A step that has nothing to do with mail. -/
def idle : Turnover := ⟨.none, .none, .none⟩

/-- All that is gone after the step. -/
def gone (x : Turnover) : Mail := x.collected ++ x.lost

theorem size_concat_le (xs : List Turnover) :
    (Mail.concat (xs.map collected)).size ≤ (Mail.concat (xs.map gone)).size := by
  induction xs with
  | nil => exact Nat.le_refl _
  | cons x xs ih =>
      simp only [List.map_cons, Mail.concat_cons, Mail.size_append, gone]
      omega

/-- Everything that is gone was collected exactly if nothing was lost. -/
theorem concat_gone_eq_iff {xs : List Turnover} :
    Mail.concat (xs.map gone) = Mail.concat (xs.map collected) ↔ ∀ x ∈ xs, x.lost = .none := by
  induction xs with
  | nil => simp
  | cons x xs ih =>
      simp only [List.map_cons, Mail.concat_cons, gone, List.forall_mem_cons,
        Mail.append_assoc, Mail.append_right_inj]
      constructor
      · intro h
        have hmore := size_concat_le xs
        have hsize := congrArg Mail.size h
        rw [Mail.size_append] at hsize
        have hnone : x.lost = .none := Mail.size_eq_zero_iff.mp (by omega)
        rw [hnone, Mail.none_append] at h
        exact ⟨hnone, ih.mp h⟩
      · rintro ⟨hnone, hrest⟩
        rw [hnone, Mail.none_append]
        exact ih.mpr hrest

section Along

variable {σ α : Type} (next : σ → α → σ) (turnover : σ → α → Turnover)

/-- The turnovers of steps one after another. -/
def along (s : σ) : List α → List Turnover
  | [] => []
  | a :: steps => turnover s a :: along (next s a) steps

variable {next turnover} {s : σ}

/-- If every step keeps the order of mail, so do many. -/
theorem balance_along (mail : σ → Mail) {P : σ → Prop} (hnext : ∀ s a, P s → P (next s a))
    (hstep : ∀ s a, P s →
      mail s ++ (turnover s a).provoked = (turnover s a).gone ++ mail (next s a))
    (hs : P s) (steps : List α) :
    mail s ++ .concat ((along next turnover s steps).map provoked) =
      .concat ((along next turnover s steps).map gone) ++ mail (steps.foldl next s) := by
  induction steps generalizing s with
  | nil => exact Mail.append_none _
  | cons a steps ih =>
      rw [along, List.map_cons, List.map_cons, Mail.concat_cons, Mail.concat_cons,
        List.foldl_cons, ← Mail.append_assoc, hstep s a hs, Mail.append_assoc,
        ih (hnext s a hs), Mail.append_assoc]

theorem forall_along_iff (P : Turnover → Prop) (steps : List α) :
    (∀ x ∈ along next turnover s steps, P x) ↔
      ∀ before a after, steps = before ++ a :: after → P (turnover (before.foldl next s) a) := by
  induction steps generalizing s with
  | nil => simp [along]
  | cons a steps ih =>
      rw [along, List.forall_mem_cons, ih]
      constructor
      · rintro ⟨hfirst, hrest⟩ before b after hsplit
        cases before with
        | nil =>
            obtain ⟨rfl, -⟩ := List.cons.inj hsplit
            exact hfirst
        | cons c before =>
            obtain ⟨rfl, htail⟩ := List.cons.inj hsplit
            exact hrest before b after htail
      · intro h
        refine ⟨h [] a steps rfl, ?_⟩
        rintro before b after rfl
        exact h (a :: before) b after rfl

end Along

end Turnover

namespace Decoder

/-- The decoder with more mail before its own. -/
def behind (d : Decoder) (mail : Mail) : Decoder :=
  { d with
    notifications := mail.news ++ d.notifications
    responses := mail.answers ++ d.responses }

/-- What waits already makes no difference. -/
theorem step_behind (d : Decoder) (mail : Mail) (s : Screen) (byte : UInt8) :
    (d.behind mail).step s byte = ((d.step s byte).1.behind mail, (d.step s byte).2) := by
  unfold step
  have hwait : (d.behind mail).wait = d.wait := rfl
  rw [hwait]
  cases d.wait with
  | idle =>
      simp only [dispatch]
      cases opcode? s.model byte with
      | some op => rfl
      | none =>
          dsimp only
          split
          · simp [behind]
          · rfl
  | arguments op given =>
      dsimp only
      split
      · rfl
      · simp [behind]

theorem run_behind (d : Decoder) (mail : Mail) (s : Screen) (bytes : List UInt8) :
    (d.behind mail).run s bytes = ((d.run s bytes).1.behind mail, (d.run s bytes).2) := by
  induction bytes generalizing d s with
  | nil => rfl
  | cons byte bytes ih => rw [run_cons, step_behind, ih, run_cons]

end Decoder

namespace SelfTest

theorem count_text (text : List UInt8) (t : Token) (ht : ∀ byte ∈ text, t ≠ .code byte) :
    (text.map Token.code).count t = 0 := by
  rw [List.count_eq_zero, List.mem_map]
  rintro ⟨byte, hbyte, rfl⟩
  exact ht byte hbyte rfl

/-- The pattern has no bell, and one question for a model that answers it. -/
theorem count_tokens (size : ScreenSize) (model : Model) :
    (tokens size model).count (.code 0o07) = 0 ∧
      (tokens size model).count (.command 'C'.toUInt8) =
        if model.answersModelQuery then 1 else 0 := by
  have htext : ∀ {n text}, Fits n text → (text.map Token.code).count (.code 0o07) = 0 ∧
      (text.map Token.code).count (.command 'C'.toUInt8) = 0 := by
    intro n text hfits
    refine ⟨count_text text _ ?_, count_text text _ fun byte hbyte => nofun⟩
    rintro byte hbyte ⟨rfl⟩
    exact absurd (hfits.isPrintable _ hbyte) (by decide)
  have hdrawn : (drawingTokens model).count (.code 0o07) = 0 ∧
      (drawingTokens model).count (.command 'C'.toUInt8) = 0 := by
    cases model <;> decide +kernel
  have hclosed : (closingTokens model).count (.code 0o07) = 0 ∧
      (closingTokens model).count (.command 'C'.toUInt8) =
        if model.answersModelQuery then 1 else 0 := by
    cases model <;> decide +kernel
  have htitle := htext (fits_title size model)
  have hhash := htext fits_hash
  have hbar := htext (fits_bar size)
  have hmark := htext fits_completeMark
  constructor
  · simp [tokens, pageTokens, openingTokens, picture, List.map_append, htitle.1, hhash.1, hbar.1,
      hmark.1, hdrawn.1, hclosed.1]
  · simp [tokens, pageTokens, openingTokens, picture, List.map_append, htitle.2, hhash.2, hbar.2,
      hmark.2, hdrawn.2, hclosed.2]

end SelfTest

namespace Terminal

/-- What waits in the terminal: what both drains would give. -/
def mail (t : Terminal) : Mail := ⟨t.drainResponses.1, t.drainNotifications.1⟩

def emptied (t : Terminal) : Terminal := t.drainResponses.2.drainNotifications.2

/-- What bytes of a host provoke. -/
def provoked (t : Terminal) (bytes : List UInt8) : Mail := (t.emptied.process bytes).mail

theorem decoder_process (t : Terminal) (bytes : List UInt8) :
    (t.process bytes).decoder = (t.emptied.process bytes).decoder.behind t.mail := by
  have hdecoder : t.decoder = t.emptied.decoder.behind t.mail := by
    simp [emptied, drainResponses, drainNotifications, mail, Decoder.behind]
  have hscreen : t.emptied.screen = t.screen := rfl
  have hrun := t.emptied.decoder.run_behind t.mail t.screen bytes
  rw [← hdecoder] at hrun
  rw [process, hrun, process, hscreen]

theorem mail_process (t : Terminal) (bytes : List UInt8) :
    (t.process bytes).mail = t.mail ++ t.provoked bytes := by
  rw [mail, drainResponses, drainNotifications, decoder_process]
  rfl

/-- The terminal when the pattern of the self-test was processed and the queues
have not been emptied. -/
def shown (t : Terminal) : Terminal :=
  ({ t with decoder := t.decoder.reset } : Terminal).process
    (SelfTest.stream t.screen.size t.screen.model)

/-- The answer that the pattern provokes. -/
def ownMail (model : Model) : Mail :=
  ⟨if model.answersModelQuery then [Decoder.modelAnswer model] else [], []⟩

theorem mail_shown (t : Terminal) : t.shown.mail = t.mail ++ ownMail t.screen.model := by
  have hidle : t.decoder.reset.wait = .idle := rfl
  have htokens : ∀ u ∈ SelfTest.tokens t.screen.size t.screen.model, u.IsToken t.screen.model :=
    fun u => SelfTest.isToken_of_mem_tokens
  have hrun := Decoder.run_tokens (s := t.screen) hidle htokens
  obtain ⟨hbells, hqueries⟩ := SelfTest.count_tokens t.screen.size t.screen.model
  rw [SelfTest.flatMap_tokens, Decoder.notifications_eq_replicate, Decoder.responses_eq_replicate,
    hbells, hqueries] at hrun
  rw [shown, process, hrun]
  cases hasked : t.screen.model.answersModelQuery <;>
    simp [mail, drainResponses, drainNotifications, Decoder.reset, ownMail, hasked]

theorem selfTest_eq_shown (t : Terminal) : t.selfTest =
    { screen := t.shown.screen.setBlinkEnabled t.screen.blinkEnabled
      decoder := { t.shown.decoder with notifications := [], responses := [] } } := by
  unfold selfTest shown
  generalize SelfTest.stream t.screen.size t.screen.model = stream
  rfl

theorem mail_selfTest (t : Terminal) : t.selfTest.mail = .none := by
  rw [selfTest_eq_shown]
  rfl

/-- What becomes of the mail in an operation. -/
def turnover (t : Terminal) : Operation → Turnover
  | .process bytes => { Turnover.idle with provoked := t.provoked bytes }
  | .drainResponses => { Turnover.idle with collected := ⟨t.drainResponses.1, []⟩ }
  | .drainNotifications => { Turnover.idle with collected := ⟨[], t.drainNotifications.1⟩ }
  | .selfTest => { Turnover.idle with lost := t.mail }
  | _ => .idle

/-- What waits and what comes go out in that order, or wait on. -/
theorem mail_perform (t : Terminal) (op : Operation) :
    t.mail ++ (t.turnover op).provoked = (t.turnover op).gone ++ (t.perform op).mail := by
  cases op with
  | process bytes => exact (t.mail_process bytes).symm
  | drainResponses =>
      simp [turnover, Turnover.idle, Turnover.gone, perform, mail, drainResponses,
        drainNotifications, Mail.none]
  | drainNotifications =>
      simp [turnover, Turnover.idle, Turnover.gone, perform, mail, drainResponses,
        drainNotifications, Mail.none]
  | selfTest =>
      rw [perform, mail_selfTest]
      simp [turnover, Turnover.idle, Turnover.gone]
  | resize size => exact Mail.append_none _
  | setModel model => exact Mail.append_none _
  | setBlinkEnabled on => exact Mail.append_none _
  | toggleBlinkPhase => exact Mail.append_none _

def turnovers (t : Terminal) (ops : List Operation) : List Turnover :=
  Turnover.along perform turnover t ops

theorem mail_performAll (t : Terminal) (ops : List Operation) :
    t.mail ++ .concat ((t.turnovers ops).map Turnover.provoked) =
      .concat ((t.turnovers ops).map Turnover.gone) ++ (t.performAll ops).mail :=
  Turnover.balance_along mail (P := fun _ => True) (fun _ _ => id)
    (fun t op _ => t.mail_perform op) trivial ops

theorem lost_eq_none_iff (t : Terminal) (op : Operation) :
    (t.turnover op).lost = .none ↔ (op = .selfTest → t.mail = .none) := by
  cases op <;> simp [turnover, Turnover.idle]

/-- Nothing is lost exactly if no self-test finds anything waiting. -/
theorem spared_iff (t : Terminal) (ops : List Operation) :
    (∀ x ∈ t.turnovers ops, x.lost = .none) ↔
      ∀ before after, ops = before ++ .selfTest :: after → (t.performAll before).mail = .none := by
  rw [turnovers, Turnover.forall_along_iff fun x => x.lost = .none]
  constructor
  · intro h before after hsplit
    exact (lost_eq_none_iff _ _).mp (h before .selfTest after hsplit) rfl
  · intro h before op after hsplit
    refine (lost_eq_none_iff _ _).mpr ?_
    rintro rfl
    exact h before after hsplit

/-- Whatever a terminal lives through, what waits in it and what a host's bytes
provoke is collected in order or waits on, but for what waits when a self-test
begins; so all of it is collected or waits exactly if every self-test finds the
queues empty. The pattern itself would add its own answer and take nothing away;
emptying the queues takes everything, and so a self-test gives back to the host
and the user what was theirs only if that was nothing. -/
theorem collected_iff_tested_empty (t : Terminal) (ops : List Operation) :
    let turns := t.turnovers ops
    let whole := t.mail ++ .concat (turns.map Turnover.provoked)
    let u := t.performAll ops
    whole = .concat (turns.map Turnover.gone) ++ u.mail ∧
      (whole = .concat (turns.map Turnover.collected) ++ u.mail ↔
        ∀ before after, ops = before ++ .selfTest :: after →
          (t.performAll before).mail = .none) ∧
      u.shown.mail = u.mail ++ ownMail u.screen.model ∧
      u.selfTest.decoder = { u.shown.decoder with notifications := [], responses := [] } ∧
      u.selfTest.mail = .none ∧ (u.selfTest.mail = u.mail ↔ u.mail = .none) := by
  intro turns whole u
  have hwhole : whole = .concat (turns.map Turnover.gone) ++ u.mail := t.mail_performAll ops
  have hemptied := congrArg Terminal.decoder u.selfTest_eq_shown
  refine ⟨hwhole, ?_, u.mail_shown, hemptied, u.mail_selfTest, ?_⟩
  · rw [hwhole, Mail.append_left_inj, Turnover.concat_gone_eq_iff, spared_iff]
  · rw [mail_selfTest]
    exact eq_comm

/-- A bell and the answer to a question do not survive the self-test. -/
theorem bell_lost_in_selfTest :
    let t := (fresh { Setup.default with model := .d211 }).process [0o07, 0o36, 'C'.toUInt8]
    t.mail = ⟨[Decoder.modelAnswer .d211], [.bell]⟩ ∧ t.selfTest.mail = .none :=
  ⟨by decide +kernel, mail_selfTest _⟩

end Terminal

end DasherTerminal
