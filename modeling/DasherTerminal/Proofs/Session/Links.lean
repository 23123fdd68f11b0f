import DasherTerminal.Proofs.Session.Moves

/-!
# The link of a session

A new link is opened before the old one is let go, so a session has a link at
all times, and a switch that fails changes nothing. Where the link leads and
which host was the last follows from the switches that succeeded.
-/

namespace DasherTerminal

/-- A switch of links that succeeded. -/
inductive LinkChange where
  | connected (target : Target)
  /-- The user left the host. -/
  | left
  /-- Poll noticed that the host had hung up. -/
  | hungUp
  deriving DecidableEq, Repr

def LinkChange.target? : LinkChange → Option Target
  | connected target => some target
  | _ => none

/-- The reader of every link that is opened can be taken. -/
def Event.ReaderStarts : Event → Prop
  | .request out _ => out.readerFault? = none
  | _ => True

def Request.isSwitch : Request → Bool
  | .connect _ => true
  | .reconnect => true
  | .disconnect => true
  | _ => false

namespace Session

/-- The switch of links that an event brings about. -/
def linkChange? (s : Session) : Event → Option LinkChange
  | .request out (.connect target) =>
    if (s.connect out target).1.isOk then some (.connected target) else none
  -- The user names no target; a session that never connected refuses.
  | .request out .reconnect =>
    if (s.reconnect out).1.isOk then s.lastTarget.map .connected else none
  | .request out .disconnect => if (s.disconnect out).1.isOk then some .left else none
  | .request out .poll => if s.isHungUp ∧ (s.disconnect out).1.isOk then some .hungUp else none
  | _ => none

def linkChanges (s : Session) : List Event → List LinkChange
  | [] => []
  | e :: events => (s.linkChange? e).toList ++ (s.next e).linkChanges events

/-! ### What keeps the link -/

/-- The link leads where it led, and the last host is the same. -/
structure KeepsLink (s s' : Session) : Prop where
  target : s'.link.map Link.target = s.link.map Link.target
  lastTarget : s'.lastTarget = s.lastTarget

variable {s s' s'' : Session}

theorem KeepsLink.refl (s : Session) : s.KeepsLink s := ⟨rfl, rfl⟩

theorem KeepsLink.trans (h : s.KeepsLink s') (h' : s'.KeepsLink s'') : s.KeepsLink s'' :=
  ⟨h'.target.trans h.target, h'.lastTarget.trans h.lastTarget⟩

theorem keepsLink_of_target {l l' : Link} (hlink : s.link = some l) (hlink' : s'.link = some l')
    (htarget : l'.target = l.target) (hlast : s'.lastTarget = s.lastTarget) : s.KeepsLink s' := by
  refine ⟨?_, hlast⟩
  rw [hlink, hlink', Option.map_some, Option.map_some, htarget]

theorem keepsLink_readerStep? (h : s.readerStep? = some s') : s.KeepsLink s' := by
  obtain ⟨l, l', terminal, files, capture, hlink, rfl, _, htarget, _⟩ := readerStep?_eq h
  exact keepsLink_of_target hlink rfl htarget rfl

theorem keepsLink_readerSteps (n : Nat) (s : Session) : s.KeepsLink (readerSteps n s) := by
  induction n generalizing s with
  | zero => exact .refl s
  | succ n ih =>
      rw [readerSteps]
      split
      · next s' hstep => exact (keepsLink_readerStep? hstep).trans (ih s')
      · exact .refl s

theorem keepsLink_stopReader (s : Session) : s.KeepsLink s.stopReader := by
  unfold stopReader
  split
  · next l hlink => exact keepsLink_of_target hlink rfl rfl rfl
  · exact .refl s

theorem lastTarget_dropLink (s : Session) : s.dropLink.lastTarget = s.lastTarget :=
  (s.keepsLink_stopReader.trans (keepsLink_readerSteps _ _)).lastTarget

theorem keepsLink_arrive? {a : Arrival} (h : s.arrive? a = some s') : s.KeepsLink s' := by
  obtain ⟨l, hlink, rfl⟩ := arrive?_eq h
  exact keepsLink_of_target hlink rfl rfl rfl

theorem keepsLink_send {out : Outside} {bytes : List UInt8} {result : Except Fault Unit}
    (h : s.send out bytes = (result, s')) : s.KeepsLink s' := by
  obtain rfl | ⟨l, l', hlink, hl', rfl⟩ := send_eq h
  · exact .refl s'
  · refine keepsLink_of_target hlink rfl ?_ rfl
    obtain rfl | rfl := hl'
    · rfl
    · rfl

theorem keepsLink_sendAll {out : Outside} {answers : List (List UInt8)}
    {result : Except Fault Unit} (h : sendAll out answers s = (result, s')) : s.KeepsLink s' := by
  induction answers generalizing s with
  | nil =>
      cases h
      exact .refl _
  | cons bytes rest ih =>
      rw [sendAll] at h
      split at h
      · next sent hsend => exact (keepsLink_send hsend).trans (ih h)
      · exact keepsLink_send h

theorem keepsLink_selfTest (s : Session) : s.KeepsLink s.selfTest := by
  rw [selfTest]
  exact ⟨rfl, rfl⟩

theorem keepsLink_resize (s : Session) (out : Outside) (size : ScreenSize) :
    s.KeepsLink (s.resize out size) := by
  unfold resize
  dsimp only
  split
  · split <;> exact ⟨rfl, rfl⟩
  · exact ⟨rfl, rfl⟩

theorem keepsLink_perform (s : Session) (out : Outside) {r : Request}
    (hr : r.changesLink = false) : s.KeepsLink (s.perform out r).2 := by
  cases r with
  | connect => cases hr
  | reconnect => cases hr
  | disconnect => cases hr
  | poll => cases hr
  | sendBytes bytes => exact keepsLink_send rfl
  | sendKey key =>
      rw [perform, sendKey]
      split
      · exact keepsLink_send rfl
      · exact .refl s
  | sendFile path =>
      rw [perform, sendFile]
      split
      · exact keepsLink_send rfl
      · exact .refl s
  | resize size => exact s.keepsLink_resize out size
  | selfTest =>
      rw [perform]
      exact s.keepsLink_selfTest
  | startCapture path =>
      rw [perform, startCapture]
      split <;> exact ⟨rfl, rfl⟩
  | loadTemplate path =>
      rw [perform, loadTemplate]
      split <;> exact ⟨rfl, rfl⟩
  | _ => exact ⟨rfl, rfl⟩

/-! ### Switching -/

variable {out : Outside}

/-- A switch opens the new link first, and does nothing else if that fails. -/
theorem switchLink_cases (hreader : out.readerFault? = none) (target : Option Target)
    (s : Session) :
    (∃ fault, s.switchLink out target =
      (.error fault, s.log (.open target s.terminal.screen.size))) ∨
    ∃ s', s.switchLink out target = (.ok (), s') ∧ s'.link.map Link.target = some target ∧
      s'.lastTarget = s.lastTarget := by
  unfold switchLink
  dsimp only
  split
  · next fault _ => exact .inl ⟨fault, rfl⟩
  · rw [hreader]
    exact .inr ⟨_, rfl, rfl, lastTarget_dropLink _⟩

theorem connect_cases (hreader : out.readerFault? = none) (target : Target) (s : Session) :
    (∃ fault, s.connect out target =
      (.error fault, s.log (.open (some target) s.terminal.screen.size))) ∨
    ∃ s', s.connect out target = (.ok (), s') ∧ s'.link.map Link.target = some (some target) ∧
      s'.lastTarget = some target := by
  unfold connect
  obtain ⟨fault, hswitch⟩ | ⟨s', hswitch, hlink, _⟩ := s.switchLink_cases hreader (some target)
  · rw [hswitch]
    exact .inl ⟨fault, rfl⟩
  · rw [hswitch]
    exact .inr ⟨_, rfl, hlink, rfl⟩

/-- Poll leaves a host that has hung up, and else keeps the link. -/
theorem keepsLink_poll (s : Session) (out : Outside) :
    (if s.isHungUp then s.disconnect out else (.ok (), s)).2.KeepsLink (s.poll out).2 := by
  unfold poll
  generalize (if s.isHungUp then s.disconnect out else (.ok (), s)) = left
  obtain ⟨result, s'⟩ := left
  cases result with
  | error fault => exact .refl s'
  | ok _ =>
      dsimp only
      split
      · next sent hsend =>
          have hkeeps := keepsLink_sendAll hsend
          exact ⟨hkeeps.target, hkeeps.lastTarget⟩
      · next fault sent hsend =>
          have hkeeps := keepsLink_sendAll hsend
          exact ⟨hkeeps.target, hkeeps.lastTarget⟩

/-! ### Runs -/

/-- The link leads where the last switch led it, and the last host is the last
that a switch led to. -/
structure Settled (s : Session) (changes : List LinkChange) : Prop where
  link : s.link.map Link.target = some (changes.getLast?.bind LinkChange.target?)
  lastTarget : s.lastTarget = (changes.filterMap LinkChange.target?).getLast?

variable {changes : List LinkChange}

theorem Settled.keep (h : s.Settled changes) (hkeeps : s.KeepsLink s') : s'.Settled changes :=
  ⟨hkeeps.target.trans h.link, hkeeps.lastTarget.trans h.lastTarget⟩

theorem Settled.switch (h : s.Settled changes) {change : LinkChange}
    (hlink : s'.link.map Link.target = some change.target?)
    (hlast : s'.lastTarget = change.target?.or s.lastTarget) :
    s'.Settled (changes ++ [change]) := by
  refine ⟨?_, ?_⟩
  · rw [hlink, List.getLast?_concat, Option.bind_some]
  · rw [hlast, h.lastTarget, List.filterMap_append, List.getLast?_append]
    cases change <;> rfl

theorem Settled.stay (h : s.Settled changes) (hkeeps : s.KeepsLink s') {change : Option LinkChange}
    (hnone : change = none) : s'.Settled (changes ++ change.toList) := by
  rw [hnone, Option.toList_none, List.append_nil]
  exact h.keep hkeeps

theorem keepsLink_log (s : Session) (call : Call) : s.KeepsLink (s.log call) := ⟨rfl, rfl⟩

theorem Settled.connect (h : s.Settled changes) (hreader : out.readerFault? = none)
    (target : Target) : (s.connect out target).2.Settled (changes ++
      (if (s.connect out target).1.isOk then some (LinkChange.connected target)
      else none).toList) := by
  obtain ⟨fault, hconnect⟩ | ⟨s', hconnect, hlink, hlast⟩ := s.connect_cases hreader target
  · rw [hconnect]
    exact h.stay (s.keepsLink_log _) rfl
  · rw [hconnect]
    exact h.switch hlink hlast

theorem Settled.disconnect (h : s.Settled changes) (hreader : out.readerFault? = none)
    {change : LinkChange} (hchange : change.target? = none) :
    (s.disconnect out).2.Settled (changes ++
      (if (s.disconnect out).1.isOk then some change else none).toList) := by
  unfold Session.disconnect
  obtain ⟨fault, hswitch⟩ | ⟨s', hswitch, hlink, hlast⟩ := s.switchLink_cases hreader none
  · rw [hswitch]
    exact h.stay (s.keepsLink_log _) rfl
  · rw [hswitch]
    refine h.switch ?_ ?_
    · rw [hchange]
      exact hlink
    · rw [hchange]
      exact hlast

theorem Settled.reconnect (h : s.Settled changes) (hreader : out.readerFault? = none) :
    (s.reconnect out).2.Settled (changes ++
      (if (s.reconnect out).1.isOk then s.lastTarget.map LinkChange.connected
      else none).toList) := by
  unfold Session.reconnect
  cases hlast : s.lastTarget with
  | some target => exact h.connect hreader target
  | none => exact h.stay (.refl s) rfl

theorem Settled.poll (h : s.Settled changes) (hreader : out.readerFault? = none) :
    (s.poll out).2.Settled (changes ++
      (if s.isHungUp ∧ (s.disconnect out).1.isOk then some LinkChange.hungUp else none).toList) := by
  have hkeeps := s.keepsLink_poll out
  by_cases hhungUp : s.isHungUp = true
  -- Poll counts as a switch even if an answer cannot be sent over the new link.
  · rw [if_pos hhungUp] at hkeeps
    have hnowhere : LinkChange.hungUp.target? = none := rfl
    have hleft := h.disconnect hreader hnowhere
    simp only [hhungUp, true_and]
    exact hleft.keep hkeeps
  · rw [if_neg hhungUp] at hkeeps
    exact h.stay hkeeps (if_neg fun hleft => hhungUp hleft.1)

theorem keepsLink_perform_poll (s : Session) (out : Outside) :
    (s.poll out).2.KeepsLink (s.perform out .poll).2 := by
  rw [perform]
  split
  · next new s' hpoll =>
      rw [hpoll]
      exact ⟨rfl, rfl⟩
  · next fault s' hpoll =>
      rw [hpoll]
      exact .refl s'

theorem Settled.next (h : s.Settled changes) {e : Event} (hreader : e.ReaderStarts) :
    (s.next e).Settled (changes ++ (s.linkChange? e).toList) := by
  cases e with
  | arrival a =>
      refine h.stay ?_ rfl
      rw [Session.next]
      cases harrive : s.arrive? a with
      | none => exact .refl s
      | some s' => exact keepsLink_arrive? harrive
  | readerStep =>
      refine h.stay ?_ rfl
      rw [Session.next]
      cases hstep : s.readerStep? with
      | none => exact .refl s
      | some s' => exact keepsLink_readerStep? hstep
  | blinkTimer =>
      refine h.stay ?_ rfl
      exact ⟨rfl, rfl⟩
  | request out r =>
      cases r with
      | connect target => exact h.connect hreader target
      | disconnect => exact h.disconnect hreader rfl
      | reconnect => exact h.reconnect hreader
      | poll => exact (h.poll hreader).keep (s.keepsLink_perform_poll out)
      | _ => exact h.stay (s.keepsLink_perform out rfl) rfl

theorem Settled.run (h : s.Settled changes) {events : List Event}
    (hreaders : ∀ e ∈ events, e.ReaderStarts) :
    (s.run events).Settled (changes ++ s.linkChanges events) := by
  induction events generalizing s changes with
  | nil =>
      rw [linkChanges, List.append_nil]
      exact h
  | cons e events ih =>
      rw [linkChanges, ← List.append_assoc, run_cons]
      exact ih (h.next (hreaders e List.mem_cons_self))
        fun e' he' => hreaders e' (List.mem_cons_of_mem e he')

theorem settled_start {terminal : Terminal} {encoder : Encoder} {files : Files}
    (hstart : start out terminal encoder files = .ok s) : s.Settled [] := by
  unfold start at hstart
  dsimp only at hstart
  split at hstart
  · next started hswitch =>
      cases hstart
      unfold switchLink at hswitch
      dsimp only at hswitch
      split at hswitch
      · cases hswitch
      · split at hswitch
        · cases hswitch
        · cases hswitch
          exact ⟨rfl, lastTarget_dropLink _⟩
  · cases hstart

theorem Settled.exists_link (h : s.Settled changes) :
    ∃ l, s.link = some l ∧ l.target = changes.getLast?.bind LinkChange.target? := by
  have hlink := h.link
  cases hs : s.link with
  | none =>
      rw [hs] at hlink
      cases hlink
  | some l =>
      rw [hs] at hlink
      exact ⟨l, rfl, Option.some.inj hlink⟩

theorem Settled.status_eq (h : s.Settled changes) :
    s.status = ((changes.getLast?.bind LinkChange.target?).map LinkStatus.ofTarget).getD
      .offline := by
  obtain ⟨l, hlink, htarget⟩ := h.exists_link
  rw [status, hlink, Option.map_some, Option.getD_some, Link.status, ← htarget]
  cases l.target <;> rfl

theorem isOnline_ofTarget (target : Target) : (LinkStatus.ofTarget target).isOnline = true := by
  cases target <;> rfl

theorem Settled.isOnline_iff (h : s.Settled changes) :
    s.status.isOnline = true ↔ ∃ target, changes.getLast? = some (.connected target) := by
  rw [h.status_eq]
  cases changes.getLast? with
  | none => simp [LinkStatus.offline, LinkStatus.isOnline]
  | some change =>
      cases change with
      | connected target => simp [LinkChange.target?, isOnline_ofTarget]
      | left => simp [LinkChange.target?, LinkStatus.offline, LinkStatus.isOnline]
      | hungUp => simp [LinkChange.target?, LinkStatus.offline, LinkStatus.isOnline]

/-! ### Failures -/

variable {fault : Fault}

theorem connect_of_error (hreader : out.readerFault? = none) {target : Target}
    (herror : (s.connect out target).1 = .error fault) :
    (s.connect out target).2 = s.log (.open (some target) s.terminal.screen.size) := by
  obtain ⟨_, hconnect⟩ | ⟨_, hconnect, _, _⟩ := s.connect_cases hreader target
  · rw [hconnect]
  · rw [hconnect] at herror
    cases herror

/-- A switch that fails has tried to open a link, and done nothing else. -/
theorem perform_of_error {r : Request} (hreader : out.readerFault? = none)
    (hr : r.isSwitch = true) (herror : (s.perform out r).1 = .error fault) :
    (s.perform out r).2 = s ∨
      ∃ target, (s.perform out r).2 = s.log (.open target s.terminal.screen.size) := by
  cases r with
  | connect target => exact .inr ⟨some target, connect_of_error hreader herror⟩
  | reconnect =>
      rw [perform, reconnect] at herror ⊢
      cases hlast : s.lastTarget with
      | none => exact .inl rfl
      | some target =>
          rw [hlast] at herror
          exact .inr ⟨some target, connect_of_error hreader herror⟩
  | disconnect =>
      rw [perform, disconnect] at herror ⊢
      obtain ⟨_, hswitch⟩ | ⟨_, hswitch, _, _⟩ := s.switchLink_cases hreader none
      · rw [hswitch]
        exact .inr ⟨none, rfl⟩
      · rw [hswitch] at herror
        cases herror
  | _ => cases hr

/-- Whatever happens to a session, it has a link, the last host is that of the
last connection that came about, and the session is online as long as no later
switch has left that host. A switch that fails leaves the link, the last host
and the terminal as they were. -/
theorem link_run {out₀ : Outside} {terminal : Terminal} {encoder : Encoder} {files : Files}
    {s₀ : Session} (hstart : start out₀ terminal encoder files = .ok s₀) {events : List Event}
    (hreaders : ∀ e ∈ events, e.ReaderStarts) :
    let s := s₀.run events
    let changes := s₀.linkChanges events
    s.link.isSome = true ∧
      s.lastTarget = (changes.filterMap LinkChange.target?).getLast? ∧
      s.link.bind Link.target = changes.getLast?.bind LinkChange.target? ∧
      (s.status.isOnline = true ↔ ∃ target, changes.getLast? = some (.connected target)) ∧
      ∀ (out : Outside) (r : Request) (fault : Fault), out.readerFault? = none →
        r.isSwitch = true → (s.perform out r).1 = .error fault →
        let s' := (s.perform out r).2
        s'.link = s.link ∧ s'.lastTarget = s.lastTarget ∧ s'.terminal = s.terminal ∧
          (s'.calls = s.calls ∨ ∃ target size, s'.calls = s.calls.push (.open target size)) := by
  intro s changes
  have hsettled : s.Settled changes := (settled_start hstart).run hreaders
  obtain ⟨l, hlink, htarget⟩ := hsettled.exists_link
  refine ⟨?_, hsettled.lastTarget, ?_, hsettled.isOnline_iff, ?_⟩
  · rw [hlink]
    rfl
  · rw [hlink]
    exact htarget
  · intro out r fault hreader hr herror
    obtain hsame | ⟨target, hlogged⟩ := perform_of_error hreader hr herror
    · dsimp only
      rw [hsame]
      exact ⟨rfl, rfl, rfl, .inl rfl⟩
    · dsimp only
      rw [hlogged]
      exact ⟨rfl, rfl, rfl, .inr ⟨_, _, rfl⟩⟩

def refusing : Outside := { Outside.fair with openFault? := fun _ => some .notConnected }

def fresh : Session :=
  { terminal := .fresh .default, encoder := .plain, link := some (.fresh 0 none), opened := 1,
    capture := none, files := .empty, lastTarget := none, notices := [],
    calls := #[.open none .default] }

/-- A host answers, another does not, and then the first hangs up. -/
def visit : List Event :=
  [.request .fair (.connect (.telnet "mv" 23)), .request refusing (.connect (.telnet "eclipse" 23)),
    .arrival .ending, .readerStep, .request .fair .poll]

theorem link_run_visit :
    start .fair (.fresh .default) .plain .empty = .ok fresh ∧
      fresh.linkChanges visit = [.connected (.telnet "mv" 23), .hungUp] ∧
      (fresh.run visit).lastTarget = some (.telnet "mv" 23) ∧
      (fresh.run visit).link.isSome = true ∧ ¬(fresh.run visit).status.isOnline = true ∧
      ((fresh.run visit).perform refusing .reconnect).2.link = (fresh.run visit).link := by
  have hstart : start .fair (.fresh .default) .plain .empty = .ok fresh := rfl
  have hreaders : ∀ e ∈ visit, e.ReaderStarts := by
    intro e he
    simp only [visit, List.mem_cons, List.not_mem_nil, or_false] at he
    rcases he with rfl | rfl | rfl | rfl | rfl <;> trivial
  have hchanges : fresh.linkChanges visit = [.connected (.telnet "mv" 23), .hungUp] := by
    decide +kernel
  obtain ⟨hlink, hlast, _, honline, hfails⟩ := link_run hstart hreaders
  rw [hchanges] at hlast honline
  have herror : ((fresh.run visit).perform refusing .reconnect).1 = .error .notConnected := by
    rw [perform, reconnect, hlast]
    rfl
  refine ⟨hstart, hchanges, hlast, hlink, ?_, (hfails _ _ _ rfl rfl herror).1⟩
  rw [honline]
  rintro ⟨target, htarget⟩
  cases htarget

end Session

end DasherTerminal
