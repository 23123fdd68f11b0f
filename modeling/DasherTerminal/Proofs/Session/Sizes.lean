import DasherTerminal.Proofs.Protocol.Grammar
import DasherTerminal.Proofs.Session.Links

/-!
# The size that a host knows

A program is started for the size that the screen has then, and is told each
size that the screen gets while it runs. Nothing else changes the size of the
screen, so the size that the program was given last is the screen's, however
links follow one another.
-/

namespace DasherTerminal

/-- A host that is to be told a size takes notice of it. -/
def Event.ResizeWorks : Event → Prop
  | .request out (.resize _) => out.resizeWorks = true
  | _ => True

def Event.isResize : Event → Bool
  | .request _ (.resize _) => true
  | _ => false

/-- The size that a call gives to a link, with the number of the link. A call
that opens gives its size to the link that it opened, if it opened one. -/
def Call.given? (opened? : Option Nat) : Call → Option (Nat × ScreenSize)
  | .open _ size => opened?.map fun number => (number, size)
  | .resize number size => some (number, size)
  | _ => none

namespace Session

/-- The number of the link that was opened on the way to a later session. No
event opens more than one. -/
def opened? (s s' : Session) : Option Nat := if s'.opened = s.opened then none else some s.opened

/-- The sizes that were given to links on the way to a later session. -/
def givenTo (s s' : Session) : List (Nat × ScreenSize) :=
  (s'.calls.toList.drop s.calls.size).filterMap (Call.given? (s.opened? s'))

/-- The sizes that are given to links in a run, oldest first. -/
def given (s : Session) : List Event → List (Nat × ScreenSize)
  | [] => []
  | e :: events => s.givenTo (s.next e) ++ (s.next e).given events

/-- The size that a link was given last. -/
def lastGiven? (number : Nat) (sizes : List (Nat × ScreenSize)) : Option ScreenSize :=
  (sizes.filterMap fun entry => if entry.1 = number then some entry.2 else none).getLast?

/-- The host that a request makes for. -/
def goal? (s : Session) : Request → Option Target
  | .connect target => some target
  | .reconnect => s.lastTarget
  | _ => none

variable {s s' s'' : Session} {out : Outside}

theorem lastGiven?_append (number : Nat) (a b : List (Nat × ScreenSize)) :
    lastGiven? number (a ++ b) = (lastGiven? number b).or (lastGiven? number a) := by
  rw [lastGiven?, List.filterMap_append, List.getLast?_append]
  rfl

theorem lastGiven?_concat (number : Nat) (sizes : List (Nat × ScreenSize)) (size : ScreenSize) :
    lastGiven? number (sizes ++ [(number, size)]) = some size := by
  have hlast : lastGiven? number [(number, size)] = some size := by simp [lastGiven?]
  rw [lastGiven?_append, hlast, Option.some_or]

/-- The calls that were made on the way to a later session, apart from calls at the
end that give no size. -/
def Adds (s s' : Session) (calls : List Call) : Prop :=
  ∃ more, s'.calls.toList = s.calls.toList ++ calls ++ more ∧
    ∀ opened?, more.filterMap (Call.given? opened?) = []

variable {calls : List Call}

theorem Adds.givenTo_eq (h : s.Adds s' calls) :
    s.givenTo s' = calls.filterMap (Call.given? (s.opened? s')) := by
  obtain ⟨more, hmore, hnothing⟩ := h
  have hsize : s.calls.toList.length = s.calls.size := Array.length_toList
  rw [givenTo, hmore, List.append_assoc, List.drop_left' hsize, List.filterMap_append, hnothing,
    List.append_nil]

theorem Adds.trans (h : s.Adds s' calls) (h' : s'.Adds s'' []) : s.Adds s'' calls := by
  obtain ⟨more, hmore, hnothing⟩ := h
  obtain ⟨more', hmore', hnothing'⟩ := h'
  refine ⟨more ++ more', ?_, fun opened? => ?_⟩
  · rw [hmore', hmore, List.append_nil, List.append_assoc]
  · rw [List.filterMap_append, hnothing, hnothing', List.append_nil]

theorem adds_of_calls (h : s'.calls.toList = s.calls.toList ++ calls) : s.Adds s' calls :=
  ⟨[], h.trans (List.append_nil _).symm, fun _ => rfl⟩

theorem adds_log (s : Session) (call : Call) : s.Adds (s.log call) [call] :=
  adds_of_calls Array.toList_push

/-! ### What gives no size -/

/-- The screen keeps its size, no link is opened, and no call gives a size. The
link stays or is let go. -/
structure Quiet (s s' : Session) : Prop where
  size : s'.terminal.screen.size = s.terminal.screen.size
  opened : s'.opened = s.opened
  link : ∀ l', s'.link = some l' →
    ∃ l, s.link = some l ∧ l'.number = l.number ∧ l'.target = l.target
  calls : s.Adds s' []

theorem quiet_of_same (hsize : s'.terminal.screen.size = s.terminal.screen.size)
    (hopened : s'.opened = s.opened) (hlink : s'.link = s.link) (hcalls : s'.calls = s.calls) :
    s.Quiet s' := by
  refine ⟨hsize, hopened, fun l hl => ⟨l, hlink ▸ hl, rfl, rfl⟩, adds_of_calls ?_⟩
  rw [hcalls, List.append_nil]

theorem Quiet.refl (s : Session) : s.Quiet s := quiet_of_same rfl rfl rfl rfl

theorem Quiet.trans (h : s.Quiet s') (h' : s'.Quiet s'') : s.Quiet s'' := by
  refine ⟨h'.size.trans h.size, h'.opened.trans h.opened, ?_, h.calls.trans h'.calls⟩
  intro l'' hl''
  obtain ⟨l', hl', hnumber', htarget'⟩ := h'.link l'' hl''
  obtain ⟨l, hl, hnumber, htarget⟩ := h.link l' hl'
  exact ⟨l, hl, hnumber'.trans hnumber, htarget'.trans htarget⟩

theorem quiet_setLink {l l' : Link} (hlink : s.link = some l) (hnumber : l'.number = l.number)
    (htarget : l'.target = l.target) : s.Quiet { s with link := some l' } := by
  refine ⟨rfl, rfl, fun m hm => ?_, adds_of_calls (List.append_nil _).symm⟩
  obtain rfl : l' = m := Option.some.inj hm
  exact ⟨l, hlink, hnumber, htarget⟩

theorem quiet_log (s : Session) {call : Call} (hcall : ∀ opened?, call.given? opened? = none) :
    s.Quiet (s.log call) := by
  refine ⟨rfl, rfl, fun l hl => ⟨l, hl, rfl, rfl⟩, [call], ?_, fun opened? => ?_⟩
  · rw [log, Array.toList_push, List.append_nil]
  · rw [List.filterMap_cons, hcall, List.filterMap_nil]

theorem quiet_readerStep? (h : s.readerStep? = some s') : s.Quiet s' := by
  obtain ⟨l, l', terminal, files, capture, hlink, rfl, hnumber, htarget, hterminal⟩ :=
    readerStep?_eq h
  have hsize : terminal.screen.size = s.terminal.screen.size := by
    obtain rfl | ⟨b, rfl⟩ := hterminal
    · rfl
    · exact (s.terminal.decoder.sameKind_run s.terminal.screen [b]).size
  have hlinked : s.Quiet { s with link := some l' } := quiet_setLink hlink hnumber htarget
  exact hlinked.trans (quiet_of_same hsize rfl rfl rfl)

theorem quiet_readerSteps (n : Nat) (s : Session) : s.Quiet (readerSteps n s) := by
  induction n generalizing s with
  | zero => exact .refl s
  | succ n ih =>
      rw [readerSteps]
      split
      · next s' hstep => exact (quiet_readerStep? hstep).trans (ih s')
      · exact .refl s

theorem quiet_arrive? {a : Arrival} (h : s.arrive? a = some s') : s.Quiet s' := by
  obtain ⟨l, hlink, rfl⟩ := arrive?_eq h
  exact quiet_setLink hlink rfl rfl

theorem quiet_dropLink (s : Session) : s.Quiet s.dropLink := by
  have hstop : s.Quiet s.stopReader := by
    unfold stopReader
    split
    · next l hlink =>
        have hclose : s.Quiet (s.log (.close l.number)) := s.quiet_log fun _ => rfl
        exact hclose.trans (quiet_setLink hlink rfl rfl)
    · exact .refl s
  have hsettle : s.stopReader.Quiet s.stopReader.settle := quiet_readerSteps _ _
  refine (hstop.trans hsettle).trans ⟨rfl, rfl, fun l hl => ?_, ?_⟩
  · cases hl
  · exact adds_of_calls (List.append_nil _).symm

theorem quiet_send {bytes : List UInt8} {result : Except Fault Unit}
    (h : s.send out bytes = (result, s')) : s.Quiet s' := by
  obtain rfl | ⟨l, l', hlink, hl', rfl⟩ := send_eq h
  · exact .refl s'
  · have hwrite : s.Quiet (s.log (.write l.number bytes)) := s.quiet_log fun _ => rfl
    refine hwrite.trans ?_
    obtain rfl | rfl := hl'
    · exact quiet_setLink hlink rfl rfl
    · exact quiet_setLink hlink rfl rfl

theorem quiet_sendAll {answers : List (List UInt8)} {result : Except Fault Unit}
    (h : sendAll out answers s = (result, s')) : s.Quiet s' := by
  induction answers generalizing s with
  | nil =>
      cases h
      exact .refl _
  | cons bytes rest ih =>
      rw [sendAll] at h
      split at h
      · next sent hsend => exact (quiet_send hsend).trans (ih h)
      · exact quiet_send h

theorem quiet_mapScreen (s : Session) {f : Screen → Screen}
    (h : (f s.terminal.screen).size = s.terminal.screen.size) : s.Quiet (s.mapScreen f) :=
  quiet_of_same h rfl rfl rfl

theorem quiet_selfTest (s : Session) : s.Quiet s.selfTest := by
  obtain ⟨stream, htest⟩ := s.terminal.selfTest_eq
  have hrun := s.terminal.decoder.reset.sameKind_run s.terminal.screen stream
  rw [selfTest, htest]
  exact quiet_of_same (hrun.trans (Screen.sameKind_setBlinkEnabled _ _)).size rfl rfl rfl

theorem quiet_perform (s : Session) (out : Outside) {r : Request} (hlink : r.changesLink = false)
    (hsize : ∀ size, r ≠ .resize size) : s.Quiet (s.perform out r).2 := by
  cases r with
  | connect => cases hlink
  | reconnect => cases hlink
  | disconnect => cases hlink
  | poll => cases hlink
  | resize size => exact absurd rfl (hsize size)
  | sendBytes bytes => exact quiet_send rfl
  | sendKey key =>
      rw [perform, sendKey]
      split
      · exact quiet_send rfl
      · exact .refl s
  | sendFile path =>
      rw [perform, sendFile]
      split
      · exact quiet_send rfl
      · exact .refl s
  | selfTest => exact s.quiet_selfTest
  | cycleModel => exact s.quiet_mapScreen rfl
  | toggleBlink => exact s.quiet_mapScreen (Screen.sameKind_setBlinkEnabled _ _).size
  | stopCapture => exact quiet_of_same rfl rfl rfl rfl
  | startCapture path =>
      rw [perform, startCapture]
      split <;> exact quiet_of_same rfl rfl rfl rfl
  | loadTemplate path =>
      rw [perform, loadTemplate]
      split <;> exact quiet_of_same rfl rfl rfl rfl

/-! ### What an event can do -/

/-- All that happens without a new size of the screen: nothing that counts, a
try to open a link, or a new link in the place of the old one. -/
inductive Advances (s : Session) : Session → Prop
  | quiet {s' : Session} (h : s.Quiet s') : s.Advances s'
  | tried {s' : Session} (target : Option Target)
      (h : (s.log (.open target s.terminal.screen.size)).Quiet s') : s.Advances s'
  | opened {m s' : Session} (target : Option Target)
      (h : (s.log (.open target s.terminal.screen.size)).Quiet m)
      (h' : { m with link := some (.fresh m.opened target), opened := m.opened + 1 }.Quiet s') :
      s.Advances s'

theorem Advances.trans_quiet (h : s.Advances s') (h' : s'.Quiet s'') : s.Advances s'' := by
  cases h with
  | quiet h => exact .quiet (h.trans h')
  | tried target h => exact .tried target (h.trans h')
  | opened target h hopened => exact .opened target h (hopened.trans h')

theorem Advances.size_eq (h : s.Advances s') :
    s'.terminal.screen.size = s.terminal.screen.size := by
  cases h with
  | quiet h => exact h.size
  | tried target h => exact h.size
  | opened target h h' => exact h'.size.trans h.size

/-- A switch opens with the size that the screen has. -/
theorem switchLink_opens (out : Outside) (target : Option Target) (s : Session) :
    s.Advances (s.switchLink out target).2 ∧
      s.Adds (s.switchLink out target).2 [.open target s.terminal.screen.size] := by
  have hlog := s.adds_log (.open target s.terminal.screen.size)
  have hdrop := (s.log (.open target s.terminal.screen.size)).quiet_dropLink
  unfold switchLink
  dsimp only
  split
  · exact ⟨.tried target (.refl _), hlog⟩
  · split
    · exact ⟨.tried target hdrop, hlog.trans hdrop.calls⟩
    · exact ⟨.opened target hdrop (.refl _), hlog.trans hdrop.calls⟩

theorem connect_opens (out : Outside) (target : Target) (s : Session) :
    s.Advances (s.connect out target).2 ∧
      s.Adds (s.connect out target).2 [.open (some target) s.terminal.screen.size] := by
  obtain ⟨hadvances, hadds⟩ := s.switchLink_opens out (some target)
  unfold connect
  split
  · next s' hswitch =>
      rw [hswitch] at hadvances hadds
      exact ⟨hadvances.trans_quiet (quiet_of_same rfl rfl rfl rfl), hadds⟩
  · exact ⟨hadvances, hadds⟩

theorem advances_reconnect (s : Session) (out : Outside) : s.Advances (s.reconnect out).2 := by
  unfold reconnect
  split
  · next target _ => exact (s.connect_opens out target).1
  · exact .quiet (.refl s)

theorem advances_poll (s : Session) (out : Outside) : s.Advances (s.poll out).2 := by
  have hleft : s.Advances (if s.isHungUp then s.disconnect out else (.ok (), s)).2 := by
    split
    · exact (s.switchLink_opens out none).1
    · exact .quiet (.refl s)
  unfold poll
  generalize (if s.isHungUp then s.disconnect out else (.ok (), s)) = left at hleft
  obtain ⟨result, s'⟩ := left
  cases result with
  | error fault => exact hleft
  | ok _ =>
      have hdrained : s'.Quiet { s' with
          terminal := s'.terminal.drainResponses.2.drainNotifications.2 } :=
        quiet_of_same rfl rfl rfl rfl
      dsimp only
      split <;> next hsend => exact hleft.trans_quiet (hdrained.trans (quiet_sendAll hsend))

theorem advances_perform_poll (s : Session) (out : Outside) :
    s.Advances (s.perform out .poll).2 := by
  have hpoll := s.advances_poll out
  rw [perform]
  split
  · next new s' h =>
      rw [h] at hpoll
      exact hpoll.trans_quiet (quiet_of_same rfl rfl rfl rfl)
  · next fault s' h =>
      rw [h] at hpoll
      exact hpoll

theorem advances_next (s : Session) {e : Event} (h : e.isResize = false) :
    s.Advances (s.next e) := by
  cases e with
  | arrival a =>
      rw [next]
      cases harrive : s.arrive? a with
      | none => exact .quiet (.refl s)
      | some s' => exact .quiet (quiet_arrive? harrive)
  | readerStep =>
      rw [next]
      cases hstep : s.readerStep? with
      | none => exact .quiet (.refl s)
      | some s' => exact .quiet (quiet_readerStep? hstep)
  | blinkTimer => exact .quiet (s.quiet_mapScreen rfl)
  | request out r =>
      cases r with
      | resize size => cases h
      | connect target => exact (s.connect_opens out target).1
      | disconnect => exact (s.switchLink_opens out none).1
      | reconnect => exact s.advances_reconnect out
      | poll => exact s.advances_perform_poll out
      | _ => exact .quiet (s.quiet_perform out rfl (by simp))

theorem size_run {events : List Event} (h : ∀ e ∈ events, e.isResize = false) (s : Session) :
    (s.run events).terminal.screen.size = s.terminal.screen.size := by
  induction events generalizing s with
  | nil => rfl
  | cons e events ih =>
      have hsize := (s.advances_next (h e List.mem_cons_self)).size_eq
      exact (ih (fun e' he' => h e' (List.mem_cons_of_mem e he')) _).trans hsize

/-! ### What a host was given -/

/-- The host was given the size of the screen last. -/
def Told (s : Session) (sizes : List (Nat × ScreenSize)) : Prop :=
  ∀ l, s.link = some l → l.isOnline = true →
    lastGiven? l.number sizes = some s.terminal.screen.size

variable {sizes : List (Nat × ScreenSize)}

theorem Told.quiet (h : s.Told sizes) (hquiet : s.Quiet s') : s'.Told sizes := by
  intro l' hlink' honline
  obtain ⟨l, hlink, hnumber, htarget⟩ := hquiet.link l' hlink'
  rw [hnumber, hquiet.size]
  refine h l hlink ?_
  rw [Link.isOnline, ← htarget]
  exact honline

theorem Told.advances (h : s.Told sizes) (hadvances : s.Advances s') :
    s'.Told (sizes ++ s.givenTo s') := by
  cases hadvances with
  | quiet hquiet =>
      rw [hquiet.calls.givenTo_eq, List.filterMap_nil, List.append_nil]
      exact h.quiet hquiet
  | tried target hquiet =>
      have hadds := (s.adds_log _).trans hquiet.calls
      -- No link was opened, so the size of the try went to none.
      have hopened : s.opened? s' = none := if_pos hquiet.opened
      have hgiven : s.givenTo s' = [] := by
        rw [hadds.givenTo_eq, hopened]
        rfl
      have hlogged : (s.log (.open target s.terminal.screen.size)).Told sizes := h
      rw [hgiven, List.append_nil]
      exact hlogged.quiet hquiet
  | @opened m _ target hquiet hquiet' =>
      have hlinked : m.Adds s' [] := hquiet'.calls
      have hadds := ((s.adds_log _).trans hquiet.calls).trans hlinked
      have hnumber : m.opened = s.opened := hquiet.opened
      have hopened : s.opened? s' = some s.opened := by
        refine if_neg ?_
        rw [hquiet'.opened, hnumber]
        exact Nat.succ_ne_self _
      have hgiven : s.givenTo s' = [(s.opened, s.terminal.screen.size)] := by
        rw [hadds.givenTo_eq, hopened]
        rfl
      have hsize : m.terminal.screen.size = s.terminal.screen.size := hquiet.size
      rw [hgiven]
      refine Told.quiet ?_ hquiet'
      intro l hl _
      obtain rfl := Option.some.inj hl
      rw [Link.fresh, hnumber, lastGiven?_concat, hsize]

theorem link_resize (s : Session) (out : Outside) (size : ScreenSize) :
    (s.resize out size).link = s.link := by
  unfold resize
  dsimp only
  split
  · split <;> rfl
  · rfl

/-- A host is told of a new size whatever it was told before. -/
theorem told_resize (s : Session) (hworks : out.resizeWorks = true) (size : ScreenSize)
    (sizes : List (Nat × ScreenSize)) :
    (s.resize out size).Told (sizes ++ s.givenTo (s.resize out size)) := by
  intro l hl honline
  have hlink : s.link = some l := (s.link_resize out size).symm.trans hl
  have hresize : s.resize out size =
      (s.mapScreen (·.resize size)).log (.resize l.number size) := by
    have hmapped : (s.mapScreen (·.resize size)).link = some l := hlink
    simp only [Session.resize, hmapped, honline, hworks, Bool.and_self, if_true]
  have hadds : s.Adds (s.resize out size) [.resize l.number size] := by
    rw [hresize]
    exact (s.mapScreen (·.resize size)).adds_log _
  have hgiven : s.givenTo (s.resize out size) = [(l.number, size)] := by
    rw [hadds.givenTo_eq]
    rfl
  rw [hgiven, lastGiven?_concat, hresize]
  rfl

theorem Told.next (h : s.Told sizes) {e : Event} (hworks : e.ResizeWorks) :
    (s.next e).Told (sizes ++ s.givenTo (s.next e)) := by
  cases hresize : e.isResize with
  | false => exact h.advances (s.advances_next hresize)
  | true =>
      unfold Event.isResize at hresize
      split at hresize
      · next out size => exact s.told_resize hworks size sizes
      · cases hresize

theorem Told.run (h : s.Told sizes) {events : List Event} (hworks : ∀ e ∈ events, e.ResizeWorks) :
    (s.run events).Told (sizes ++ s.given events) := by
  induction events generalizing s sizes with
  | nil =>
      rw [given, List.append_nil]
      exact h
  | cons e events ih =>
      rw [given, ← List.append_assoc, run_cons]
      exact ih (h.next (hworks e List.mem_cons_self))
        fun e' he' => hworks e' (List.mem_cons_of_mem e he')

theorem told_start {terminal : Terminal} {encoder : Encoder} {files : Files}
    (hstart : start out terminal encoder files = .ok s) : s.Told [] := by
  intro l hlink honline
  have htarget := (settled_start hstart).link
  rw [hlink, Option.map_some] at htarget
  rw [Link.isOnline, Option.some.inj htarget] at honline
  cases honline

theorem perform_opens {r : Request} {target : Target} (h : s.goal? r = some target)
    (out : Outside) :
    ∃ more, (s.perform out r).2.calls.toList =
      s.calls.toList ++ .open (some target) s.terminal.screen.size :: more := by
  have hadds : s.Adds (s.perform out r).2 [.open (some target) s.terminal.screen.size] := by
    unfold goal? at h
    split at h
    · cases h
      exact (s.connect_opens out target).2
    · rw [perform, reconnect, h]
      exact (s.connect_opens out target).2
    · cases h
  obtain ⟨more, hmore, -⟩ := hadds
  refine ⟨more, ?_⟩
  rw [hmore, List.append_assoc, List.singleton_append]

theorem size_resize (s : Session) (out : Outside) (size : ScreenSize) :
    (s.resize out size).terminal.screen.size = size := by
  unfold resize
  dsimp only
  split
  · split <;> rfl
  · rfl

/-- The size that a program was given last is the size of the screen, and a new
size, with a host or without one, is what the next program is started for. -/
theorem lastGiven?_run {out : Outside} {terminal : Terminal} {encoder : Encoder} {files : Files}
    {s₀ : Session} (hstart : start out terminal encoder files = .ok s₀) {events : List Event}
    (hworks : ∀ e ∈ events, e.ResizeWorks) :
    let s := s₀.run events
    (∀ (l : Link) (command : List String), s.link = some l →
      l.target = some (.program command) →
        lastGiven? l.number (s₀.given events) = some s.terminal.screen.size) ∧
    ∀ (out : Outside) (size : ScreenSize) (later : List Event),
      (∀ e ∈ later, e.isResize = false) →
        let s' := (s.resize out size).run later
        s'.terminal.screen.size = size ∧
          ∀ (out : Outside) (r : Request) (command : List String),
            s'.goal? r = some (.program command) →
              ∃ more, (s'.perform out r).2.calls.toList =
                s'.calls.toList ++ .open (some (.program command)) size :: more := by
  intro s
  refine ⟨?_, ?_⟩
  · intro l command hlink htarget
    have htold : s.Told (s₀.given events) := (told_start hstart).run hworks
    refine htold l hlink ?_
    rw [Link.isOnline, htarget]
    rfl
  · intro out size later hlater s'
    have hsize : s'.terminal.screen.size = size :=
      (size_run hlater _).trans (s.size_resize out size)
    refine ⟨hsize, ?_⟩
    intro out r command hgoal
    rw [← hsize]
    exact perform_opens hgoal out

def wide : ScreenSize := ⟨132, 25, by decide, by decide⟩

def tall : ScreenSize := ⟨81, 48, by decide, by decide⟩

def shell : Target := .program ["sh"]

/-- A program sees a new size, is left, and is started again on another screen. -/
def revisit : List Event :=
  [.request .fair (.connect shell), .request .fair (.resize wide), .request .fair .disconnect,
    .request .fair (.resize tall), .request refusing .reconnect, .request .fair .reconnect]

theorem lastGiven?_run_revisit :
    start .fair (.fresh .default) .plain .empty = .ok fresh ∧
      (fresh.run revisit).link = some (.fresh 3 (some shell)) ∧
      lastGiven? 3 (fresh.given revisit) = some (fresh.run revisit).terminal.screen.size ∧
      ∃ more, (((fresh.run revisit).resize .fair wide).perform .fair .reconnect).2.calls.toList =
        ((fresh.run revisit).resize .fair wide).calls.toList ++
          .open (some shell) wide :: more := by
  have hstart : start .fair (.fresh .default) .plain .empty = .ok fresh := rfl
  have hworks : ∀ e ∈ revisit, e.ResizeWorks := by
    intro e he
    simp only [revisit, List.mem_cons, List.not_mem_nil, or_false] at he
    rcases he with rfl | rfl | rfl | rfl | rfl | rfl <;> trivial
  have hlink : (fresh.run revisit).link = some (.fresh 3 (some shell)) := by decide +kernel
  obtain ⟨htold, hnext⟩ := lastGiven?_run hstart hworks
  have hlater : ∀ e ∈ ([] : List Event), e.isResize = false := by simp
  have hgoal : ((fresh.run revisit).resize .fair wide).goal? .reconnect = some shell := by
    decide +kernel
  have hopens := (hnext .fair wide [] hlater).2 .fair .reconnect ["sh"] hgoal
  exact ⟨hstart, hlink, htold _ ["sh"] hlink rfl, hopens⟩

end Session

end DasherTerminal
