import DasherTerminal.Proofs.Session.Overlays

/-!
# Entries of dialogs

The enter key tries the text of a dialog. Whatever is wrong with it, or goes
wrong with it, is found out before anything is changed, so that the dialog stays
open over a session that is as it was.
-/

namespace DasherTerminal

namespace Session

variable {out : Outside} {s : Session}

theorem connect_of_openFault? {target : Target} {fault : Fault}
    (hopen : out.openFault? (some target) = some fault) :
    s.connect out target = (.error fault, s.log (.open (some target) s.terminal.screen.size)) := by
  have hswitch : s.switchLink out (some target) =
      (.error fault, s.log (.open (some target) s.terminal.screen.size)) := by
    rw [switchLink, hopen]
  rw [connect, hswitch]

theorem connect_of_openFault?_eq_none {target : Target} (hreader : out.readerFault? = none)
    (hopen : out.openFault? (some target) = none) : (s.connect out target).1 = .ok () := by
  have hswitch : (s.switchLink out (some target)).1 = .ok () := by
    rw [switchLink, hopen]
    dsimp only
    rw [hreader]
  rw [connect]
  split
  · rfl
  · exact hswitch

theorem send_of_unlinked (hlink : s.link = none) (bytes : List UInt8) :
    s.send out bytes = (.error .notConnected, s) := by
  rw [send, hlink]

theorem send_of_writeFault? {l : Link} {fault : Fault} (hlink : s.link = some l)
    (hwrite : out.writeFault? = some fault) (bytes : List UInt8) :
    s.send out bytes = (.error fault, s) := by
  rw [send, hlink, hwrite]

theorem send_of_writeFault?_eq_none {l : Link} (hlink : s.link = some l)
    (hwrite : out.writeFault? = none) (bytes : List UInt8) : (s.send out bytes).1 = .ok () := by
  rw [send, hlink, hwrite]

end Session

namespace Window

/-- What stands in the way of an entry. -/
inductive Refuses (out : Outside) (s : Session) : View.DialogKind → String → Fault → Prop
  | size {text : String} {fault : Fault} (h : ScreenSize.parse text = .error fault) :
      Refuses out s .resize text fault
  | address {text : String} {fault : Fault} (h : Target.parse text = .error fault) :
      Refuses out s .connect text fault
  | host {text : String} {target : Target} {fault : Fault} (h : Target.parse text = .ok target)
      (hopen : out.openFault? (some target) = some fault) : Refuses out s .connect text fault
  | unreadable {path : String} {cause : SystemFault} (h : s.files.read path = .error cause) :
      Refuses out s .sendFile path (.file path cause)
  | unlinked {path : String} {bytes : List UInt8} (h : s.files.read path = .ok bytes)
      (hlink : s.link = none) : Refuses out s .sendFile path .notConnected
  | unwritten {path : String} {bytes : List UInt8} {l : Link} {fault : Fault}
      (h : s.files.read path = .ok bytes) (hlink : s.link = some l)
      (hwrite : out.writeFault? = some fault) : Refuses out s .sendFile path fault
  | uncreatable {path : String} {cause : SystemFault}
      (h : s.files.openForWriting path false = .error cause) :
      Refuses out s .capture path (.file path cause)
  | template {path : String} {fault : Fault} (h : Template.load s.files path = .error fault) :
      Refuses out s .template path fault

def tryEntry (out : Outside) (kind : View.DialogKind) (text : String) (s : Session) :
    Except Fault Unit × Session :=
  match entryRequest kind text with
  | .ok request => s.perform out request
  | .error fault => (.error fault, s)

variable {out : Outside} {s s' : Session} {kind : View.DialogKind} {text : String} {fault : Fault}

theorem tryEntry_of_ok {request : Request} (h : entryRequest kind text = .ok request) :
    tryEntry out kind text s = s.perform out request := by
  rw [tryEntry, h]

theorem tryEntry_of_error (h : entryRequest kind text = .error fault) :
    tryEntry out kind text s = (.error fault, s) := by
  rw [tryEntry, h]

theorem entryRequest_resize (text : String) :
    entryRequest .resize text = (ScreenSize.parse text).map .resize := rfl

theorem entryRequest_connect (text : String) :
    entryRequest .connect text = (Target.parse text).map .connect := rfl

/-- A refused entry leaves no more behind than a call that was of no use. -/
theorem tryEntry_of_refuses (h : Refuses out s kind text fault) :
    ∃ calls, tryEntry out kind text s = (.error fault, { s with calls }) := by
  cases h with
  | size h =>
      refine ⟨s.calls, tryEntry_of_error ?_⟩
      rw [entryRequest_resize, h]
      rfl
  | address h =>
      refine ⟨s.calls, tryEntry_of_error ?_⟩
      rw [entryRequest_connect, h]
      rfl
  | @host _ target _ h hopen =>
      have hrequest : entryRequest .connect text = .ok (.connect target) := by
        rw [entryRequest_connect, h]
        rfl
      rw [tryEntry_of_ok hrequest]
      exact ⟨_, Session.connect_of_openFault? hopen⟩
  | unreadable h =>
      rw [tryEntry_of_ok rfl, Session.perform, Session.sendFile, h]
      exact ⟨s.calls, rfl⟩
  | unlinked h hlink =>
      rw [tryEntry_of_ok rfl, Session.perform, Session.sendFile, h]
      exact ⟨s.calls, Session.send_of_unlinked hlink _⟩
  | unwritten h hlink hwrite =>
      rw [tryEntry_of_ok rfl, Session.perform, Session.sendFile, h]
      exact ⟨s.calls, Session.send_of_writeFault? hlink hwrite _⟩
  | uncreatable h =>
      rw [tryEntry_of_ok rfl, Session.perform, Session.startCapture, h]
      exact ⟨s.calls, rfl⟩
  | template h =>
      rw [tryEntry_of_ok rfl, Session.perform, Session.loadTemplate, h]
      exact ⟨s.calls, rfl⟩

/-- An entry that nothing stands in the way of is carried out. -/
theorem tryEntry_of_not_refuses (hreader : out.readerFault? = none)
    (h : ∀ fault, ¬Refuses out s kind text fault) :
    ∃ request, entryRequest kind text = .ok request ∧ (s.perform out request).1 = .ok () := by
  cases kind with
  | resize =>
      cases hparse : ScreenSize.parse text with
      | error fault => exact absurd (.size hparse) (h fault)
      | ok size =>
          refine ⟨.resize size, ?_, rfl⟩
          rw [entryRequest_resize, hparse]
          rfl
  | connect =>
      cases hparse : Target.parse text with
      | error fault => exact absurd (.address hparse) (h fault)
      | ok target =>
          cases hopen : out.openFault? (some target) with
          | some fault => exact absurd (.host hparse hopen) (h fault)
          | none =>
              refine ⟨.connect target, ?_, Session.connect_of_openFault?_eq_none hreader hopen⟩
              rw [entryRequest_connect, hparse]
              rfl
  | sendFile =>
      refine ⟨.sendFile text, rfl, ?_⟩
      rw [Session.perform, Session.sendFile]
      cases hread : s.files.read text with
      | error cause => exact absurd (.unreadable hread) (h _)
      | ok bytes =>
          cases hlink : s.link with
          | none => exact absurd (.unlinked hread hlink) (h _)
          | some l =>
              cases hwrite : out.writeFault? with
              | some fault => exact absurd (.unwritten hread hlink hwrite) (h fault)
              | none => exact Session.send_of_writeFault?_eq_none hlink hwrite bytes
  | capture =>
      refine ⟨.startCapture text, rfl, ?_⟩
      rw [Session.perform, Session.startCapture]
      cases hcreate : s.files.openForWriting text false with
      | error cause => exact absurd (.uncreatable hcreate) (h _)
      | ok created => rfl
  | template =>
      refine ⟨.loadTemplate text, rfl, ?_⟩
      rw [Session.perform, Session.loadTemplate]
      cases hload : Template.load s.files text with
      | error fault => exact absurd (.template hload) (h fault)
      | ok t => rfl

/-! ### The enter key -/

def entryText (d : View.Dialog) : String := String.ofList (Text.trim d.field.text)

variable {d : View.Dialog}

theorem enter_eq (out : Outside) (d : View.Dialog) (w : Window) (s : Session) :
    enter out d w s =
      match tryEntry out d.kind (entryText d) s with
      | (.ok (), s') => ({ w with message := entryMessage d.kind (entryText d) }.closeDialog, s')
      | (.error fault, s') =>
        ({ w with dialog := some { d with error := some fault.message } }, s') := by
  rw [enter, tryEntry, ← entryText]
  cases entryRequest d.kind (entryText d) with
  | error fault => rfl
  | ok request =>
      dsimp only
      rcases s.perform out request with ⟨_ | _, s'⟩
      · rfl
      · rfl

variable {w w' : Window} {k : Input.KeyEvent}

theorem key_enter (hdialog : w.dialog = some d) (hk : k.code = .enter) (out : Outside)
    (now : Nat) (s : Session) : w.key out now k s = enter out d w s := by
  rw [Window.key, hdialog]
  dsimp only [dialogKey]
  rw [hk]

theorem key_enter_of_refuses (hdialog : w.dialog = some d) (hk : k.code = .enter)
    (h : Refuses out s d.kind (entryText d) fault) (now : Nat) :
    ∃ calls, w.key out now k s =
      ({ w with dialog := some { d with error := some fault.message } }, { s with calls }) := by
  rcases tryEntry_of_refuses h with ⟨calls, htry⟩
  refine ⟨calls, ?_⟩
  rw [key_enter hdialog hk, enter_eq, htry]

theorem key_enter_of_not_refuses (hdialog : w.dialog = some d) (hk : k.code = .enter)
    (hreader : out.readerFault? = none) (h : ∀ fault, ¬Refuses out s d.kind (entryText d) fault)
    (now : Nat) :
    ∃ request s', entryRequest d.kind (entryText d) = .ok request ∧
      s.perform out request = (.ok (), s') ∧ w.key out now k s =
        ({ w with message := entryMessage d.kind (entryText d) }.closeDialog, s') := by
  rcases tryEntry_of_not_refuses hreader h with ⟨request, hrequest, hok⟩
  have hperform : s.perform out request = (.ok (), (s.perform out request).2) :=
    Prod.ext hok rfl
  refine ⟨request, _, hrequest, hperform, ?_⟩
  rw [key_enter hdialog hk, enter_eq, tryEntry_of_ok hrequest, hperform]

/-- Whatever has happened to a window in which a dialog is open, and whatever
text the dialog has, the enter key does one of two things. If something stands in
the way of the entry, the dialog stays open with the same text and cursor and
says why, the mode and the message stay, and so does the session but for a try to
open a link. If nothing does, and a new link hands out its reader, the entry is
carried out and the dialog closed. -/
theorem enter_of_run {s₀ : Session} {events : List Event} (hrun : run (fresh, s₀) events = (w, s))
    (hdialog : w.dialog = some d) {now : Nat} (hk : k.code = .enter)
    (hkey : w.key out now k s = (w', s')) :
    (∀ fault, Refuses out s d.kind (entryText d) fault →
      w' = { w with dialog := some { d with error := some fault.message } } ∧
        w'.mode = .dialog ∧ s' = { s with calls := s'.calls }) ∧
    ((∀ fault, ¬Refuses out s d.kind (entryText d) fault) → out.readerFault? = none →
      (∃ request, entryRequest d.kind (entryText d) = .ok request ∧
        s.perform out request = (.ok (), s')) ∧
      w'.dialog = none ∧ w'.mode = .normal ∧
        w'.message = entryMessage d.kind (entryText d)) := by
  have hcoherent : w.Coherent := by
    have hreached : (run (fresh, s₀) events).1.Coherent := coherent_run coherent_fresh events
    rwa [hrun] at hreached
  have hmode : w.mode = .dialog := by
    apply hcoherent.dialog.mp
    rw [hdialog]
    rfl
  constructor
  · intro fault hrefuses
    rcases key_enter_of_refuses hdialog hk hrefuses now with ⟨calls, hopen⟩
    cases hkey.symm.trans hopen
    exact ⟨rfl, hmode, rfl⟩
  · intro hno hreader
    rcases key_enter_of_not_refuses hdialog hk hreader hno now with
      ⟨request, t, hrequest, hperform, hclosed⟩
    cases hkey.symm.trans hclosed
    exact ⟨⟨request, hrequest, hperform⟩, rfl, rfl, rfl⟩

/-- The dialog for a host is opened, and a name is typed. -/
def hostTyped : List Event :=
  [.key .fair 0 leadKey, .key .fair 10 (.ofChar 'c'), .key .fair 20 (.ofChar 'h')]

def enterKey : Input.KeyEvent := ⟨.enter, false, false, false⟩

/-- The host does not answer, and then it does. -/
theorem enter_of_run_hostTyped :
    let p := run (fresh, Session.fresh) hostTyped
    let q := p.1.key Session.refusing 30 enterKey p.2
    let r := q.1.key .fair 40 enterKey q.2
    p.1.mode = .dialog ∧ q.1.mode = .dialog ∧ q.1.message = p.1.message ∧
      q.2.link = p.2.link ∧ q.2.encoder = p.2.encoder ∧ r.1.mode = .normal := by
  intro p q r
  let d : View.Dialog := ⟨.connect, ⟨['h'], 1⟩, none⟩
  have hparse : Target.parse (entryText d) = .ok (.telnet "h" 23) := by decide +kernel
  have hopened : p.1.dialog = some d := by decide +kernel
  have hmode : p.1.mode = .dialog := by decide +kernel
  have hrefuses : Refuses Session.refusing p.2 .connect (entryText d) .notConnected :=
    .host hparse rfl
  have hno : ∀ fault, ¬Refuses .fair q.2 .connect (entryText d) fault := by
    rintro fault (_ | h | ⟨-, hopen⟩)
    · cases hparse.symm.trans h
    · cases hopen
  have hk : enterKey.code = .enter := rfl
  have hp : run (fresh, Session.fresh) hostTyped = (p.1, p.2) := rfl
  have hq : p.1.key Session.refusing 30 enterKey p.2 = (q.1, q.2) := rfl
  have hr : q.1.key .fair 40 enterKey q.2 = (r.1, r.2) := rfl
  rcases enter_of_run hp hopened hk hq with ⟨hrefused, -⟩
  rcases hrefused _ hrefuses with ⟨hstays, hmode', hsession⟩
  have hp' : run (fresh, Session.fresh) (hostTyped ++ [.key Session.refusing 30 enterKey]) =
      (q.1, q.2) := List.foldl_append
  have hopened' : q.1.dialog = some { d with error := some Fault.notConnected.message } := by
    rw [hstays]
  rcases enter_of_run hp' hopened' hk hr with ⟨-, hconnected⟩
  rcases hconnected hno rfl with ⟨-, -, hclosed, -⟩
  refine ⟨hmode, hmode', ?_, ?_, ?_, hclosed⟩
  · rw [hstays]
  · rw [hsession]
  · rw [hsession]

end Window

end DasherTerminal
