import DasherTerminal.Input.Mode
import DasherTerminal.Session.Basic
import DasherTerminal.View.Crt
import DasherTerminal.View.Scrollback

/-!
# The window

What the user sees beside the terminal: a dialog, the history or the help page
over the screen, and a message in the status line. Keys are read here and turned
into requests to the session.
-/

namespace DasherTerminal

structure Window where
  mode : Input.Mode
  dialog : Option View.Dialog
  history : Option View.Scrollback
  replica : Replica
  message : Option String
  /-- How many lines a page of the history has. -/
  historyPage : Nat
  quit : Bool
  deriving DecidableEq, Repr

namespace Window

def fresh : Window := ⟨.normal, none, none, .unsynced, none, 1, false⟩

instance : Inhabited Window := ⟨fresh⟩

def openDialog (w : Window) (d : View.Dialog) : Window :=
  { w with dialog := some d, mode := .dialog }

def closeDialog (w : Window) : Window := { w with dialog := none, mode := .normal }

def report (w : Window) (result : Except Fault Unit) : Window :=
  match result with
  | .ok () => w
  | .error fault => { w with message := some fault.message }

def moveHistory (w : Window) (move : HistoryMove) : Window :=
  { w with history := w.history.map fun h =>
      match move with
      | .up n => h.scrollUp n
      | .down n => h.scrollDown n
      | .pageUp => h.scrollUp w.historyPage
      | .pageDown => h.scrollDown w.historyPage
      | .top => h.top
      | .bottom => h.bottom }

/-- The text that a dialog of some kind starts with: the size of the screen, or
the last telnet host. -/
def initialText (s : Session) : View.DialogKind → String
  | .resize => s.terminal.screen.size.text
  | .connect =>
    match s.lastTarget with
    | some (.telnet host port) => (Target.telnet host port).text
    | _ => ""
  | _ => ""

def entryRequest (kind : View.DialogKind) (text : String) : Except Fault Request :=
  match kind with
  | .resize => (ScreenSize.parse text).map .resize
  | .connect => (Target.parse text).map .connect
  | .sendFile => .ok (.sendFile text)
  | .capture => .ok (.startCapture text)
  | .template => .ok (.loadTemplate text)

def entryMessage (kind : View.DialogKind) (text : String) : Option String :=
  match kind with
  | .resize => none
  | .connect => none
  | .sendFile => some s!"Sent {text}"
  | .capture => some s!"Capturing to {text}"
  | .template => some s!"Loaded key template {text}"

/-- The entry of a dialog is tried. If it is refused the dialog stays open and
says why. -/
def enter (out : Outside) (d : View.Dialog) (w : Window) (s : Session) : Window × Session :=
  let text := String.ofList (Text.trim d.field.text)
  let (result, s) :=
    match entryRequest d.kind text with
    | .ok request => s.perform out request
    | .error fault => (.error fault, s)
  match result with
  | .ok () => ({ w with message := entryMessage d.kind text }.closeDialog, s)
  | .error fault => ({ w with dialog := some { d with error := some fault.message } }, s)

def dialogKey (out : Outside) (k : Input.KeyEvent) (d : View.Dialog) (w : Window) (s : Session) :
    Window × Session :=
  let edit (f : View.TextField) : Window × Session :=
    ({ w with dialog := some { d with field := f } }, s)
  match k.code with
  | .char c => edit (d.field.insert c)
  | .backspace => edit d.field.backspace
  | .left => edit d.field.left
  | .right => edit d.field.right
  | .escape => (w.closeDialog, s)
  | .enter => enter out d w s
  | _ => (w, s)

def act (out : Outside) (a : Action) (w : Window) (s : Session) : Window × Session :=
  match a with
  | .request r =>
    let (result, s) := s.perform out r
    ({ w with message := none }.report result, s)
  | .quit => ({ w with quit := true }, s)
  | .openDialog kind => (w.openDialog (.ofText kind (initialText s kind)), s)
  | .toggleCapture =>
    if s.isCapturing then ({ w with message := some "Capture stopped" }, s.stopCapture)
    else (w.openDialog (.ofText .capture ""), s)
  | .showHistory => ({ w with history := some (.ofLines s.historyLines), mode := .history }, s)
  | .moveHistory move => (w.moveHistory move, s)
  | .closeHistory => ({ w with history := none }, s)
  | .showHelp => ({ w with mode := .help }, s)

def key (out : Outside) (now : Nat) (k : Input.KeyEvent) (w : Window) (s : Session) :
    Window × Session :=
  match w.dialog with
  | some d => dialogKey out k d w s
  | none =>
    match w.mode.key now k with
    | (mode, some action) => act out action { w with mode } s
    | (mode, none) => ({ w with mode }, s)

def tick (out : Outside) (now : Nat) (w : Window) (s : Session) : Window × Session :=
  match w.mode.tick now with
  | (mode, some (.request r)) =>
    let (result, s) := s.perform out r
    ({ w with mode }.report result, s)
  | (mode, _) => ({ w with mode }, s)

def poll (out : Outside) (w : Window) (s : Session) : Window × Session :=
  let (result, s) := s.perform out .poll
  (w.report result, s)

/-- Bring the renderer's copy of the screen up to date. Gives the number of
cells that changed. -/
def sync (w : Window) (s : Session) : Nat × Window × Session :=
  let (replica, screen, changed) := w.replica.sync s.terminal.screen
  (changed, { w with replica }, s.mapScreen fun _ => screen)

def takeNotices (s : Session) : List Notification × Session := (s.notices, { s with notices := [] })

end Window

end DasherTerminal
