import DasherTerminal.Input.Action
import DasherTerminal.Input.KeyEvent

/-!
# Reading the keyboard

Keys go to the host, unless the prefix key came before them, or a dialog, the
history or the help page is open. The prefix key waits one second for a
command; after that it is sent itself. Times are in milliseconds.
-/

namespace DasherTerminal.Input

/-- Who gets the next key. -/
inductive Mode where
  | normal
  /-- The prefix key came at this time. -/
  | waiting (since : Nat)
  | dialog
  | history
  | help
  deriving DecidableEq, Repr

def leadByte : UInt8 := 0o35

def leadTimeout : Nat := 1000

def command? : Char → Option Action
  | 'q' => some .quit
  | 't' => some (.request .selfTest)
  | 'h' => some .showHistory
  | 'e' => some (.request .cycleModel)
  | 'b' => some (.request .toggleBlink)
  | 'r' => some (.openDialog .resize)
  | 'c' => some (.openDialog .connect)
  | 'R' => some (.request .reconnect)
  | 'd' => some (.request .disconnect)
  | 's' => some (.openDialog .sendFile)
  | 'l' => some .toggleCapture
  | 'k' => some (.openDialog .template)
  | '?' => some .showHelp
  | _ => none

def afterLead? (k : KeyEvent) : Option Action :=
  if k.isLead then some (.request (.sendBytes [leadByte]))
  else if k.ctrl then none
  else
    match k.code with
    | .char c => command? c
    | _ => none

def inHistory? (k : KeyEvent) : Option Action :=
  match k.code with
  | .up | .char 'k' => some (.moveHistory (.up 1))
  | .down | .char 'j' => some (.moveHistory (.down 1))
  | .pageUp => some (.moveHistory .pageUp)
  | .pageDown => some (.moveHistory .pageDown)
  | .home | .char 'g' => some (.moveHistory .top)
  | .end | .char 'G' => some (.moveHistory .bottom)
  | .escape | .char 'q' => some .closeHistory
  | _ => none

def closesHelp (k : KeyEvent) : Bool :=
  k.code = .escape || k.code = .char '?' || k.code = .char 'q'

namespace Mode

/-- Take a key at a time: the next mode and what is asked for. -/
def key (m : Mode) (now : Nat) (k : KeyEvent) : Mode × Option Action :=
  match m with
  | .normal =>
    if k.isLead then (.waiting now, none)
    else (.normal, k.key?.map fun key => .request (.sendKey key))
  | .waiting _ => (.normal, afterLead? k)
  | .dialog => (.dialog, none)
  | .history =>
    let action := inHistory? k
    (if action = some .closeHistory then .normal else .history, action)
  | .help => (if closesHelp k then .normal else .help, none)

/-- Look at the clock: a prefix key that has waited too long is sent. -/
def tick (m : Mode) (now : Nat) : Mode × Option Action :=
  match m with
  | .waiting since =>
    if leadTimeout < now - since then (.normal, some (.request (.sendBytes [leadByte])))
    else (m, none)
  | m => (m, none)

end Mode

end DasherTerminal.Input
