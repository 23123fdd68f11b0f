import DasherTerminal.Link.Target

/-!
# Connection status and notifications
-/

namespace DasherTerminal

/-- What feeds the screen. -/
inductive LinkKind where
  /-- No host: what is typed is echoed. -/
  | loopback
  | telnet
  | program
  deriving DecidableEq, Repr

structure LinkStatus where
  kind : LinkKind
  label : String
  deriving DecidableEq, Repr

namespace LinkStatus

def offline : LinkStatus := ⟨.loopback, ""⟩

def ofTarget (t : Target) : LinkStatus :=
  ⟨match t with
    | .telnet _ _ => .telnet
    | .program _ => .program, t.label⟩

def isOnline (s : LinkStatus) : Bool := s.kind != .loopback

def icon (s : LinkStatus) : String := if s.isOnline then "●" else "○"

def text (s : LinkStatus) : String :=
  match s.kind with
  | .loopback => "Local (Offline)"
  | .telnet => "Online (Telnet) " ++ s.label
  | .program => "Online (Process) " ++ s.label

end LinkStatus

/-- What the terminal tells the user rather than the screen. -/
inductive Notification where
  | bell
  deriving DecidableEq, Repr

namespace Notification

def summary : Notification → String
  | .bell => "Bell"

/-- The bytes that make the user's own console notice. -/
def consoleBytes : Notification → List UInt8
  | .bell => [0o07]

end Notification

end DasherTerminal
