import DasherTerminal.Fault
import DasherTerminal.Link.Target
import DasherTerminal.Screen.Size

/-!
# The outside world

A session acts on links and cannot know how that turns out. Which of its calls
go wrong is given from outside; what it called is recorded.
-/

namespace DasherTerminal

/-- How calls on links turn out. -/
structure Outside where
  /-- What goes wrong when a link to a target, or a loopback, is opened. -/
  openFault? : Option Target → Option Fault
  /-- What goes wrong when the reader of a new link is taken. -/
  readerFault? : Option Fault
  writeFault? : Option Fault
  /-- Whether a host takes notice of a new screen size. -/
  resizeWorks : Bool

def Outside.fair : Outside := ⟨fun _ => none, none, none, true⟩

/-- A call that a session made. Links are numbered in the order they were
opened. -/
inductive Call where
  /-- A try to open a link to a target, or a loopback, for a screen size. -/
  | open (target : Option Target) (size : ScreenSize)
  | write (link : Nat) (bytes : List UInt8)
  | resize (link : Nat) (size : ScreenSize)
  | close (link : Nat)
  deriving DecidableEq, Repr

end DasherTerminal
