import DasherTerminal.Keyboard.Key
import DasherTerminal.Link.Target
import DasherTerminal.Screen.Size
import DasherTerminal.View.Dialog

/-!
# What the user can ask for
-/

namespace DasherTerminal

inductive Request where
  | sendKey (key : Key)
  | sendBytes (bytes : List UInt8)
  | poll
  | selfTest
  | cycleModel
  | toggleBlink
  | resize (size : ScreenSize)
  | connect (target : Target)
  | reconnect
  | disconnect
  | sendFile (path : String)
  | startCapture (path : String)
  | stopCapture
  | loadTemplate (path : String)
  deriving DecidableEq, Repr

inductive HistoryMove where
  | up (lines : Nat)
  | down (lines : Nat)
  | pageUp
  | pageDown
  | top
  | bottom
  deriving DecidableEq, Repr

inductive Action where
  | request (r : Request)
  | quit
  | openDialog (kind : View.DialogKind)
  /-- Stop the capture, or ask where to capture to. -/
  | toggleCapture
  | showHistory
  | moveHistory (move : HistoryMove)
  | closeHistory
  | showHelp
  deriving DecidableEq, Repr

end DasherTerminal
