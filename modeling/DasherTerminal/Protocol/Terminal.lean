import DasherTerminal.Protocol.Decoder
import DasherTerminal.Protocol.SelfTest
import DasherTerminal.Screen.Snapshot

/-!
# The terminal

A screen driven by one decoder.
-/

namespace DasherTerminal

structure Terminal where
  screen : Screen
  decoder : Decoder
  deriving DecidableEq, Repr

namespace Terminal

structure Setup where
  size : ScreenSize
  model : Model
  policy : AttributeOffPolicy
  historyCapacity : Nat
  blinkEnabled : Bool
  deriving DecidableEq, Repr

def Setup.default : Setup := ⟨.default, .default, .resetAll, defaultHistoryCapacity, true⟩

instance : Inhabited Setup := ⟨.default⟩

def fresh (setup : Setup) : Terminal :=
  { screen := (Screen.empty setup.size setup.model (.empty setup.historyCapacity)).setBlinkEnabled
      setup.blinkEnabled
    decoder := .fresh setup.policy }

def process (t : Terminal) (bytes : List UInt8) : Terminal :=
  let (decoder, screen) := t.decoder.run t.screen bytes
  { screen, decoder }

def mapScreen (t : Terminal) (f : Screen → Screen) : Terminal := { t with screen := f t.screen }

def drainNotifications (t : Terminal) : List Notification × Terminal :=
  (t.decoder.notifications, { t with decoder := { t.decoder with notifications := [] } })

def drainResponses (t : Terminal) : List (List UInt8) × Terminal :=
  (t.decoder.responses, { t with decoder := { t.decoder with responses := [] } })

/-- Run the self-test pattern from an idle decoder. The blink setting survives
it, and both queues are empty afterwards. -/
def selfTest (t : Terminal) : Terminal :=
  let blinkEnabled := t.screen.blinkEnabled
  let start : Terminal := { t with decoder := t.decoder.reset }
  let done := start.process (SelfTest.stream t.screen.size t.screen.model)
  { screen := done.screen.setBlinkEnabled blinkEnabled
    decoder := { done.decoder with notifications := [], responses := [] } }

/-- The lines of the screen without the blanks at their ends. -/
def screenText (t : Terminal) : String :=
  String.intercalate "\n" (t.screen.rowTexts.map fun row =>
    String.ofList (Text.trimRight row.toList))

/-- How a stream is cut into deliveries makes no difference. -/
theorem process_append (t : Terminal) (a b : List UInt8) :
    t.process (a ++ b) = (t.process a).process b := by
  simp [process, Decoder.run_append]

end Terminal

end DasherTerminal
