import DasherTerminal.CommandLine.Arguments
import DasherTerminal.Keyboard.Template
import DasherTerminal.Link.Target
import DasherTerminal.Protocol.Terminal

/-!
# Configuration

What a command line asks for, checked against what the terminal can do.
-/

namespace DasherTerminal.CommandLine

structure Configuration where
  setup : Terminal.Setup
  template : Option Template
  target : Option Target
  capture : Option String
  selfTest : Bool
  deriving DecidableEq, Repr

namespace Arguments

def target (a : Arguments) : Except Fault (Option Target) :=
  match a.host, a.command with
  | some host, _ => (Target.parse host).map some
  | none, some command => .ok (some (.program command))
  | none, none => .ok none

/-- Check what the command line asks for. The size comes first, then the model,
the attribute codes, the target and last the template. -/
def configure (a : Arguments) (files : Files) : Except Fault Configuration := do
  let size ← ScreenSize.make a.columns a.lines
  let model ← Model.parse a.emulation
  let policy ← AttributeOffPolicy.parse a.attributeOff
  let target ← a.target
  let template ← a.template.mapM (Template.load files)
  return { setup := ⟨size, model, policy, a.history, !a.noBlink⟩
           template, target, capture := a.capture, selfTest := a.selfTest }

end Arguments

end DasherTerminal.CommandLine
