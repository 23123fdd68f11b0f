import DasherTerminal.Shell.Execution

/-!
# The course of a program

What a program shows on a console until it ends or has to wait for something that
does not happen.
-/

namespace DasherTerminal.Shell

/-- The world in which a program starts: an empty console, and the kind of terminal
as the only thing it is told. -/
def World.initial (name : Chars) (size : ScreenSize) (future : List Stimulus) : World :=
  let kind := ("TERM".toList, ⟨some "d210".toList, true, false⟩)
  { console := .fresh size, future, files := .empty, texts := [], caught := [], jobs := []
    shell := .initial name [kind] [(0, .console), (1, .console), (2, .console)] [] }

def nestingLimit : Nat := 1000

structure Course where
  /-- What it showed, and what was echoed. -/
  output : Array UInt8
  /-- What it waits for; nothing if it has ended. -/
  pause : Option Halt

def Course.of (program : String) (name : String) (arguments : List String) (size : ScreenSize)
    (future : List Stimulus) : Course :=
  let name := Chars.ofString name
  let action := Run.start (Run.execute nestingLimit) nestingLimit program name
    (arguments.map Chars.ofString)
  let (result, w) := action.run.run (.initial name size future)
  { output := w.console.output
    pause :=
      match result with
      | .error .waiting => some .waiting
      | .error .asleep => some .asleep
      | _ => none }

end DasherTerminal.Shell
