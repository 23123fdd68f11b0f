import DasherTerminal.Shell.Script

/-!
# The interactive shell

A shell that asks for each command. It asks for more lines as long as a command is
not finished, and goes on after faults.
-/

namespace DasherTerminal.Shell

inductive Request where
  | command (c : Command) (after : Source)
  | refused (line : Nat) (fault : SyntaxFault)
  | ending
  /-- A signal came instead. -/
  | interrupted

namespace Request

/-- What some lines ask for. Nothing if more lines are needed and can come. -/
def ofSource (s : Source) (isLast : Bool) : Option Request :=
  match Run.nextCommand s with
  | .error (line, fault) => if fault.isOpen && !isLast then none else some (.refused line fault)
  | .ok none => if isLast then some .ending else none
  | .ok (some (c, after)) =>
    match after.pending with
    | some .ending => if isLast then some (.command c after) else none
    | _ => if after.isOpen && !isLast then none else some (.command c after)

end Request

namespace Run

def ask (inner : Inner) (depth : Nat) (name : String) : Run Unit := do
  emit 2 (← legend inner depth name)

/-- Ask for a command, and for more lines as long as it is not finished. -/
def request (inner : Inner) (depth : Nat) (source : Source) : Run Request := do
  ask inner depth "PS1"
  go (← Builtin.inputBound) source.rest
where
  /-- The same after some text, with at most so many more lines. -/
  go : Nat → Chars → Run Request
    | 0, _ => throw .exhausted
    | n + 1, rest => do
      let source := { source with rest, pending := none, isOpen := false }
      match Request.ofSource source false with
      | some r => return r
      | none =>
        if !rest.isEmpty then ask inner depth "PS2"
        match ← read .shell 0 0x20000 with
        | none => return .interrupted
        | some [] => return (Request.ofSource source true).getD .ending
        | some more => go n (rest ++ more)

/-- Go on after something that ended a command, unless it ends the shell. -/
def recover (before : State) (h : Halt) : Run Unit := do
  change fun s => { s with
    descriptors := before.descriptors, locals := before.locals, command := none
    inFunction := false, loops := 0 }
  match h with
  | .killed "INT" =>
    emit 2 ['\n']
    setStatus 130
  | .failed => pure ()
  | _ => throw h

def converse (inner : Inner) (depth : Nat) : Run Unit := do
  go (2 * (← Builtin.inputBound)) (.ofChars [] 1)
where
  /-- The same with at most so many commands. -/
  go : Nat → Source → Run Unit
    | 0, _ => throw .exhausted
    | n + 1, source => do
      doJobs inner
      let before ← shell
      let line := source.line
      let after ←
        try
          match ← request inner depth source with
          | .ending =>
            emit 2 ['\n']
            pure none
          | .interrupted =>
            answerTraps inner
            emit 2 ['\n']
            pure (some (.ofChars [] (line + 1)))
          | .refused line fault =>
            change fun s => { s with line }
            complain ("Syntax error: " ++ fault.message).toList
            setStatus 2
            pure (some (.ofChars [] line))
          | .command c after =>
            match c with
            | .nothing => pure ()
            | _ =>
              try
                inner false c
              catch h =>
                recover before h
            pure (some after)
        catch h =>
          recover before h
          pure (some (.ofChars [] (line + 1)))
      match after with
      | some after => go n after
      | none => pure ()

end Run

end DasherTerminal.Shell
