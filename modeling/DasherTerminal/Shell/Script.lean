import DasherTerminal.Shell.Builtin
import DasherTerminal.Shell.Expansion
import DasherTerminal.Shell.Grammar

/-!
# Doing scripts

Scripts are done command by command, and each command as soon as it is read. How
a command is done is given.
-/

namespace DasherTerminal.Shell

namespace Run

/-- How a command inside is done, and whether its status is asked for by another
command. -/
abbrev Inner := Bool → Command → Run Unit

def keepingDescriptors (action : Run Unit) : Run Unit := do
  let before := (← shell).descriptors
  action
  change fun s => { s with descriptors := before }

/-- What a command shows, while it is done in a shell of its own. -/
def output (inner : Inner) (c : Command) : Run Chars := do
  let number ← newText []
  let status := (← shell).status
  apart do
    connect 1 (some (.text number))
    change fun s => { s with traps := s.traps.filter (·.2.isEmpty) }
    inner false c
  let text ← textOf number
  modify fun w => { w with texts := w.texts.filter (·.1 ≠ number) }
  change fun s => { s with taken := some s.status, status }
  return text

/-- The text of a variable that tells how something is shown, with its parameters
replaced. -/
def legend (inner : Inner) (depth : Nat) (name : String) : Run Chars := do
  let value := (← value? name.toList).getD []
  let fuel := value.length + 2
  let list := Reader.inside Builtin.isSpecial fuel (.list .branch)
  match (Reader.pieces list fuel .document).run (.ofChars value 1) with
  | .ok (word, _) =>
    let status := (← shell).status
    let shown ← text (output inner) depth word
    setStatus status
    return shown
  | .error _ => return value

/-! ### Scripts -/

def nextCommand (s : Source) : Except (Nat × SyntaxFault) (Option (Command × Source)) := do
  let fuel := s.rest.length + 2
  let (c, rest) ← (Reader.inside Builtin.isSpecial fuel (.list .line)).run s
  match c, rest.pending with
  | .nothing, some .ending => return none
  | _, _ => return some (c, rest)

/-- Do the commands of a script one after another, each as soon as it is read. -/
def script (inner : Inner) (text : Chars) (line : Nat) : Run Unit := do
  setStatus 0
  go (text.length + 2) (.ofChars text line)
where
  /-- The same with at most so many commands. -/
  go : Nat → Source → Run Unit
    | 0, _ => throw .exhausted
    | n + 1, source => do
      match nextCommand source with
      | .error (line, fault) =>
        change fun s => { s with line }
        fail ("Syntax error: " ++ fault.message).toList 2
      | .ok none => pure ()
      | .ok (some (c, rest)) =>
        match c with
        | .nothing => pure ()
        | _ => inner false c
        go n rest

/-- Do what is set for the signals that were trapped. The status stays. -/
def answerTraps (inner : Inner) : Run Unit := do
  let names := (← get).caught
  modify fun w => { w with caught := [] }
  for name in names do
    match (← shell).traps.lookup name with
    | some action =>
      let status := (← shell).status
      script inner action 1
      setStatus status
    | none => pure ()

def doJobs (inner : Inner) : Run Unit := do
  let jobs := (← get).jobs
  modify fun w => { w with jobs := [] }
  for (state, c) in jobs do
    let status := (← shell).status
    apart do
      change fun _ => state
      inner false c
    setStatus status

/-- What is done when a shell ends: what goes on beside it, and what is set for its
end. -/
def finish (inner : Inner) : Run Unit := do
  doJobs inner
  match (← shell).traps.lookup "EXIT" with
  | some action =>
    let status := (← shell).status
    change fun s => { s with traps := s.traps.filter (·.1 ≠ "EXIT"), inFunction := false }
    script inner action 1
    setStatus status
  | none => pure ()

def toTheEnd (inner : Inner) (action : Run Unit) : Run Unit := do
  try
    action
  catch h =>
    if !h.endsScript then throw h
  try
    finish inner
  catch h =>
    if !h.endsScript then throw h

end Run

end DasherTerminal.Shell
