import DasherTerminal.Shell.Calling

/-!
# Doing commands

What each command does, given how commands inside of it are done. The knot is
tied with fuel: a command inside of another is done with less of it.
-/

namespace DasherTerminal.Shell

namespace Run

/-! ### Simple commands -/

/-- Do a simple command: expand its words, redirect, assign, and do what its name
says. -/
def simple (inner : Inner) (depth line : Nat) (assignments : List (Chars × Word))
    (words : List Word) (redirections : List Redirection) : Run Unit := do
  change fun s => { s with line, taken := none }
  let expanded ← fields (output inner) depth words
  let isSpecial := Builtin.isSpecial (expanded.headD [])
  let before := (← shell).descriptors
  let redirected ← redirectAll inner depth redirections
  if !redirected then
    change fun s => { s with descriptors := before }
    setStatus 2
    if isSpecial && !expanded.isEmpty then throw .failed
    return
  if expanded.isEmpty then
    let mut values := []
    for (name, word) in assignments do
      let value ← text (output inner) depth word
      assign name value
      values := (name, value) :: values
    if !values.isEmpty then trace inner depth values.reverse []
    change fun s => { s with descriptors := before }
    setStatus ((← shell).taken.getD 0)
  else
    let values ← assignments.mapM fun (name, word) => do
      return (name, ← text (output inner) depth word)
    trace inner depth values expanded
    invoke inner depth ⟨true, true⟩ values expanded
    if expanded ≠ ["exec".toList] then change fun s => { s with descriptors := before }

/-! ### Compound commands -/

/-- Do the body of a loop. Tells whether the loop goes on. -/
def turn (action : Run Unit) : Run Bool := do
  change fun s => { s with loops := s.loops + 1 }
  let goesOn ←
    try
      action
      pure true
    catch h =>
      match h with
      | .left n => if n ≤ 1 then pure false else throw (.left (n - 1))
      | .next n => if n ≤ 1 then pure true else throw (.next (n - 1))
      | _ => throw h
  change fun s => { s with loops := s.loops - 1 }
  return goesOn

def turnLimit : Nat := 100000

def repeatWhile (inner : Inner) (untilSuccess : Bool) (test body : Command) : Run Unit := do
  go turnLimit 0
where
  /-- The same with at most so many turns, after one that gave a status. -/
  go : Nat → Nat → Run Unit
    | 0, _ => throw .exhausted
    | n + 1, status => do
      let mut wanted := false
      let goesOn ← turn (inner true test)
      if goesOn then
        wanted := ((← shell).status = 0) != untilSuccess
      if !wanted then
        setStatus status
        return
      if ← turn (inner false body) then go n (← shell).status

def repeatFor (inner : Inner) (name : Chars) (body : Command) : List Chars → Run Unit
  | [] => pure ()
  | value :: values => do
    assign name value
    if ← turn (inner false body) then repeatFor inner name body values

/-- Whether a command does nothing but show its input. -/
def isCopier (c : Command) : Bool :=
  match c with
  | .simple _ [] [[.text ['c', 'a', 't'] false]] [] => true
  | .simple _ [] [[.text cs false]] [] => cs = "/bin/cat".toList || cs = "/usr/bin/cat".toList
  | _ => false

/-- Do commands one after another, each with the output of the one before as its
input. One that only shows its input is left out beside another, so that what is
typed goes through at once. -/
def pipe (inner : Inner) : List Command → Run Unit
  | [] => pure ()
  | [c] => apart (inner false c)
  | c :: rest => do
    if isCopier c && (← channel? 0) = some .console then pipe inner rest
    else if rest.all isCopier then
      apart (inner false c)
      setStatus 0
    else
      let number ← newText []
      keepingDescriptors do
        apart do
          connect 1 (some (.text number))
          inner false c
        connect 0 (some (.text number))
        pipe inner rest

def chooseBranch (inner : Inner) (depth : Nat) (subject : Chars) : List Branch → Run Unit
  | [] => setStatus 0
  | .on patterns body :: rest => do
    let isMatch ← patterns.anyM fun p => do
      return Pattern.isMatch (← pattern (output inner) depth p) subject
    if isMatch then inner false body else chooseBranch inner depth subject rest

def redirected (inner : Inner) (depth line : Nat) (rs : List Redirection) (action : Run Unit) :
    Run Unit := do
  change fun s => { s with line }
  keepingDescriptors do
    if ← redirectAll inner depth rs then action else setStatus 2

/-- End the shell after a command that failed, if the options say so. -/
def checkStatus (tested : Bool) : Run Unit := do
  if !tested && (← hasOption 'e') && (← shell).status ≠ 0 then throw .ended

/-- Do a command, given how the commands inside of it are done. -/
def perform (inner : Inner) (depth : Nat) (tested : Bool) (c : Command) : Run Unit := do
  match c with
  | .nothing => setStatus 0
  | .simple line assignments words redirections =>
    simple inner depth line assignments words redirections
    answerTraps inner
    checkStatus tested
  | .pipe commands =>
    pipe inner commands
    checkStatus tested
  | .negated c =>
    inner true c
    setStatus (if (← shell).status = 0 then 1 else 0)
  | .both a b =>
    inner true a
    if (← shell).status = 0 then inner tested b
  | .either a b =>
    inner true a
    if (← shell).status ≠ 0 then inner tested b
  | .sequence a b =>
    inner tested a
    inner tested b
  | .background c =>
    let s ← shell
    let quiet := { s with
      descriptors := (0, Channel.sink) :: s.descriptors.filter (·.1 ≠ 0)
      traps := s.traps.filter (·.2.isEmpty) }
    modify fun w => { w with jobs := w.jobs ++ [(quiet, c)] }
    setStatus 0
  | .redirected line c rs => redirected inner depth line rs (inner tested c)
  | .subshell line c rs =>
    redirected inner depth line rs <| apart do
      change fun s => { s with traps := s.traps.filter (·.2.isEmpty) }
      inner tested c
      finish inner
    checkStatus tested
  | .repeated untilSuccess test body => repeatWhile inner untilSuccess test body
  | .forEach line name words body =>
    change fun s => { s with line }
    let values ← fields (output inner) depth words
    setStatus 0
    repeatFor inner name body values
  | .choice test success failure =>
    inner true test
    if (← shell).status = 0 then inner tested success
    else
      match failure with
      | .nothing => setStatus 0
      | _ => inner tested failure
  | .byPattern line subject branches =>
    change fun s => { s with line }
    let subject ← text (output inner) depth subject
    chooseBranch inner depth subject branches
  | .define name body =>
    change fun s => { s with functions := (name, body) :: s.functions.filter (·.1 ≠ name) }
    setStatus 0

def execute : Nat → Bool → Command → Run Unit
  | 0, _, _ => throw .exhausted
  | n + 1, tested, c => perform (execute n) n tested c

end Run

end DasherTerminal.Shell
