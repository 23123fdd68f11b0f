import DasherTerminal.Shell.Interactive
import DasherTerminal.Shell.Redirection

/-!
# Calling commands by their names

Functions, the commands of the shell, programs, and the shell itself as a
program.
-/

namespace DasherTerminal.Shell

namespace Run

/-- Do something with variables that have other values only for that. -/
def withValues (values : List (Chars × Chars)) (action : Run Unit) : Run Unit := do
  let before := (← shell).bindings
  for (name, value) in values do
    assign name value
    change fun s => { s with
      bindings := s.bindings.map fun (n, v) =>
        if n = name then (n, { v with exported := true }) else (n, v) }
  action
  for (name, _) in values do
    restore name (before.lookup name)

def call (inner : Inner) (body : Command) (arguments : List Chars) : Run Unit := do
  let before ← shell
  change fun s => { s with arguments, inFunction := true, loops := 0, locals := [] }
  try
    inner false body
  catch h =>
    if h ≠ .returned then throw h
  for (name, old) in (← shell).locals do
    restore name old
  change fun s => { s with
    arguments := before.arguments, inFunction := before.inFunction, loops := before.loops
    locals := before.locals }

/-- Keep in mind which command of the shell is being done. -/
def naming (name : Chars) (action : Run Unit) : Run Unit := do
  let before := (← shell).command
  change fun s => { s with command := some name }
  action
  change fun s => { s with command := before }

def settle (isSpecial : Bool) (outcome : Builtin.Outcome) : Run Unit := do
  match outcome with
  | .ok status => setStatus status
  | .error what =>
    complain what
    setStatus 2
    if isSpecial then throw .failed

/-- The words that a shell is called with: its options, whether a script is among
them, and what follows. -/
def shellWords : Nat → Bool → List Chars → Run (Except Chars (Bool × List Chars))
  | 0, given, words => return .ok (given, words)
  | n + 1, given, words => do
    match words with
    | ['-', '-'] :: rest | ['-'] :: rest => return .ok (given, rest)
    | ('-' :: c :: cs) :: rest =>
      let letters := (c :: cs).filter (· ≠ 'c')
      match letters.find? fun l => !(Builtin.shellOptions.map (·.1)).contains l && l ≠ 'l' with
      | some bad => return .error ("Illegal option -".toList ++ [bad])
      | none =>
        for letter in letters do
          Builtin.setOption letter true
        shellWords n (given || (c :: cs).contains 'c') rest
    | _ => return .ok (given, words)

def readAll (descriptor : Nat) : Run Chars := do
  go (← Builtin.inputBound)
where
  /-- The same in at most so many pieces. -/
  go : Nat → Run Chars
    | 0 => return []
    | n + 1 => do
      match ← read .shell descriptor 0x20000 with
      | none | some [] => return []
      | some text => return text ++ (← go n)

/-- Do the commands that come in, and ask for them if a person types them. -/
def doInput (inner : Inner) (depth : Nat) : Run Unit := do
  let typed := (← channel? 0) = some .console && (← channel? 2) = some .console
  if typed || (← hasOption 'i') then
    for letter in ['s', 'm', 'i'] do
      Builtin.setOption letter true
    converse inner depth
  else script inner (← readAll 0) 1

def runShell (inner : Inner) (depth : Nat) (words : List Chars) : Run Unit := do
  match ← shellWords (words.length + 1) false words with
  | .error what => fail what 2
  | .ok (true, []) => fail "-c requires an argument".toList 2
  | .ok (true, text :: rest) =>
    if let name :: arguments := rest then change fun s => { s with name, arguments }
    toTheEnd inner (script inner text 1)
  | .ok (false, words) =>
    match words, ← hasOption 's' with
    | [], _ | _, true =>
      change fun s => { s with arguments := words }
      toTheEnd inner (doInput inner depth)
    | path :: arguments, false =>
      match ← openInput path with
      | .ok (.text number) =>
        change fun s => { s with name := path, arguments }
        let text ← textOf number
        toTheEnd inner (script inner text 1)
      | .ok _ => pure ()
      | .error fault =>
        fail ("cannot open ".toList ++ path ++ ": ".toList ++ openReason fault false) 2

/-- The programs that wait for something. What goes on beside the shell comes
before that. -/
def waiting : List String := ["cat", "sleep"]

def start (inner : Inner) (depth : Nat) (program : String) (name : Chars)
    (arguments : List Chars) : Run Unit := do
  if program = "sh" ∨ program = "dash" then
    apart do
      change (State.asProgram · name)
      runShell inner depth arguments
  else
    if waiting.contains program then doJobs inner
    try
      setStatus (← Program.body program name arguments)
    catch h =>
      if h = .killed "QUIT" ∧ (← hasOption 'i') then
        emit 2 "Quit\n".toList
        setStatus 131
      else throw h

def runProgram (inner : Inner) (depth : Nat) (name : Chars) (arguments : List Chars) :
    Run Unit := do
  let text := String.ofList name
  let program? :=
    if text.contains '/' then Program.find? text
    else if Program.known.contains text then some text
    else none
  match program? with
  | some program => start inner depth program name arguments
  | none =>
    let found := text.contains '/' && askFile (← get).files 'e' name
    complain (name ++ (if found then ": Permission denied" else ": not found").toList)
    setStatus (if found then 126 else 127)

def trace (inner : Inner) (depth : Nat) (values : List (Chars × Chars)) (words : List Chars) :
    Run Unit := do
  if ← hasOption 'x' then
    let sign ← legend inner depth "PS4"
    let parts := values.map (fun (n, v) => n ++ '=' :: v) ++ words
    emit 2 (sign ++ [' '].intercalate parts ++ ['\n'])

structure LookUp where
  functions : Bool
  special : Bool

/-- Do a script that is given as words. -/
def evaluate (inner : Inner) (words : List Chars) : Run Unit :=
  script inner ([' '].intercalate words) 1

def source (inner : Inner) (words : List Chars) : Run Builtin.Outcome := do
  match words with
  | [] => return .ok 0
  | path :: _ =>
    if !path.contains '/' then
      return .error (path ++ ": not found".toList)
    match ← openInput path with
    | .ok (.text number) =>
      let text ← textOf number
      try
        script inner text 1
      catch h =>
        if h ≠ .returned then throw h
      return .ok (← shell).status
    | .ok _ => return .ok 0
    | .error fault =>
      return .error ("cannot open ".toList ++ path ++ ": ".toList ++ openReason fault false)

/-- Do a command by its name. The values belong to variables for as long as it is
done, or for good if it is a special one. -/
def invoke (inner : Inner) : Nat → LookUp → List (Chars × Chars) → List Chars → Run Unit
  | 0, _, _, _ => throw .exhausted
  | _ + 1, _, _, [] => setStatus 0
  | n + 1, how, values, name :: arguments => do
    let isSpecial := how.special && Builtin.isSpecial name
    let within (action : Run Unit) : Run Unit := do
      if isSpecial then
        for (target, value) in values do
          assign target value
        action
      else withValues values action
    let functions := (← shell).functions
    let function? := if how.functions then functions.lookup name else none
    match function? with
    | some body => if !isSpecial then return ← withValues values (call inner body arguments)
    | none => pure ()
    if Builtin.isBuiltin name then
      within <| naming name do
        match String.ofList name with
        | "eval" => if arguments.isEmpty then setStatus 0 else evaluate inner arguments
        | "." => settle isSpecial (← source inner arguments)
        | "exec" =>
          match arguments with
          | [] => setStatus 0
          | program :: rest =>
            runProgram inner n program rest
            throw .ended
        | "command" =>
          match Builtin.options ['v', 'V', 'p'] arguments with
          | .error what => settle isSpecial (.error what)
          | .ok (letters, words) =>
            if letters.contains 'V' then settle false (← Builtin.type words)
            else if letters.contains 'v' then
              match ← Builtin.describe? reserved (words.headD []) with
              | some (_, path) => settle false (← Builtin.deliver name (path ++ ['\n']) 0)
              | none => setStatus 127
            else
              change fun s => { s with command := none }
              invoke inner n ⟨false, false⟩ [] words
        | "wait" =>
          doJobs inner
          setStatus 0
        | _ =>
          if name = "read".toList then doJobs inner
          let outcome ←
            if name = "kill".toList then Builtin.kill shellNumber arguments
            else Builtin.body name arguments
          settle isSpecial outcome
    else withValues values (runProgram inner n name arguments)

end Run

end DasherTerminal.Shell
