import DasherTerminal.Console.Basic
import DasherTerminal.Files.Basic
import DasherTerminal.Shell.Fields
import DasherTerminal.Shell.Token

/-!
# What a running shell acts on

The console, the files, the texts that go from one command to the next, and what
the shell remembers. What happens from outside is known beforehand as a list of
stimuli; a command that has to wait takes the next one, and stops for good when
there is none.
-/

namespace DasherTerminal

inductive Stimulus where
  | typed (bytes : List UInt8)
  | resized (size : ScreenSize)
  /-- Enough time passes for a sleep to end. -/
  | waited
  deriving DecidableEq, Repr

namespace Shell

inductive Channel where
  | console
  /-- A device that is empty and takes everything. -/
  | sink
  /-- A device that takes nothing. -/
  | full
  /-- A text that is passed on. -/
  | text (number : Nat)
  | file (location : Location)
  deriving DecidableEq, Repr

/-- A variable. It may be marked without having a value. -/
structure Variable where
  value : Option Chars
  exported : Bool
  constant : Bool
  deriving DecidableEq, Repr

structure State where
  /-- The name the shell goes by in its messages. -/
  name : Chars
  arguments : List Chars
  bindings : List (Chars × Variable)
  functions : List (Chars × Command)
  /-- How the last command ended; zero stands for success. -/
  status : Nat
  /-- How the last command ended whose output was taken into a word. -/
  taken : Option Nat
  options : List Char
  line : Nat
  /-- The command of the shell itself that is being done. -/
  command : Option Chars
  /-- What is done on signals and at the end, by their names. -/
  traps : List (String × Chars)
  descriptors : List (Nat × Channel)
  /-- What the variables of the function that is being done were before. -/
  locals : List (Chars × Option Variable)
  inFunction : Bool
  loops : Nat

def State.usualVariables : List (Chars × Variable) :=
  [("IFS", " \t\n"), ("OPTIND", "1"), ("PS1", "# "), ("PS2", "> "), ("PS4", "+ ")].map
    fun (name, value) => (name.toList, ⟨some value.toList, false, false⟩)

def State.initial (name : Chars) (exported : List (Chars × Variable))
    (descriptors : List (Nat × Channel)) (ignored : List (String × Chars)) : State :=
  { name, arguments := [], functions := [], status := 0, taken := none, options := [], line := 0
    command := none, traps := ignored, descriptors, locals := [], inFunction := false, loops := 0
    bindings := exported ++ usualVariables.filter fun v => !exported.any (·.1 = v.1) }

/-- The state of a shell that another one starts as a program. -/
def State.asProgram (s : State) (name : Chars) : State :=
  .initial name (s.bindings.filter (·.2.exported)) s.descriptors (s.traps.filter (·.2.isEmpty))

structure World where
  console : Console
  future : List Stimulus
  files : Files
  texts : List (Nat × Chars)
  /-- The signals that were trapped and not answered yet, by their names. -/
  caught : List String
  /-- What goes on beside the shell. -/
  jobs : List (State × Command)
  shell : State

inductive Party where
  | shell
  | program
  deriving DecidableEq, Repr

/-- Whether a signal, by its name, ends the waiting. A program does not mind that
the console gets another size. -/
def Party.minds : Party → String → Bool
  | .shell, _ => true
  | .program, name => name != "WINCH"

/-- Why a command does not go on. -/
inductive Halt where
  | waiting
  | asleep
  /-- A signal ended everything, unless it is what an interactive shell goes on
  after. -/
  | killed (signal : String)
  /-- The shell has ended, with its last status. -/
  | ended
  /-- A fault ends what the shell does. -/
  | failed
  | returned
  /-- So many loops around the command have ended. -/
  | left (loops : Nat)
  /-- The next turn of a loop begins, after so many loops inside have ended. -/
  | next (loops : Nat)
  | exhausted
  deriving DecidableEq, Repr

/-- Whether it is the end of the script that is being done. -/
def Halt.endsScript (h : Halt) : Bool := h == .ended || h == .failed || h == .returned

abbrev Run := ExceptT Halt (StateM World)

namespace Run

/-! ### What the shell remembers -/

def shell : Run State := do return (← get).shell

def change (f : State → State) : Run Unit := modify fun w => { w with shell := f w.shell }

def setStatus (status : Nat) : Run Unit := change fun s => { s with status }

def hasOption (letter : Char) : Run Bool := do return (← shell).options.contains letter

def value? (name : Chars) : Run (Option Chars) := do
  return ((← shell).bindings.lookup name).bind (·.value)

def separators : Run Chars := do return (← value? "IFS".toList).getD Fields.usualSeparators

/-! ### The console -/

/-- The name of a signal, as far as it concerns a program. -/
def signalName? (s : Signal) : Option String :=
  match s with
  | .interrupt => some "INT"
  | .quit => some "QUIT"
  | .suspend => none

/-- Notice the signals that were raised. One that is not trapped ends everything. -/
def noticeSignals : Run Unit := do
  let w ← get
  set { w with console := { w.console with raised := [] } }
  for name in w.console.raised.filterMap signalName? do
    match w.shell.traps.lookup name with
    | some [] => pure ()
    | some _ => modify fun w => { w with caught := w.caught ++ [name] }
    | none => throw (.killed name)

def noticeSize : Run Unit := do
  match (← shell).traps.lookup "WINCH" with
  | none | some [] => pure ()
  | some _ => modify fun w => { w with caught := w.caught ++ ["WINCH"] }

def isDisturbed (p : Party) : Run Bool := do return (← get).caught.any p.minds

def happen (reason : Halt) : Run Unit := do
  let w ← get
  match w.future with
  | [] => throw reason
  | s :: future =>
    let console :=
      match s with
      | .typed bytes => w.console.type bytes
      | .resized size => w.console.resize size
      | .waited => w.console
    set { w with future, console }
    if console.lines ≠ w.console.lines ∨ console.columns ≠ w.console.columns then noticeSize
    noticeSignals

/-- Read from the console at most so many bytes, and wait for them if need be.
Nothing if a signal comes instead. -/
def readConsole (party : Party) (limit : Nat) : Run (Option Chars) := do
  go ((← get).future.length + 1)
where
  /-- The same, while at most so many things happen. -/
  go : Nat → Run (Option Chars)
    | 0 => throw .waiting
    | n + 1 => do
      let w ← get
      match w.console.read? limit with
      | some (bytes, console) =>
        set { w with console }
        return some (.ofBytes bytes)
      | none =>
        happen .waiting
        if ← isDisturbed party then return none
        go n

/-- Let time pass, and whatever happens meanwhile. Tells whether nothing ended the
sleep early. -/
def sleep : Run Bool := do
  go ((← get).future.length + 1)
where
  /-- The same, while at most so many things happen. -/
  go : Nat → Run Bool
    | 0 => throw .asleep
    | n + 1 => do
      let s := (← get).future.head?
      happen .asleep
      if ← isDisturbed .program then return false
      if s = some .waited then return true else go n

/-- Show a text on the console, as soon as it is not stopped. -/
def display (text : Chars) : Run Unit := do
  go ((← get).future.length + 1)
  modify fun w => { w with console := w.console.display text.toBytes }
where
  /-- Wait for the console, while at most so many things happen. -/
  go : Nat → Run Unit
    | 0 => throw .waiting
    | n + 1 => do
      if (← get).console.held then
        happen .waiting
        go n

/-! ### Descriptors -/

def channel? (descriptor : Nat) : Run (Option Channel) := do
  return (← shell).descriptors.lookup descriptor

def connect (descriptor : Nat) (channel : Option Channel) : Run Unit :=
  change fun s =>
    let others := s.descriptors.filter (·.1 ≠ descriptor)
    { s with descriptors := (channel.map (descriptor, ·)).toList ++ others }

def textOf (number : Nat) : Run Chars := do return ((← get).texts.lookup number).getD []

def setText (number : Nat) (text : Chars) : Run Unit :=
  modify fun w => { w with texts := (number, text) :: w.texts.filter (·.1 ≠ number) }

def newText (text : Chars) : Run Nat := do
  let number := (← get).texts.foldl (fun n t => max n (t.1 + 1)) 0
  setText number text
  return number

/-- Write a text to a descriptor. Tells whether it was taken. -/
def write (descriptor : Nat) (text : Chars) : Run Bool := do
  match ← channel? descriptor with
  | none => return text.isEmpty
  | some .console =>
    if !text.isEmpty then display text
    return true
  | some .sink => return true
  | some .full => return text.isEmpty
  | some (.text number) =>
    setText number ((← textOf number) ++ text)
    return true
  | some (.file location) =>
    let w ← get
    match w.files.append location text.toBytes with
    | some files =>
      set { w with files }
      return true
    | none => return false

/-- Write a text to a descriptor, whatever becomes of it. -/
def emit (descriptor : Nat) (text : Chars) : Run Unit := discard (write descriptor text)

/-- Read from a descriptor at most so many characters. No characters stand for the
end; nothing if a signal comes instead. -/
def read (party : Party) (descriptor limit : Nat) : Run (Option Chars) := do
  match ← channel? descriptor with
  | some .console => readConsole party limit
  | some (.text number) =>
    let text ← textOf number
    setText number (text.drop limit)
    return some (text.take limit)
  | _ => return some []

/-! ### Complaints -/

/-- Complain, in the name of the shell and of the command of its own that is being
done. -/
def complain (what : Chars) : Run Unit := do
  let s ← shell
  let command := (s.command.map (· ++ ": ".toList)).getD []
  emit 2 (s.name ++ ": ".toList ++ (toString s.line).toList ++ ": ".toList ++ command ++ what ++
    ['\n'])

def fail {α : Type} (what : Chars) (status : Nat) : Run α := do
  complain what
  setStatus status
  throw .failed

/-! ### Variables -/

/-- Give a variable a value. One that is constant ends the shell. -/
def assign (name value : Chars) : Run Unit := do
  let s ← shell
  let old := (s.bindings.lookup name).getD ⟨none, s.options.contains 'a', false⟩
  if old.constant then fail (name ++ ": is read only".toList) 2
  change fun s => { s with
    bindings := (name, { old with value := some value }) :: s.bindings.filter (·.1 ≠ name) }

def restore (name : Chars) (old : Option Variable) : Run Unit :=
  change fun s => { s with
    bindings := (old.map (name, ·)).toList ++ s.bindings.filter (·.1 ≠ name) }

/-- Do something in a shell of its own, and then go on with this one and the status
of the other. -/
def apart (action : Run Unit) : Run Unit := do
  let before ← shell
  let finish : Run Unit := do
    let status := (← shell).status
    change fun _ => { before with status }
  try
    action
  catch h =>
    match h with
    | .waiting | .asleep | .killed _ | .exhausted => throw h
    | _ => pure ()
  finish

end Run

end Shell

end DasherTerminal
