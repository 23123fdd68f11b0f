import DasherTerminal.CommandLine.Opt
import DasherTerminal.Screen.History
import DasherTerminal.Text.Blank
import DasherTerminal.Text.Decimal

/-!
# Reading the command line

The words of a command line are read from left to right. A value follows its
option, as the next word or after an equals sign; a word with a dash in front
is never a value. Only `--command` takes all words that follow it, whatever
they look like.
-/

namespace DasherTerminal.CommandLine

/-- What the command line asks for, before it is checked against what the
terminal can do. -/
structure Arguments where
  host : Option String
  command : Option (List String)
  columns : Nat
  lines : Nat
  emulation : String
  noBlink : Bool
  attributeOff : String
  history : Nat
  template : Option String
  capture : Option String
  logFile : Option String
  selfTest : Bool
  deriving DecidableEq, Repr

namespace Arguments

def default : Arguments :=
  { host := none, command := none, columns := 80, lines := 24, emulation := "d210"
    noBlink := false, attributeOff := "reset-all", history := defaultHistoryCapacity
    template := none, capture := none, logFile := none, selfTest := false }

instance : Inhabited Arguments := ⟨default⟩

end Arguments

inductive UsageFault where
  | unexpected (word : String)
  | missingValue (option : Opt)
  | unexpectedValue (option : Opt) (value : String)
  | unreadableValue (option : Opt) (value : String)
  /-- Two options that exclude each other, or one that is there twice. -/
  | conflict (option other : Opt)
  deriving DecidableEq, Repr

/-- Why the reading of a command line stops before its end. -/
inductive Stop where
  | help
  | version
  | fault (cause : UsageFault)
  deriving DecidableEq, Repr

inductive Word where
  | plain
  /-- Two dashes alone, after which no option comes. -/
  | separator
  | long (name : String) (value : Option String)
  | short (letter : Char)
  deriving DecidableEq, Repr

def Word.ofString (word : String) : Word :=
  match word.toList with
  | ['-', '-'] => .separator
  | '-' :: '-' :: cs =>
    match Text.splitFirst? (· == '=') cs with
    | some (name, value) => .long (String.ofList name) (some (String.ofList value))
    | none => .long (String.ofList cs) none
  | '-' :: c :: _ => .short c
  | _ => .plain

def historyLimit : Nat := 18446744073709551615

/-- Read a count of columns or lines. A minus sign is allowed before a zero. -/
def count? : List Char → Option Nat
  | '-' :: digits => (Text.digits? digits).filter (· = 0)
  | cs => Text.number? Text.wordLimit cs

structure Scan where
  given : List Opt
  arguments : Arguments
  /-- The option read last, if it waits for its value or has just got it. -/
  pending : Option (Opt × Option String)
  deriving DecidableEq, Repr

namespace Scan

def start : Scan := ⟨[], .default, none⟩

instance : Inhabited Scan := ⟨start⟩

/-- Note an option, which may only be there once. -/
def note (s : Scan) (o : Opt) : Except Stop Scan :=
  if o ∈ s.given then .error (.fault (.conflict o o)) else .ok { s with given := o :: s.given }

def keep (s : Scan) (a : Arguments) : Except Stop Scan := .ok { s with arguments := a }

def raise (s : Scan) (o : Opt) : Except Stop Scan :=
  match o with
  | .help => .error .help
  | .version => .error .version
  | .noBlink => do (← s.note o).keep { s.arguments with noBlink := true }
  | .selfTest => do (← s.note o).keep { s.arguments with selfTest := true }
  | _ => .ok s

def keepNumber (s : Scan) (o : Opt) (value : String) (n : Option Nat) (set : Nat → Arguments) :
    Except Stop Scan :=
  match n with
  | some n => s.keep (set n)
  | none => .error (.fault (.unreadableValue o value))

def addCommand (s : Scan) (words : List String) : Except Stop Scan :=
  if words.isEmpty then .error (.fault (.missingValue .command))
  else .ok
    { s with
      given := .command :: s.given
      arguments := { s.arguments with command := some (s.arguments.command.getD [] ++ words) } }

def assign (s : Scan) (o : Opt) (value : String) : Except Stop Scan :=
  let a := s.arguments
  match o with
  | .command => s.addCommand [value]
  | _ => do
    let s ← s.note o
    if o.isPath && value.isEmpty then .error (.fault (.missingValue o))
    else
      match o with
      | .host => s.keep { a with host := some value }
      | .columns => s.keepNumber o value (count? value.toList) ({ a with columns := · })
      | .lines => s.keepNumber o value (count? value.toList) ({ a with lines := · })
      | .emulation => s.keep { a with emulation := value }
      | .attributeOff => s.keep { a with attributeOff := value }
      | .history =>
        s.keepNumber o value (Text.number? historyLimit value.toList) ({ a with history := · })
      | .template => s.keep { a with template := some value }
      | .capture => s.keep { a with capture := some value }
      | .logFile => s.keep { a with logFile := some value }
      | _ => .ok s

def settle (s : Scan) : Except Stop Scan :=
  match s.pending with
  | none => .ok s
  | some (o, none) => .error (.fault (.missingValue o))
  | some (o, some value) => { s with pending := none }.assign o value

def long (s : Scan) (o : Opt) (value : Option String) : Except Stop Scan :=
  match o.hasValue, value with
  | false, some value => .error (.fault (.unexpectedValue o value))
  | false, none => do (← s.settle).raise o
  | true, some value => do (← s.settle).assign o value
  | true, none => do return { ← s.settle with pending := some (o, none) }

/-- Take a word that is no option: the value that the last option waits for. -/
def plain (s : Scan) (word : String) : Except Stop Scan :=
  match s.pending with
  | some (o, none) => .ok { s with pending := some (o, some word) }
  | _ => .error (.fault (.unexpected word))

def words (s : Scan) : List String → Except Stop Scan
  | [] => s.settle
  | word :: rest =>
    match Word.ofString word with
    | .plain => do (← s.plain word).words rest
    | .separator =>
      match rest with
      | [] => s.settle
      | next :: _ => .error (.fault (.unexpected next))
    | .short letter =>
      match Opt.ofLetter? letter with
      | some o => do ((← s.settle).raise o >>= fun s => s.words rest)
      | none => .error (.fault (.unexpected word))
    | .long name value =>
      match Opt.ofName? name, value with
      | some .command, none => do (← s.settle).addCommand rest
      | some o, value => do (← s.long o value).words rest
      | none, _ => .error (.fault (.unexpected word))

end Scan

/-- Read a command line. A host and a program exclude each other. -/
def Arguments.parse (words : List String) : Except Stop Arguments := do
  let s ← Scan.start.words words
  if s.arguments.host.isSome && s.arguments.command.isSome then
    .error (.fault (.conflict .host .command))
  else return s.arguments

end DasherTerminal.CommandLine
