/-!
# Command-line options

What can be given on the command line, under which names, and the lines that
explain it.
-/

namespace DasherTerminal.CommandLine

inductive Opt where
  | host
  | command
  | columns
  | lines
  | emulation
  | noBlink
  | attributeOff
  | history
  | template
  | capture
  | logFile
  | selfTest
  | help
  | version
  deriving DecidableEq, Repr

namespace Opt

/-- All options, in the order in which they are explained. -/
def all : List Opt :=
  [host, command, columns, lines, emulation, noBlink, attributeOff, history, template, capture,
    logFile, selfTest, help, version]

def name : Opt → String
  | .host => "host"
  | .command => "command"
  | .columns => "columns"
  | .lines => "lines"
  | .emulation => "emulation"
  | .noBlink => "no-blink"
  | .attributeOff => "attribute-off"
  | .history => "history"
  | .template => "template"
  | .capture => "capture"
  | .logFile => "log-file"
  | .selfTest => "self-test"
  | .help => "help"
  | .version => "version"

def letter? : Opt → Option Char
  | .help => some 'h'
  | .version => some 'V'
  | _ => none

def hasValue : Opt → Bool
  | .noBlink | .selfTest | .help | .version => false
  | _ => true

def isPath : Opt → Bool
  | .template | .capture | .logFile => true
  | _ => false

def purpose : Opt → String
  | .host => "Telnet host to connect to at startup (HOST:PORT)"
  | .command => "Program (and arguments) to run on a local pseudo-terminal; must come last"
  | .columns => "Screen width: 80, 81, 120, 132 or 135"
  | .lines => "Screen height: 24, 25, 36, 48 or 66"
  | .emulation => "Terminal model to emulate (d200, d210, d211)"
  | .noBlink => "Start with blinking disabled"
  | .attributeOff => "What 025/035 clear (reset-all or specific)"
  | .history => "Number of scrolled-off lines kept for the history viewer"
  | .template => "Function-key template (JSON)"
  | .capture => "Record every byte received from the host to this file"
  | .logFile => "Write diagnostics to this file (filter with RUST_LOG)"
  | .selfTest => "Run the self-test, print the resulting screen and exit"
  | .help => "Print help"
  | .version => "Print version"

def ofName? (name : String) : Option Opt := all.find? fun o => o.name == name

def ofLetter? (letter : Char) : Option Opt := all.find? fun o => o.letter? == some letter

theorem mem_all (o : Opt) : o ∈ all := by
  cases o <;> simp [all]

@[simp] theorem ofName?_name (o : Opt) : ofName? o.name = some o := by
  cases o <;> rfl

end Opt

end DasherTerminal.CommandLine
