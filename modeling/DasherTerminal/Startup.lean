import DasherTerminal.CommandLine.Configuration
import DasherTerminal.CommandLine.Help
import DasherTerminal.Link.Program
import DasherTerminal.Session.Basic
import DasherTerminal.Telnet.Connection

/-!
# A run of the program

From the words of the command line to what the program prints and leaves
behind. Diagnostics are opened first, then the configuration is checked, and
the self-test ends the run. Otherwise a session starts, with a capture and a
connection if they are asked for; a connection that fails is only reported.
The run ends there, as there is no display to go on with.
-/

namespace DasherTerminal

structure Ending where
  code : Nat
  output : String
  errors : String
  files : Files
  deriving DecidableEq, Repr

/-- The outside of a session on this computer: its programs can be run, and no
telnet host answers. -/
def Outside.computer : Outside :=
  { Outside.fair with
    openFault? := fun target =>
      match target with
      | none => none
      | some (.program command) =>
        match ProgramLink.start command .default with
        | .ok _ => none
        | .error fault => some fault
      | some (.telnet host port) =>
        some ((Telnet.nameFault? host port).getD
          (.connect (Target.telnet host port).label .refused)) }

namespace Startup

inductive Diagnostics where
  /-- Nobody wants any. -/
  | unwanted
  | kept
  /-- Their file takes nothing. -/
  | lost
  deriving DecidableEq, Repr

/-- What is printed for each diagnostic that gets lost. -/
def lossNotice : String :=
  "[tracing-subscriber] Unable to write an event to the Writer for this Subscriber! Error: " ++
    SystemFault.noSpace.message ++ "\n\n"

def Diagnostics.notices (d : Diagnostics) (count : Nat) : String :=
  if d = .lost then String.join (List.replicate count lossNotice) else ""

def logLine (path : String) : String := " INFO logging started path=" ++ path ++ "\n"

/-- Open the diagnostics file, if there is to be one, and write its first line. -/
def openLog (files : Files) (path : Option String) : Except Fault (Diagnostics × Files) :=
  match path with
  | none => .ok (.unwanted, files)
  | some path =>
    match files.openForWriting path true with
    | .error cause => .error (.file path cause)
    | .ok (location, files) =>
      match files.append location (logLine path).toUTF8.toList with
      | some files => .ok (.kept, files)
      | none => .ok (.lost, files)

def failed (files : Files) (printed message : String) (cause : Option SystemFault) : Ending :=
  { code := 1, output := "", files
    errors := printed ++ "Error: " ++ message ++ "\n" ++
      ((cause.map fun c => "\nCaused by:\n    " ++ c.message ++ "\n").getD "") }

def failedBy (files : Files) (d : Diagnostics) (count : Nat) (fault : Fault) : Ending :=
  failed files (d.notices count) fault.message fault.cause?

/-- The part of a run with a session, after so many diagnostics. A capture that
starts is one more. A connection is two, one from the link and one from the
session, and a program that is stopped in the end another one. A connection that
fails is one, and is printed. -/
def operate (out : Outside) (c : CommandLine.Configuration) (files : Files) (d : Diagnostics)
    (count : Nat) : Ending :=
  match Session.start out (.fresh c.setup) ((c.template.map Encoder.plain.apply).getD .plain)
    files with
  | .error fault => failedBy files d count fault
  | .ok s =>
    match (c.capture.map (Session.startCapture · s)).getD (.ok (), s) with
    | (.error fault, s) => failedBy s.files d count fault
    | (.ok (), s) =>
      let count := count + c.capture.toList.length
      let noDisplay := SystemFault.noDevice.message
      match c.target with
      | none => failed s.files (d.notices count) noDisplay none
      | some target =>
        match Session.connect out target s with
        | (.error fault, s) =>
          failed s.files (d.notices (count + 1) ++ fault.message ++ "\n") noDisplay none
        | (.ok (), s) =>
          let closing := match target with
            | .program _ => 1
            | .telnet _ _ => 0
          failed s.files (d.notices (count + 2 + closing)) noDisplay none

/-- A run with arguments that could be read. The opening of the diagnostics is
one, and so is a template that was loaded. -/
def runWith (out : Outside) (files : Files) (a : CommandLine.Arguments) : Ending :=
  match openLog files a.logFile with
  | .error fault => failedBy files .unwanted 0 fault
  | .ok (d, files) =>
    match a.configure files with
    | .error fault => failedBy files d 1 fault
    | .ok c =>
      let count := 1 + c.template.toList.length
      if c.selfTest then
        { code := 0, output := (Terminal.fresh c.setup).selfTest.screenText ++ "\n"
          errors := d.notices count, files }
      else operate out c files d count

def run (out : Outside) (files : Files) (words : List String) : Ending :=
  match CommandLine.Arguments.parse words with
  | .error .help => ⟨0, CommandLine.helpText, "", files⟩
  | .error .version => ⟨0, CommandLine.versionLine, "", files⟩
  | .error (.fault cause) => ⟨2, "", cause.report, files⟩
  | .ok a => runWith out files a

end Startup

end DasherTerminal
