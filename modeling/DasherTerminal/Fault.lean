/-!
# Faults

What can go wrong, by cause. `Fault.message` is the only place that words a
fault for the user, and `SystemFault.message` the only one that words an answer
of the operating system.
-/

namespace DasherTerminal

inductive SystemFault where
  | notFound
  | inputOutput
  | noDevice
  | notDirectory
  | isDirectory
  | noSpace
  | brokenPipe
  | nameTooLong
  | refused
  | notUtf8
  | nulInName
  /-- A refusal that a link words itself. -/
  | worded (text : String)
  deriving DecidableEq, Repr

def SystemFault.message : SystemFault → String
  | .notFound => "No such file or directory (os error 2)"
  | .inputOutput => "Input/output error (os error 5)"
  | .noDevice => "No such device or address (os error 6)"
  | .notDirectory => "Not a directory (os error 20)"
  | .isDirectory => "Is a directory (os error 21)"
  | .noSpace => "No space left on device (os error 28)"
  | .brokenPipe => "Broken pipe (os error 32)"
  | .nameTooLong => "File name too long (os error 36)"
  | .refused => "Connection refused (os error 111)"
  | .notUtf8 => "stream did not contain valid UTF-8"
  | .nulInName => "file name contained an unexpected NUL byte"
  | .worded text => text

inductive TemplateFault where
  /-- The text is not JSON of the template's shape. -/
  | malformed
  /-- The binding of this key number is the first outside F1..F15. -/
  | keyOutOfRange (key : Nat)
  deriving DecidableEq, Repr

def TemplateFault.message : TemplateFault → String
  | .malformed => "malformed template"
  | .keyOutOfRange key => s!"function key F{key} out of range (F1..F15)"

inductive Fault where
  | unsupportedColumns (columns : Nat)
  | unsupportedLines (lines : Nat)
  | invalidSize (text : String)
  | unknownModel (text : String)
  | unknownAttributeOff (text : String)
  | invalidAddress (text : String)
  | connect (target : String) (cause : SystemFault)
  | transfer (cause : SystemFault)
  | notConnected
  | template (cause : TemplateFault)
  | file (path : String) (cause : SystemFault)
  deriving DecidableEq, Repr

def Fault.message : Fault → String
  | .unsupportedColumns n =>
    s!"Unsupported column count {n} (expected one of 80, 81, 120, 132, 135)"
  | .unsupportedLines n =>
    s!"Unsupported line count {n} (expected one of 24, 25, 36, 48, 66)"
  | .invalidSize text => s!"Invalid screen size '{text}' (expected COLSxLINES, e.g. 80x24)"
  | .unknownModel text => s!"Unknown emulation '{text}' (expected D200, D210 or D211)"
  | .unknownAttributeOff text =>
    s!"Unknown attribute-off policy '{text}' (expected reset-all or specific)"
  | .invalidAddress text => s!"Invalid host address '{text}' (expected HOST:PORT)"
  | .connect target cause => s!"Failed to connect to {target}: " ++ cause.message
  | .transfer cause => "Transport I/O error: " ++ cause.message
  | .notConnected => "Not connected to a host"
  | .template cause => "Function key template error: " ++ cause.message
  | .file path cause => s!"I/O error on {path}: " ++ cause.message

def Fault.cause? : Fault → Option SystemFault
  | .connect _ cause => some cause
  | .transfer cause => some cause
  | .file _ cause => some cause
  | _ => none

end DasherTerminal
