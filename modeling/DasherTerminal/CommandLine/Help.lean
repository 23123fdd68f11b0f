import DasherTerminal.CommandLine.Arguments

/-!
# What the program says about itself
-/

namespace DasherTerminal.CommandLine

def programName : String := "dasher"

def versionLine : String := programName ++ " 0.1.0\n"

namespace Opt

def placeholder (o : Opt) : String := o.name.toUpper.replace "-" "_"

def usage (o : Opt) : String :=
  (match o.letter? with
    | some letter => "-" ++ letter.toString ++ ", "
    | none => "    ") ++ "--" ++ o.name ++
  (if o.hasValue then " <" ++ o.placeholder ++ ">" else "") ++ (if o = .command then "..." else "")

def default? : Opt → Option String
  | .columns => some (toString Arguments.default.columns)
  | .lines => some (toString Arguments.default.lines)
  | .emulation => some Arguments.default.emulation
  | .attributeOff => some Arguments.default.attributeOff
  | .history => some (toString Arguments.default.history)
  | _ => none

def explanation (o : Opt) : String :=
  "  " ++ o.usage ++ "\n          " ++ o.purpose ++
    ((o.default?.map fun value => " [default: " ++ value ++ "]").getD "") ++ "\n"

end Opt

def usageLine : String := "Usage: " ++ programName ++ " [OPTIONS]\n"

def helpText : String :=
  "Data General DASHER D200/D210/D211 terminal emulator\n\n" ++ usageLine ++ "\nOptions:\n" ++
    String.join (Opt.all.map Opt.explanation)

def Opt.quoted (o : Opt) : String := "'" ++ o.usage.trimAscii.copy ++ "'"

def UsageFault.message : UsageFault → String
  | .unexpected word => "unexpected argument '" ++ word ++ "' found"
  | .missingValue o => "a value is required for " ++ o.quoted ++ " but none was supplied"
  | .unexpectedValue o value =>
    "unexpected value '" ++ value ++ "' for '--" ++ o.name ++ "' found; no more were expected"
  | .unreadableValue o value => "invalid value '" ++ value ++ "' for " ++ o.quoted
  | .conflict o other =>
    if o = other then "the argument " ++ o.quoted ++ " cannot be used multiple times"
    else "the argument " ++ o.quoted ++ " cannot be used with " ++ other.quoted

def UsageFault.report (f : UsageFault) : String :=
  "error: " ++ f.message ++ "\n\n" ++ usageLine ++ "\nFor more information, try '--help'.\n"

end DasherTerminal.CommandLine
