import DasherTerminal.Console.Basic
import DasherTerminal.Text.Numeral

/-!
# Console settings

The language in which the modes of a console are changed and shown: words for
switches, control characters and sizes, several of them at once, and a compact
form of all modes that can be given back.
-/

namespace DasherTerminal

inductive FlagGroup where
  | input
  | output
  | control
  | typing
  deriving DecidableEq, Repr

namespace ConsoleFlag

def profile : ConsoleFlag → String × FlagGroup × Nat
  | .parenb => ("parenb", .control, 0o400)
  | .parodd => ("parodd", .control, 0o1000)
  | .cmspar => ("cmspar", .control, 0o10000000000)
  | .hupcl => ("hupcl", .control, 0o2000)
  | .cstopb => ("cstopb", .control, 0o100)
  | .cread => ("cread", .control, 0o200)
  | .clocal => ("clocal", .control, 0o4000)
  | .crtscts => ("crtscts", .control, 0o20000000000)
  | .ignbrk => ("ignbrk", .input, 0o1)
  | .brkint => ("brkint", .input, 0o2)
  | .ignpar => ("ignpar", .input, 0o4)
  | .parmrk => ("parmrk", .input, 0o10)
  | .inpck => ("inpck", .input, 0o20)
  | .istrip => ("istrip", .input, 0o40)
  | .inlcr => ("inlcr", .input, 0o100)
  | .igncr => ("igncr", .input, 0o200)
  | .icrnl => ("icrnl", .input, 0o400)
  | .ixon => ("ixon", .input, 0o2000)
  | .ixoff => ("ixoff", .input, 0o10000)
  | .iuclc => ("iuclc", .input, 0o1000)
  | .ixany => ("ixany", .input, 0o4000)
  | .imaxbel => ("imaxbel", .input, 0o20000)
  | .iutf8 => ("iutf8", .input, 0o40000)
  | .opost => ("opost", .output, 0o1)
  | .olcuc => ("olcuc", .output, 0o2)
  | .ocrnl => ("ocrnl", .output, 0o10)
  | .onlcr => ("onlcr", .output, 0o4)
  | .onocr => ("onocr", .output, 0o20)
  | .onlret => ("onlret", .output, 0o40)
  | .ofill => ("ofill", .output, 0o100)
  | .ofdel => ("ofdel", .output, 0o200)
  | .tab3 => ("tab3", .output, 0o14000)
  | .isig => ("isig", .typing, 0o1)
  | .icanon => ("icanon", .typing, 0o2)
  | .iexten => ("iexten", .typing, 0o100000)
  | .echo => ("echo", .typing, 0o10)
  | .echoe => ("echoe", .typing, 0o20)
  | .echok => ("echok", .typing, 0o40)
  | .echonl => ("echonl", .typing, 0o100)
  | .noflsh => ("noflsh", .typing, 0o200)
  | .xcase => ("xcase", .typing, 0o4)
  | .tostop => ("tostop", .typing, 0o400)
  | .echoprt => ("echoprt", .typing, 0o2000)
  | .echoctl => ("echoctl", .typing, 0o1000)
  | .echoke => ("echoke", .typing, 0o4000)
  | .flusho => ("flusho", .typing, 0o10000)
  | .extproc => ("extproc", .typing, 0o200000)

def name (f : ConsoleFlag) : String := f.profile.1

def group (f : ConsoleFlag) : FlagGroup := f.profile.2.1

def bit (f : ConsoleFlag) : Nat := f.profile.2.2

def all : List ConsoleFlag :=
  [.parenb, .parodd, .cmspar, .hupcl, .cstopb, .cread, .clocal, .crtscts,
    .ignbrk, .brkint, .ignpar, .parmrk, .inpck, .istrip, .inlcr, .igncr, .icrnl, .ixon, .ixoff,
    .iuclc, .ixany, .imaxbel, .iutf8,
    .opost, .olcuc, .ocrnl, .onlcr, .onocr, .onlret, .ofill, .ofdel, .tab3,
    .isig, .icanon, .iexten, .echo, .echoe, .echok, .echonl, .noflsh, .xcase, .tostop, .echoprt,
    .echoctl, .echoke, .flusho, .extproc]

/-- How a switch stands on a console in order. Nothing if both ways are in order. -/
def sane? : ConsoleFlag → Option Bool
  | .cread | .brkint | .icrnl | .imaxbel | .opost | .onlcr | .isig | .icanon | .iexten | .echo
  | .echoe | .echok | .echoctl | .echoke => some true
  | .parenb | .parodd | .cmspar | .hupcl | .cstopb | .clocal | .crtscts | .ignpar | .parmrk
  | .inpck | .istrip | .ixon => none
  | _ => some false

/-- The switch of a name. Some have two. -/
def ofName? (name : String) : Option ConsoleFlag :=
  match name with
  | "hup" => some .hupcl
  | "tandem" => some .ixoff
  | "crterase" => some .echoe
  | "prterase" => some .echoprt
  | "ctlecho" => some .echoctl
  | "crtkill" => some .echoke
  | "tab3" => none
  | _ => all.find? (·.name == name)

end ConsoleFlag

namespace ConsoleKey

def name : ConsoleKey → String
  | .intr => "intr"
  | .quit => "quit"
  | .erase => "erase"
  | .kill => "kill"
  | .eof => "eof"
  | .eol => "eol"
  | .eol2 => "eol2"
  | .swtch => "swtch"
  | .start => "start"
  | .stop => "stop"
  | .susp => "susp"
  | .rprnt => "rprnt"
  | .werase => "werase"
  | .lnext => "lnext"
  | .discard => "discard"

def all : List ConsoleKey :=
  [.intr, .quit, .erase, .kill, .eof, .eol, .eol2, .swtch, .start, .stop, .susp, .rprnt, .werase,
    .lnext, .discard]

def ofName? (name : String) : Option ConsoleKey := all.find? (·.name == name)

end ConsoleKey

namespace ConsoleMode

def sane (m : ConsoleMode) : ConsoleMode :=
  let flags := ConsoleFlag.all.foldl (fun m f => (f.sane?.map (m.set f)).getD m) m
  { flags with keys := usualKey, least := 1, patience := 0 }

/-- Modes in which every byte goes through as it is, except for its echo. -/
def raw (m : ConsoleMode) : ConsoleMode :=
  let inputs := ConsoleFlag.all.filter (·.group = .input)
  { (m.setAll inputs false).setAll [.opost, .isig, .icanon, .xcase] false with
    least := 1, patience := 0 }

/-- Modes in which lines are collected and edited. -/
def cooked (m : ConsoleMode) : ConsoleMode :=
  m.setAll [.brkint, .ignpar, .istrip, .icrnl, .ixon, .opost, .isig, .icanon] true

/-- Change the modes as one word says, or as it says after a minus sign. -/
def combine? (m : ConsoleMode) (word : String) (on : Bool) : Option ConsoleMode :=
  let bare := fun (m : ConsoleMode) => if on then some m else none
  match word with
  | "sane" => bare m.sane
  | "ek" => bare ((m.setKey .erase (usualKey .erase)).setKey .kill (usualKey .kill))
  | "crt" => bare (m.setAll [.echoe, .echoctl, .echoke] true)
  | "dec" =>
    let m := (m.setAll [.echoe, .echoctl, .echoke] true).set .ixany false
    bare (((m.setKey .intr 0o03).setKey .erase 0o177).setKey .kill 0o25)
  | "raw" => some (if on then m.raw else m.cooked)
  | "cooked" => some (if on then m.cooked else m.raw)
  | "cbreak" => some (m.set .icanon !on)
  | "nl" =>
    some (if on then m.setAll [.icrnl, .onlcr] false
      else (m.setAll [.icrnl, .onlcr] true).setAll [.inlcr, .igncr, .ocrnl, .onlret] false)
  | "pass8" => some (m.set .istrip !on)
  | "litout" => some ((m.set .istrip !on).set .opost !on)
  | "decctlq" => some (m.set .ixany !on)
  | "tabs" => some (m.set .tab3 !on)
  | "lcase" | "LCASE" => some (m.setAll [.xcase, .iuclc, .olcuc] on)
  | "evenp" | "parity" | "oddp" => some m
  | "tab3" => bare (m.set .tab3 true)
  | "tab0" | "tab1" | "tab2" => bare (m.set .tab3 false)
  | "cs8" | "nl0" | "nl1" | "cr0" | "cr1" | "cr2" | "cr3" | "bs0" | "bs1" | "vt0" | "vt1" | "ff0"
  | "ff1" => bare m
  | "drain" => some m
  | _ => (ConsoleFlag.ofName? word).map (m.set · on)

/-! ### The compact form -/

/-- The bits of a group that are always there, as no switch changes them. -/
def groupBase : FlagGroup → Nat
  | .control => 0o77
  | _ => 0

def groupBits (m : ConsoleMode) (g : FlagGroup) : Nat :=
  (ConsoleFlag.all.filter fun f => f.group = g && m.has f).foldl (fun n f => n + f.bit)
    (groupBase g)

/-- The bytes of the control characters with the two numbers among them. -/
def keyCodes (m : ConsoleMode) : List Nat :=
  let key := fun k => (m.keys k).toNat
  [key .intr, key .quit, key .erase, key .kill, key .eof, m.patience, m.least, key .swtch,
    key .start, key .stop, key .susp, key .eol, key .rprnt, key .discard, key .werase, key .lnext,
    key .eol2] ++ List.replicate 15 0

def hexadecimal (n : Nat) : String := String.ofList (Nat.toDigits 16 n)

def compact (m : ConsoleMode) : String :=
  ":".intercalate (([.input, .output, .control, .typing].map m.groupBits ++ m.keyCodes).map
    hexadecimal)

def withBits (m : ConsoleMode) (g : FlagGroup) (bits : Nat) : ConsoleMode :=
  (ConsoleFlag.all.filter (·.group = g)).foldl
    (fun m f => m.set f (bits &&& f.bit == f.bit)) m

def ofCompact? (m : ConsoleMode) (text : String) : Option ConsoleMode := do
  let numbers ← (text.splitOn ":").mapM fun part =>
    match Text.Numeral.digits? 16 part.toList with
    | some (n, []) => some n
    | _ => none
  match numbers with
  | input :: output :: control :: typing :: keys =>
    if keys.length = 32 ∧ keys.all (· < 256) then
      let m := (m.withBits .input input).withBits .output output
      let m := (m.withBits .control control).withBits .typing typing
      let places : List ConsoleKey :=
        [.intr, .quit, .erase, .kill, .eof, .eof, .eof, .swtch, .start, .stop, .susp, .eol, .rprnt,
          .discard, .werase, .lnext, .eol2]
      let numbered := (places.zip keys).mapIdx fun i (k, n) => (i, k, n)
      let m := numbered.foldl
        (fun m (i, k, n) => if i = 5 ∨ i = 6 then m else m.setKey k n.toUInt8) m
      some { m with patience := keys.getD 5 0, least := keys.getD 6 1 }
    else none
  | _ => none

/-! ### The shown form -/

def visible (b : UInt8) : String :=
  let low (b : UInt8) : String :=
    if b < 0x20 then "^" ++ (Char.ofUInt8 (b ||| 0x40)).toString
    else if b = 0x7F then "^?"
    else (Char.ofUInt8 b).toString
  if b = 0 then "<undef>" else if b < 0x80 then low b else "M-" ++ low (b - 0x80)

def keyWord (m : ConsoleMode) (k : ConsoleKey) : String := s!"{k.name} = {visible (m.keys k)};"

def flagWords (m : ConsoleMode) (g : FlagGroup) (word : ConsoleFlag → Bool → List String) :
    List String :=
  (ConsoleFlag.all.filter (·.group = g)).flatMap fun f => word f (m.has f)

/-- The word for a switch that stands one way or the other, and what stands
beside it for modes that never change. -/
def fullWords (f : ConsoleFlag) (on : Bool) : List String :=
  match f with
  | .cmspar => [if on then "cmspar" else "-cmspar", "cs8"]
  | .tab3 => ["nl0", "cr0", if on then "tab3" else "tab0", "bs0", "vt0", "ff0"]
  | _ => [if on then f.name else "-" ++ f.name]

def unusualWords (f : ConsoleFlag) (on : Bool) : List String :=
  if f.sane? = some !on then [if on then f.name else "-" ++ f.name] else []

/-- Words in lines of at most the given width, with a blank between two words. -/
def wrapFrom (width column : Nat) : List String → String
  | [] => if column = 0 then "" else "\n"
  | word :: words =>
    let length := word.length
    if column = 0 then word ++ wrapFrom width length words
    else if width < column + 1 + length then "\n" ++ word ++ wrapFrom width length words
    else " " ++ word ++ wrapFrom width (column + 1 + length) words

/-- The words for reads that do not wait for lines. The line ends with them. -/
def readWord (m : ConsoleMode) : String := s!"min = {m.least}; time = {m.patience};"

end ConsoleMode

namespace Console

/-- How fast a console would be if it were a wire. -/
def speedWord : String := "speed 38400 baud;"

def showUnusual (c : Console) : String :=
  let m := c.mode
  let wrap := ConsoleMode.wrapFrom c.columns 0
  let keys := ConsoleKey.all.filter fun k => m.keys k ≠ ConsoleMode.usualKey k
  let reads := if m.has .icanon then [] else [m.readWord]
  let flags := fun g => wrap (m.flagWords g ConsoleMode.unusualWords)
  wrap [speedWord, "line = 0;"] ++ wrap (keys.map m.keyWord ++ reads) ++
    flags .control ++ flags .input ++ flags .output ++ flags .typing

def showAll (c : Console) : String :=
  let m := c.mode
  let wrap := ConsoleMode.wrapFrom c.columns 0
  let flags := fun g => wrap (m.flagWords g ConsoleMode.fullWords)
  wrap [speedWord, s!"rows {c.lines}; columns {c.columns};", "line = 0;"] ++
    wrap (ConsoleKey.all.map m.keyWord ++ [m.readWord]) ++
    flags .control ++ flags .input ++ flags .output ++ flags .typing

inductive SettingFault where
  | unknown (word : String)
  | missing (word : String)
  | noNumber (word : String)
  | tooLarge (word : String)
  | styleWithModes
  | twoStyles
  deriving DecidableEq, Repr

def SettingFault.message : SettingFault → String
  | .unknown word => s!"invalid argument '{word}'"
  | .missing word => s!"missing argument to '{word}'"
  | .noNumber word => s!"invalid integer argument: '{word}'"
  | .tooLarge word => s!"invalid integer argument: '{word}': Numerical result out of range"
  | .styleWithModes => "when specifying an output style, modes may not be set"
  | .twoStyles =>
    "the options for verbose and stty-readable output styles are\nmutually exclusive"

def SettingFault.hasHint : SettingFault → Bool
  | .unknown _ | .missing _ => true
  | _ => false

def settingNumber (limit : Nat) (word : String) : Except SettingFault Nat :=
  match Text.Numeral.unsigned? word.toList with
  | some (n, []) => if n ≤ limit then .ok n else .error (.tooLarge word)
  | _ => .error (.noNumber word)

def settingKey (word : String) : Except SettingFault UInt8 :=
  match word.toList with
  | [] => .ok 0
  | [c] => .ok c.toUInt8
  | '^' :: c :: rest =>
    if c = '-' ∧ rest = [] then .ok 0
    else if c = '?' then .ok 0o177
    else .ok (c.toUInt8 &&& 0o237)
  | _ =>
    if word = "undef" then .ok 0 else (settingNumber 255 word).map (·.toUInt8)

def speeds : List String :=
  ["0", "50", "75", "110", "134", "134.5", "150", "200", "300", "600", "1200", "1800", "2400",
    "4800", "9600", "19200", "38400", "exta", "extb", "57600", "115200", "230400", "460800"]

def takesValue (word : String) : Bool :=
  (ConsoleKey.ofName? word).isSome ||
    ["rows", "cols", "columns", "min", "time", "line", "ispeed", "ospeed"].contains word

/-- Apply a setting of one word, if it is one, and give what it asks to be shown. -/
def applyWord? (c : Console) (word : String) : Option (Console × String) :=
  match word with
  | "size" => some (c, s!"{c.lines} {c.columns}\n")
  | "speed" => some (c, "38400\n")
  | _ =>
    if takesValue word then none
    else if speeds.contains word then some (c, "")
    else
      let mode? :=
        match word.toList with
        | '-' :: rest => c.mode.combine? (String.ofList rest) false
        | _ => (c.mode.combine? word true).or (c.mode.ofCompact? word)
      mode?.map fun mode => (c.configure mode, "")

def applyPair (c : Console) (word value : String) : Except SettingFault Console :=
  let numbered (limit : Nat) (change : Nat → Console) := (settingNumber limit value).map change
  match word with
  | "rows" => numbered 0x7FFFFFFF fun n => { c with lines := n % 0x10000 }
  | "cols" | "columns" => numbered 0x7FFFFFFF fun n => { c with columns := n % 0x10000 }
  | "min" => numbered 255 fun n => { c with mode.least := n }
  | "time" => numbered 255 fun n => { c with mode.patience := n }
  | "line" => numbered 255 fun _ => c
  | "ispeed" | "ospeed" => if speeds.contains value then .ok c else .error (.unknown value)
  | _ =>
    match ConsoleKey.ofName? word with
    | some key => (settingKey value).map fun code => c.configure (c.mode.setKey key code)
    | none => .error (.unknown word)

/-- Apply settings one after another, after some that asked for the given text to
be shown. -/
def applySettings (c : Console) (shown : String) :
    List String → Except SettingFault (Console × String)
  | [] => .ok (c, shown)
  | [word] =>
    match c.applyWord? word with
    | some (c, text) => .ok (c, shown ++ text)
    | none => .error (if takesValue word then .missing word else .unknown word)
  | word :: value :: words =>
    match c.applyWord? word with
    | some (c, text) => applySettings c (shown ++ text) (value :: words)
    | none =>
      match c.applyPair word value with
      | .error fault => .error fault
      | .ok c => applySettings c shown words

/-- Change and show modes as the words say: the console after that, and what is
shown. A fault changes nothing. -/
def setBy (c : Console) (words : List String) : Except SettingFault (Console × String) :=
  let styles := words.filter fun w => ["-a", "--all", "-g", "--save"].contains w
  let settings := words.filter fun w => !styles.contains w
  match styles with
  | [] => if settings.isEmpty then .ok (c, c.showUnusual) else c.applySettings "" settings
  | style :: others =>
    let isFull := fun w => w = "-a" || w = "--all"
    if others.any fun w => isFull w != isFull style then .error .twoStyles
    else if !settings.isEmpty then .error .styleWithModes
    else .ok (c, if isFull style then c.showAll else c.mode.compact ++ "\n")

end Console

end DasherTerminal
