import DasherTerminal.Console.Mode
import DasherTerminal.Screen.Size

/-!
# Consoles

A program of this computer runs on a console. The console shows what is typed,
lets the line be corrected before the program gets it, and can change what the
program shows on its way to the screen. All of that depends on its modes.

What is echoed waits until the bytes that were typed together have been taken,
and then goes to the screen in one piece.
-/

namespace DasherTerminal

inductive Signal where
  | interrupt
  | quit
  | suspend
  deriving DecidableEq, Repr

inductive Echo where
  /-- A byte, shown as if a program showed it. -/
  | byte (code : UInt8)
  /-- A control code, as a caret and a letter. -/
  | caret (code : UInt8)
  /-- Go back over a tab that stood after so many columns. They count from the
  tab before it, or from the start of the line. -/
  | overTab (columns : Nat) (afterTab : Bool)
  /-- The line starts in this column. -/
  | lineStart
  /-- The byte before takes no column. -/
  | backColumn
  deriving DecidableEq, Repr

def Echo.room : Echo → Nat
  | .byte code => if code = 0xFF then 2 else 1
  | .caret _ | .lineStart | .backColumn => 2
  | .overTab _ _ => 3

/-- A byte that can be read, and whether a line ends with it. A zero that ends a
line stands for the end of input. -/
structure ReadyByte where
  code : UInt8
  isEnd : Bool
  deriving DecidableEq, Repr

structure Console where
  lines : Nat
  columns : Nat
  mode : ConsoleMode
  ready : List ReadyByte
  /-- The line that is being typed, last byte first. -/
  line : List UInt8
  column : Nat
  /-- The column where the typed line starts. -/
  lineColumn : Nat
  /-- The next byte stands for itself. -/
  literal : Bool
  /-- Erased bytes are being printed. -/
  erasing : Bool
  echoes : Array Echo
  /-- The screen is stopped. -/
  held : Bool
  /-- The signals that the program has not noticed yet. -/
  raised : List Signal
  output : Array UInt8

namespace Console

def fresh (size : ScreenSize) : Console :=
  { lines := size.lines, columns := size.cols, mode := .initial, ready := [], line := []
    column := 0, lineColumn := 0, literal := false, erasing := false, echoes := #[]
    held := false, raised := [], output := #[] }

instance : Inhabited Console := ⟨fresh .default⟩

def resize (c : Console) (size : ScreenSize) : Console :=
  { c with lines := size.lines, columns := size.cols }

def has (c : Console) (flag : ConsoleFlag) : Bool := c.mode.has flag

def isControl (b : UInt8) : Bool := b < 0x20 || b == 0x7F

def isContinuation (c : Console) (b : UInt8) : Bool := c.has .iutf8 && b &&& 0xC0 == 0x80

/-- Whether a byte belongs to a word that is erased as a whole. -/
def isWordByte (b : UInt8) : Bool :=
  (0x30 ≤ b && b ≤ 0x39) || (0x41 ≤ b && b ≤ 0x5A) || (0x61 ≤ b && b ≤ 0x7A) || b == 0x5F ||
    (0xC0 ≤ b && b != 0xD7 && b != 0xF7)

def upperByte (b : UInt8) : UInt8 := if 0x61 ≤ b && b ≤ 0x7A then b - 0x20 else b

def lowerByte (b : UInt8) : UInt8 := if 0x41 ≤ b && b ≤ 0x5A then b + 0x20 else b

/-! ### Output -/

def put (c : Console) (b : UInt8) : Console := { c with output := c.output.push b }

def putAll (c : Console) (bytes : List UInt8) : Console := bytes.foldl put c

def showNewLine (c : Console) : Console :=
  let c := if c.has .onlret then { c with column := 0 } else c
  if c.has .onlcr then { c with column := 0, lineColumn := 0 }.putAll [0o15, 0o12]
  else { c with lineColumn := c.column }.put 0o12

def showReturn (c : Console) : Console :=
  if c.has .onocr && c.column == 0 then c
  else if c.has .ocrnl then
    (if c.has .onlret then { c with column := 0, lineColumn := 0 } else c).put 0o12
  else { c with column := 0, lineColumn := 0 }.put 0o15

def showTab (c : Console) : Console :=
  let blanks := 8 - c.column % 8
  let moved := { c with column := c.column + blanks }
  if c.has .tab3 then moved.putAll (List.replicate blanks 0x20) else moved.put 0o11

def showByte (c : Console) (b : UInt8) : Console :=
  if !c.has .opost then c.put b
  else if b = 0o12 then c.showNewLine
  else if b = 0o15 then c.showReturn
  else if b = 0o11 then c.showTab
  else if b = 0o10 then { c with column := c.column - 1 }.put b
  else if isControl b then c.put b
  else
    let width := if c.isContinuation b then 0 else 1
    { c with column := c.column + width }.put (if c.has .olcuc then upperByte b else b)

/-- A program shows bytes. The columns are only counted as long as the bytes are
changed on their way. -/
def display (c : Console) (bytes : List UInt8) : Console := bytes.foldl showByte c

/-! ### Echo -/

def showEcho (c : Console) : Echo → Console
  | .byte code => c.showByte code
  | .caret code => { c with column := c.column + 2 }.putAll [0x5E, code ^^^ 0x40]
  | .overTab columns afterTab =>
    let back := 8 - (columns + if afterTab then 0 else c.lineColumn) % 8
    { c with column := c.column - back }.putAll (List.replicate back 0o10)
  | .lineStart => { c with lineColumn := c.column }
  | .backColumn => { c with column := c.column - 1 }

/-- Echo everything that waits, unless the screen is stopped. -/
def flush (c : Console) : Console :=
  if c.held then c else c.echoes.foldl showEcho { c with echoes := #[] }

def wait (c : Console) (e : Echo) : Console := { c with echoes := c.echoes.push e }

def waitAll (c : Console) (bytes : List UInt8) : Console :=
  bytes.foldl (fun c b => c.wait (.byte b)) c

def echoOf (c : Console) (b : UInt8) : Echo :=
  if c.has .echoctl && isControl b && b != 0o11 then .caret b else .byte b

/-- The room for waiting echoes. A full block of it is echoed early. -/
def echoBlock : Nat := 256

/-- Echo what waits if it fills blocks exactly. -/
def settle (c : Console) : Console :=
  let room := c.echoes.foldl (fun n e => n + e.room) 0
  if room ≠ 0 ∧ room % echoBlock = 0 then c.flush else c

def endErasing (c : Console) : Console :=
  if c.erasing then { c with erasing := false }.wait (.byte 0x2F) else c

/-- Echo a typed byte. The first one of a line marks where the line starts. A
line feed that was typed as a carriage return is echoed as such. -/
def echoTyped (c : Console) (b : UInt8) (bare : Bool) : Console :=
  if c.has .echo then
    let c := c.endErasing
    if bare then (c.wait (.byte b)).settle
    else
      let c := if c.line.isEmpty then c.wait .lineStart else c
      (c.wait (c.echoOf b)).settle
  else c

/-! ### Input -/

/-- Keep a byte for the program, in the line or ready at once. -/
def keep (c : Console) (b : UInt8) : Console :=
  let bytes := if b = 0xFF && c.has .parmrk then [b, b] else [b]
  if c.has .icanon then { c with line := bytes ++ c.line }
  else { c with ready := c.ready ++ bytes.map fun b => ⟨b, false⟩ }

def finish (c : Console) (b : UInt8) : Console :=
  { c with
    ready := c.ready ++ c.line.reverse.map (fun b => ⟨b, false⟩) ++ [⟨b, true⟩]
    line := [] }

def literally (c : Console) (b : UInt8) : Console := (c.echoTyped b false).keep b

/-- The columns of typed bytes back to a tab, and whether there is one. -/
def columnsToTab (c : Console) : List UInt8 → Nat × Bool
  | [] => (0, false)
  | b :: rest =>
    if b = 0o11 then (0, true)
    else
      let (columns, tab) := c.columnsToTab rest
      let width :=
        if isControl b then if c.has .echoctl then 2 else 0
        else if c.isContinuation b then 0
        else 1
      (columns + width, tab)

inductive Erasure where
  | character
  | word
  | line
  deriving DecidableEq, Repr

/-- Show that a character is erased: its first byte, the others, and what is left
before it. -/
def echoErased (c : Console) (e : Erasure) (first : UInt8) (others left : List UInt8) : Console :=
  if !c.has .echo then c
  else if c.has .echoprt then
    let c := if c.erasing then c else { c with erasing := true }.wait (.byte 0x5C)
    others.foldl (fun c b => (c.wait (.byte b)).wait .backColumn) (c.wait (c.echoOf first))
  else if e = .character && !c.has .echoe then c.wait (c.echoOf (c.mode.keys .erase))
  else if first = 0o11 then
    let (columns, tab) := c.columnsToTab left
    c.wait (.overTab columns tab)
  else
    let rubOut := [0o10, 0x20, 0o10]
    if !isControl first then c.waitAll rubOut
    else if c.has .echoctl then c.waitAll (rubOut ++ rubOut)
    else c

/-- Erase from the end of the line. A word ends where its letters end. -/
def eraseFrom (c : Console) (e : Erasure) (inWord : Bool) (others : List UInt8) :
    List UInt8 → Console
  | [] => { c with line := others.reverse }
  | b :: left =>
    if c.isContinuation b then c.eraseFrom e inWord (b :: others) left
    else if e = .word && inWord && !isWordByte b then { c with line := others.reverse ++ b :: left }
    else
      let c := { c.echoErased e b others left with line := left }
      if e = .character then c else c.eraseFrom e (inWord || isWordByte b) [] left

/-- Erase. A line is only shown character by character if the modes say so. -/
def erase (c : Console) (e : Erasure) : Console :=
  if c.line.isEmpty then c
  else if e = .line && !c.has .echo then { c with line := [] }
  else if e = .line && !(c.has .echok && c.has .echoke && c.has .echoe) then
    let c := { c with line := [] }.endErasing
    let c := c.wait (c.echoOf (c.mode.keys .kill))
    if c.has .echok then c.wait (.byte 0o12) else c
  else
    let c := c.eraseFrom e false [] c.line
    if c.line.isEmpty && c.has .echo then c.endErasing else c

def reprint (c : Console) : Console :=
  let c := (c.endErasing.wait (c.echoOf (c.mode.keys .rprnt))).wait (.byte 0o12)
  c.line.reverse.foldl (fun c b => c.wait (c.echoOf b)) c

/-- Raise a signal. What was typed and what waits to be echoed is forgotten. -/
def raise (c : Console) (s : Signal) (b : UInt8) : Console :=
  let c :=
    if c.has .noflsh then c
    else { c with ready := [], line := [], echoes := #[], erasing := false, literal := false }
  let c := { c with raised := c.raised ++ [s], held := c.held && !c.has .ixon }
  if c.has .echo then (c.wait (c.echoOf b)).settle else c.flush

def signal? (c : Console) (b : UInt8) : Option Signal :=
  if !c.has .isig then none
  else if c.mode.isKey .intr b then some .interrupt
  else if c.mode.isKey .quit b then some .quit
  else if c.mode.isKey .susp b then some .suspend
  else none

/-- A line feed for a carriage return, or the other way round. Nothing if the
byte is dropped. -/
def translate? (c : Console) (b : UInt8) : Option UInt8 :=
  if b = 0o15 then
    if c.has .igncr then none else some (if c.has .icrnl then 0o12 else b)
  else some (if b = 0o12 && c.has .inlcr then 0o15 else b)

def edit? (c : Console) (b : UInt8) : Option Console :=
  let key := fun k => c.mode.isKey k b
  let extended := c.has .iexten
  if key .erase then some (c.erase .character).settle
  else if key .kill then some (c.erase .line).settle
  else if key .werase && extended then some (c.erase .word).settle
  else if key .lnext && extended then
    let c := { c with literal := true }
    if !c.has .echo then some c
    else
      let c := c.endErasing
      some (if c.has .echoctl then (c.waitAll [0x5E, 0o10]).settle else c)
  else if key .rprnt && extended && c.has .echo then some c.reprint.settle
  else if b = 0o12 then
    let c := if c.has .echo || c.has .echonl then (c.wait (.byte b)).settle else c
    some (c.finish b)
  else if key .eof then some (c.finish 0)
  else if key .eol || (key .eol2 && extended) then some ((c.echoTyped b false).finish b)
  else none

def lineLimit : Nat := 4096

/-- Forget the last byte of a line that is too long. -/
def trim (c : Console) : Console :=
  if c.has .icanon && c.ready.isEmpty && lineLimit ≤ c.line.length then
    { c with line := c.line.drop 1 }
  else c

def receive (c : Console) (b : UInt8) : Console :=
  if c.has .ixon && c.mode.isKey .start b then { c with held := false }.flush
  else if c.has .ixon && c.mode.isKey .stop b then { c with held := true }
  else
    match c.signal? b with
    | some s => c.raise s b
    | none =>
      let c := if c.held && c.has .ixon && c.has .ixany then { c with held := false }.flush else c
      match c.translate? b with
      | none => c
      | some code =>
        match if c.has .icanon then c.edit? code else none with
        | some c => c
        | none => (c.echoTyped code (code = 0o12 && b ≠ 0o12)).keep code

def typeByte (c : Console) (b : UInt8) : Console :=
  let c := c.trim
  let b := if c.has .istrip then b &&& 0x7F else b
  let b := if c.has .iuclc && c.has .iexten then lowerByte b else b
  if c.literal then { c with literal := false }.literally b
  else if c.has .extproc then c.keep b
  else c.receive b

def type (c : Console) (bytes : List UInt8) : Console := (bytes.foldl typeByte c).flush

/-! ### Reading -/

/-- The first line, at most so many bytes of it, and what comes after that. The
end of input is skipped if the bytes before it were as many as that. -/
def takeLine : Nat → List ReadyByte → List UInt8 × List ReadyByte
  | 0, ⟨0, true⟩ :: rest => ([], rest)
  | 0, rest => ([], rest)
  | _ + 1, [] => ([], [])
  | n + 1, b :: rest =>
    if b.isEnd then (if b.code = 0 then [] else [b.code], rest)
    else
      let (bytes, left) := takeLine n rest
      (b.code :: bytes, left)

/-- Read at most so many bytes. No bytes stand for the end of input; nothing at
all if the program has to wait. -/
def read? (c : Console) (limit : Nat) : Option (List UInt8 × Console) :=
  if c.has .icanon then
    if c.ready.isEmpty then none
    else
      let (bytes, ready) := takeLine limit c.ready
      some (bytes, { c with ready })
  else if c.ready.length < min c.mode.least limit then none
  else some ((c.ready.take limit).map (·.code), { c with ready := c.ready.drop limit })

/-- Change the modes. What was typed stays; when lines begin or cease to be
collected it becomes ready. -/
def configure (c : Console) (mode : ConsoleMode) : Console :=
  let old := c.mode
  let c := { c with mode }
  let c :=
    if old.has .icanon = mode.has .icanon then c
    else
      let bytes := c.ready.map (·.code) ++ c.line.reverse
      let last := bytes.length - 1
      { c with
        ready := bytes.mapIdx fun i b => ⟨b, mode.has .icanon && i == last⟩
        line := [], erasing := false, literal := false }
  if old.has .ixon && !mode.has .ixon then { c with held := false }.flush else c

theorem display_append (c : Console) (a b : List UInt8) :
    c.display (a ++ b) = (c.display a).display b := by
  simp [display]

end Console

end DasherTerminal
