/-!
# Console modes

What a console does with typed and shown bytes: switches and control
characters, by the names they have on every console.
-/

namespace DasherTerminal

inductive ConsoleFlag where
  | parenb | parodd | cmspar | hupcl | cstopb | cread | clocal | crtscts
  | ignbrk | brkint | ignpar | parmrk | inpck | istrip | inlcr | igncr | icrnl | ixon | ixoff
  | iuclc | ixany | imaxbel | iutf8
  | opost | olcuc | ocrnl | onlcr | onocr | onlret | ofill | ofdel | tab3
  | isig | icanon | iexten | echo | echoe | echok | echonl | noflsh | xcase | tostop | echoprt
  | echoctl | echoke | flusho | extproc
  deriving DecidableEq, Repr

inductive ConsoleKey where
  | intr | quit | erase | kill | eof | eol | eol2 | swtch | start | stop | susp | rprnt | werase
  | lnext | discard
  deriving DecidableEq, Repr

structure ConsoleMode where
  flags : List ConsoleFlag
  /-- The byte of each control character. Zero stands for none. -/
  keys : ConsoleKey → UInt8
  /-- How many bytes a read waits for when lines are not collected. -/
  least : Nat
  /-- How long such a read waits, in tenths of a second. -/
  patience : Nat

namespace ConsoleMode

def usualKey : ConsoleKey → UInt8
  | .intr => 0o03
  | .quit => 0o34
  | .erase => 0o177
  | .kill => 0o25
  | .eof => 0o04
  | .eol | .eol2 | .swtch => 0
  | .start => 0o21
  | .stop => 0o23
  | .susp => 0o32
  | .rprnt => 0o22
  | .werase => 0o27
  | .lnext => 0o26
  | .discard => 0o17

def initial : ConsoleMode :=
  ⟨[.cread, .icrnl, .ixon, .opost, .onlcr, .isig, .icanon, .iexten, .echo, .echoe, .echok,
    .echoctl, .echoke], usualKey, 1, 0⟩

instance : Inhabited ConsoleMode := ⟨initial⟩

def has (m : ConsoleMode) (flag : ConsoleFlag) : Bool := m.flags.contains flag

def set (m : ConsoleMode) (flag : ConsoleFlag) (on : Bool) : ConsoleMode :=
  let others := m.flags.filter (· ≠ flag)
  { m with flags := if on then flag :: others else others }

def setAll (m : ConsoleMode) (flags : List ConsoleFlag) (on : Bool) : ConsoleMode :=
  flags.foldl (fun m flag => m.set flag on) m

def setKey (m : ConsoleMode) (key : ConsoleKey) (code : UInt8) : ConsoleMode :=
  { m with keys := fun k => if k = key then code else m.keys k }

def isKey (m : ConsoleMode) (key : ConsoleKey) (code : UInt8) : Bool :=
  code != 0 && m.keys key == code

theorem has_set (m : ConsoleMode) (flag other : ConsoleFlag) (on : Bool) :
    (m.set flag on).has other = if other = flag then on else m.has other := by
  by_cases h : other = flag <;> cases on <;> simp [has, set, h]

theorem keys_setKey (m : ConsoleMode) (key : ConsoleKey) (code : UInt8) :
    (m.setKey key code).keys key = code := by
  simp [setKey]

end ConsoleMode

end DasherTerminal
