import DasherTerminal.Fault
import DasherTerminal.Link.Status
import DasherTerminal.Shell.Course

/-!
# Links to programs

A program on a console of the screen's size, and the reader of what it shows. The
link remembers what has happened to the program; what the program has shown by
then follows from that.
-/

namespace DasherTerminal

structure ProgramLink where
  program : String
  name : String
  arguments : List String
  size : ScreenSize
  past : List Stimulus
  /-- How much of what it has shown was read. -/
  shown : Nat
  readerTaken : Bool
  isOpen : Bool
  deriving DecidableEq, Repr

namespace ProgramLink

def start (command : List String) (size : ScreenSize) : Except Fault ProgramLink :=
  let refuse (reason : String) : Except Fault ProgramLink :=
    .error (.connect (Target.program command).label (.worded reason))
  match command with
  | [] => refuse "empty command"
  | name :: arguments =>
    match Shell.Program.find? name with
    | some program => .ok ⟨program, name, arguments, size, [], 0, false, true⟩
    | none => refuse ("Unable to spawn " ++ name ++ " because it does not exist")

def status (l : ProgramLink) : LinkStatus := .ofTarget (.program (l.name :: l.arguments))

def course (l : ProgramLink) : Shell.Course := .of l.program l.name l.arguments l.size l.past

def takeReader (l : ProgramLink) : Except Fault ProgramLink :=
  if l.readerTaken then .error .notConnected else .ok { l with readerTaken := true }

def happen (l : ProgramLink) (s : Stimulus) : ProgramLink := { l with past := l.past ++ [s] }

/-- Type bytes. Nothing can be typed once the program has ended. -/
def write (l : ProgramLink) (bytes : List UInt8) : Except Fault ProgramLink :=
  if bytes.isEmpty then .ok l
  else if !l.isOpen || l.course.pause.isNone then .error (.transfer .inputOutput)
  else .ok (l.happen (.typed bytes))

def resize (l : ProgramLink) (size : ScreenSize) : Except Fault ProgramLink :=
  if l.isOpen then .ok (l.happen (.resized size)) else .error .notConnected

def close (l : ProgramLink) : ProgramLink := { l with isOpen := false }

/-- The shortest part of some bytes, from their start, that ends in a mark. -/
def through? (mark : List UInt8) (bytes : List UInt8) : Option (List UInt8) :=
  go mark.reverse [] bytes
where
  /-- The same, with the mark and the bytes that were passed already backwards. -/
  go (backwards passed : List UInt8) : List UInt8 → Option (List UInt8)
    | [] => if backwards.isPrefixOf passed then some passed.reverse else none
    | b :: rest =>
      if backwards.isPrefixOf passed then some passed.reverse else go backwards (b :: passed) rest

/-- How often a sleeping program is waited for. -/
def patience : Nat := 500

/-- Read up to a mark, or up to the end without one, and wait for a program that
sleeps. -/
def read (l : ProgramLink) (mark : Option (List UInt8)) : List UInt8 × ProgramLink :=
  go patience l
where
  /-- The same, while the program sleeps at most so many times. -/
  go : Nat → ProgramLink → List UInt8 × ProgramLink
    | n, l =>
      let course := l.course
      let unread := course.output.toList.drop l.shown
      let taken (bytes : List UInt8) := (bytes, { l with shown := l.shown + bytes.length })
      match mark.bind (through? · unread), n with
      | some part, _ => taken part
      | none, 0 => taken unread
      | none, n + 1 =>
        if l.isOpen && course.pause = some .asleep then go n (l.happen .waited) else taken unread

end ProgramLink

end DasherTerminal
