import DasherTerminal.Fault
import DasherTerminal.Link.Status

/-!
# The loopback

Without a host, what is written is read back: a queue of written pieces, with
a reader that can be taken once and dropped.
-/

namespace DasherTerminal

inductive Loopback.Holder where
  | unclaimed
  | taken
  | dropped
  deriving DecidableEq, Repr

structure Loopback where
  isOpen : Bool
  holder : Loopback.Holder
  /-- The pieces that have not been read yet, the first one perhaps in part. -/
  queue : List (List UInt8)
  deriving DecidableEq, Repr

namespace Loopback

def fresh : Loopback := ⟨true, .unclaimed, []⟩

instance : Inhabited Loopback := ⟨fresh⟩

/-- Write a piece. That fails once the loopback is closed or its reader gone. -/
def write (l : Loopback) (bytes : List UInt8) : Except Fault Loopback :=
  if l.isOpen && l.holder != .dropped then .ok { l with queue := l.queue ++ [bytes] }
  else .error .notConnected

/-- Take the reader. Only the first to ask gets it. -/
def takeReader (l : Loopback) : Except Fault Loopback :=
  if l.holder = .unclaimed then .ok { l with holder := .taken } else .error .notConnected

/-- Drop the reader, if someone has it; what was not read is gone. -/
def dropReader (l : Loopback) : Loopback :=
  if l.holder = .taken then { l with holder := .dropped, queue := [] } else l

def close (l : Loopback) : Loopback := { l with isOpen := false }

/-- Read at most `n` bytes from a queue: from its first piece that is not
empty, or none at its end. -/
def readQueue (n : Nat) : List (List UInt8) → Option (List UInt8 × List (List UInt8))
  | [] => none
  | piece :: rest =>
    if piece.isEmpty then readQueue n rest else some (piece.take n, piece.drop n :: rest)

/-- Read at most `n` bytes; `none` stands for a read that would wait. Nothing
is read only at the end, or if `n` is 0. -/
def read (l : Loopback) (n : Nat) : Option (List UInt8 × Loopback) :=
  if n = 0 then some ([], l)
  else
    match readQueue n l.queue with
    | some (bytes, queue) => some (bytes, { l with queue })
    | none => if l.isOpen then none else some ([], { l with queue := [] })

end Loopback

end DasherTerminal
