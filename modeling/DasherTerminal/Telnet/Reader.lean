import DasherTerminal.Telnet.Filter

/-!
# Reading from a telnet host

The reader hands out the host's data in pieces of any size. It reads from the
socket only when it has nothing left to hand out, and answers the requests it
finds before it hands out the data that came with them.
-/

namespace DasherTerminal.Telnet

/-- One read from the socket. -/
structure Arrival where
  raw : List UInt8
  /-- Whether the host still takes an answer then. -/
  answerable : Bool
  deriving DecidableEq, Repr

def socketRead : Nat := 4096

structure Reader where
  phase : Phase
  /-- Data that has not been handed out yet. -/
  pending : List UInt8
  /-- What the socket will still bring; after that comes the end. -/
  arrivals : List Arrival
  answered : List UInt8
  deriving DecidableEq, Repr

namespace Reader

def fresh (arrivals : List Arrival) : Reader := ⟨.data, [], arrivals, []⟩

/-- Take one arrival. The first part is false if an answer could not be
written; the data that came with the request is kept all the same. -/
def receive (r : Reader) (a : Arrival) (rest : List Arrival) : Bool × Reader :=
  let out := r.phase.run a.raw
  if out.replies.isEmpty then (true, ⟨out.phase, out.data, rest, r.answered⟩)
  else if a.answerable then (true, ⟨out.phase, out.data, rest, r.answered ++ out.replies⟩)
  else (false, ⟨out.phase, out.data, rest, r.answered⟩)

/-- Read from the socket until there is data or the end. The first part is
false if an answer could not be written. -/
def fill (r : Reader) : List Arrival → Bool × Reader
  | [] => (true, { r with arrivals := [] })
  | a :: rest =>
    match r.receive a rest with
    | (true, r') => if r'.pending.isEmpty then r'.fill rest else (true, r')
    | failed => failed

/-- Read at most `n` bytes. Nothing is read only at the end, or if `n` is 0;
`none` stands for an answer that could not be written. Then nothing is handed
out, though there may be data to hand out to who reads on. -/
def read (r : Reader) (n : Nat) : Option (List UInt8) × Reader :=
  if n = 0 then (some [], r)
  else
    match if r.pending.isEmpty then r.fill r.arrivals else (true, r) with
    | (true, r) => (some (r.pending.take n), { r with pending := r.pending.drop n })
    | (false, r) => (none, r)

/-- Read in pieces of at most `n` bytes until the end or a failure, with fuel
for the number of pieces. Gives everything read and whether it ended well. -/
def readAll (n : Nat) : Nat → Reader → List UInt8 × Bool × Reader
  | 0, r => ([], true, r)
  | fuel + 1, r =>
    match r.read n with
    | (none, r) => ([], false, r)
    | (some [], r) => ([], true, r)
    | (some bytes, r) =>
      let (more, ended, r) := readAll n fuel r
      (bytes ++ more, ended, r)

end Reader

end DasherTerminal.Telnet
