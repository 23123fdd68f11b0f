import DasherTerminal.Session.Run
import DasherTerminal.Proofs.Terminal.Operation

/-!
# The threads of a session

A session is the work of two threads and of a network. Here every access to
what they share is a move of its own, and moves come in any order. The reader
reads a piece, looks at the flag, copies the piece, and looks at the flag again
before each byte that it processes. The user's thread opens a link, raises the
flag, closes the old link, waits until its reader has ended and starts the next
one. What came in on each link, and what became of it, is put on record.
-/

namespace DasherTerminal

def Arrival.content : Arrival → List UInt8
  | .bytes piece => piece
  | _ => []

def Link.unread (l : Link) : List UInt8 := l.inbound.flatMap Arrival.content

/-- The bytes that an operation takes from a link. -/
def Terminal.Operation.fed : Terminal.Operation → List UInt8
  | .process bytes => bytes
  | _ => []

def Request.changesLink : Request → Bool
  | .connect _ => true
  | .reconnect => true
  | .disconnect => true
  | .poll => true
  | _ => false

namespace Session

def unread (s : Session) : List UInt8 := (s.link.map Link.unread).getD []

def raiseFlag (s : Session) : Session :=
  match s.link with
  | some l => { s with link := some { l with stopping := true } }
  | none => s

def closeLink (s : Session) : Session :=
  match s.link with
  | some l => { s.log (.close l.number) with link := some (l.arrive .ending) }
  | none => s

theorem stopReader_eq (s : Session) : s.stopReader = s.raiseFlag.closeLink := by
  obtain ⟨_, _, link, _, _, _, _, _, _⟩ := s
  cases link <;> rfl

def operations (s : Session) : Request → List Terminal.Operation
  | .selfTest => [.selfTest]
  | .cycleModel => [.setModel s.terminal.screen.model.next]
  | .toggleBlink => [.setBlinkEnabled !s.terminal.screen.blinkEnabled]
  | .resize size => [.resize size]
  | _ => []

end Session

namespace Threads

/-! ### The reader -/

/-- What the reader has in hand between two moves, beside what its link holds. -/
inductive Hand where
  | empty
  /-- A piece that was read. The flag has not been looked at since. -/
  | unchecked (piece : List UInt8)
  /-- A piece for which the flag was down. -/
  | uncopied (piece : List UInt8)
  /-- A byte for which the flag was down. -/
  | byte (b : UInt8)
  deriving DecidableEq, Repr

/-- The record of a link: what came in, what of that was read, and what of that
the terminal was fed; and whether poll let go of the link because its reader had
ended. -/
structure Account where
  target : Option Target
  inbound : List UInt8
  delivered : List UInt8
  processed : List UInt8
  hungUp : Bool
  deriving DecidableEq, Repr

def Account.fresh (target : Option Target) : Account := ⟨target, [], [], [], false⟩

inductive ReaderMove where
  | read (n : Nat)
  | retry
  /-- The read gives the end of the stream, or a fault. -/
  | finish
  | look
  | copy
  | process
  deriving DecidableEq, Repr

/-- A reader at work, with its link and the record of that. -/
structure Reading where
  link : Link
  hand : Hand
  account : Account
  deriving DecidableEq, Repr

namespace Reading

/-- What a read of so many bytes leaves of what came in. -/
def leave (n : Nat) (bytes : List UInt8) (rest : List Arrival) : List Arrival :=
  if n < bytes.length then .bytes (bytes.drop n) :: rest else rest

def read? (r : Reading) (n : Nat) : Option Reading :=
  match r.hand, r.link.held, r.link.inbound with
  | .empty, [], .bytes bytes :: rest =>
    if n ≤ readPiece ∧ n ≤ bytes.length ∧ (n = 0 → bytes = []) then
      some {
        link := { r.link with inbound := leave n bytes rest }
        hand := .unchecked (bytes.take n)
        account := { r.account with delivered := r.account.delivered ++ bytes.take n } }
    else none
  | _, _, _ => none

def retry? (r : Reading) : Option Reading :=
  match r.hand, r.link.held, r.link.inbound with
  | .empty, [], .interrupted :: inbound => some { r with link := { r.link with inbound } }
  | _, _, _ => none

def finish? (r : Reading) : Option Reading :=
  match r.hand, r.link.held, r.link.inbound with
  | .empty, [], .ending :: inbound =>
    some { r with link := { r.link with inbound, finished := true } }
  | .empty, [], _ => some { r with link := { r.link with finished := true } }
  | _, _, _ => none

/-- With the flag up a piece that was just read ends the reader; what is left of
one that was copied is dropped, and the next is read. -/
def look? (r : Reading) : Option Reading :=
  match r.hand, r.link.held with
  | .unchecked piece, _ =>
    if r.link.stopping then some { r with link := { r.link with finished := true }, hand := .empty }
    else some { r with hand := .uncopied piece }
  | .empty, b :: held =>
    if r.link.stopping then some { r with link := { r.link with held := [] } }
    else some { r with link := { r.link with held }, hand := .byte b }
  | _, _ => none

def copy? (r : Reading) : Option Reading :=
  match r.hand with
  | .uncopied piece => some { r with link := { r.link with held := piece }, hand := .empty }
  | _ => none

def process? (r : Reading) : Option Reading :=
  match r.hand with
  | .byte b =>
    some { r with
      hand := .empty
      account := { r.account with processed := r.account.processed ++ [b] } }
  | _ => none

def step? (r : Reading) : ReaderMove → Option Reading
  | .read n => r.read? n
  | .retry => r.retry?
  | .finish => r.finish?
  | .look => r.look?
  | .copy => r.copy?
  | .process => r.process?

end Reading

/-! ### The user's thread -/

/-- Why the link is replaced. -/
inductive Errand where
  | connect (target : Target)
  | leave
  /-- Poll has found that the host hung up. -/
  | leaveHungUp
  deriving DecidableEq, Repr

def Errand.target? : Errand → Option Target
  | .connect target => some target
  | _ => none

/-- A question whose answer has not been sent: the link whose byte asked, and
how many links were started since. -/
structure Question where
  asker : Nat
  switches : Nat
  deriving DecidableEq, Repr

structure Delivery where
  question : Question
  receiver : Nat
  bytes : List UInt8
  deriving DecidableEq, Repr

/-- What the user's thread does next. -/
inductive Task where
  /-- Whatever the user asks for. -/
  | free
  | opening (e : Errand)
  | raising (e : Errand)
  | closing (e : Errand)
  | joining (e : Errand)
  | starting (e : Errand)
  | draining
  | sending (answers : List (Question × List UInt8)) (news : List Notification)
  deriving DecidableEq, Repr

end Threads

open Threads in
/-- A session between two moves, and the record of its past: all operations on
the terminal, the links up to the one started last, the questions whose answers
the terminal has queued, and the answers that were sent. -/
structure Threads where
  session : Session
  hand : Hand
  task : Task
  past : List Terminal.Operation
  closed : List Account
  current : Account
  asked : List Question
  answered : List Delivery

namespace Threads

def start (terminal : Terminal) (encoder : Encoder) (files : Files) : Threads where
  session :=
    { terminal, encoder, files, link := some (.fresh 0 none), opened := 1, capture := none,
      lastTarget := none, notices := [], calls := #[.open none terminal.screen.size] }
  hand := .empty
  task := .free
  past := []
  closed := []
  current := .fresh none
  asked := []
  answered := []

def accounts (m : Threads) : List Account := m.closed ++ [m.current]

/-- The links that are not in use any more. -/
def earlier (m : Threads) : List Account :=
  if m.session.link.isSome then m.closed else m.accounts

def setLink (m : Threads) (l : Link) : Threads :=
  { m with session := { m.session with link := some l } }

/-- The session changes in one move: its terminal by operations, its link by
nothing but arrivals. -/
def undergo (m : Threads) (s : Session) (ops : List Terminal.Operation) : Threads :=
  { m with
    session := s
    past := m.past ++ ops
    current := { m.current with
      inbound := m.current.inbound ++ s.unread.drop m.session.unread.length }
    asked := m.asked.take s.terminal.decoder.responses.length }

def process (m : Threads) (number : Nat) (b : UInt8) : Threads :=
  let terminal := m.session.terminal.process [b]
  let new := terminal.decoder.responses.length - m.session.terminal.decoder.responses.length
  { m with
    session := { m.session with terminal }
    past := m.past ++ [.process [b]]
    asked := m.asked ++ List.replicate new ⟨number, 0⟩ }

/-- What a move of the reader does outside its link: a piece is copied, or a
byte is processed. -/
def effect (m : Threads) (number : Nat) (move : ReaderMove) (hand : Hand) : Threads :=
  match move, hand with
  | .copy, .uncopied piece => { m with session := m.session.record piece }
  | .process, .byte b => m.process number b
  | _, _ => m

def readerStep? (m : Threads) (move : ReaderMove) : Option Threads :=
  match m.session.link with
  | some l =>
    if l.finished then none
    else (Reading.step? ⟨l, m.hand, m.current⟩ move).map fun r =>
      { m.setLink r.link with hand := r.hand, current := r.account }.effect l.number move m.hand
  | none => none

/-- Begin with a request, or fulfil it if it is not about links. -/
def request (m : Threads) (out : Outside) (r : Request) : Threads :=
  match r with
  | .connect target => { m with task := .opening (.connect target) }
  | .reconnect =>
    match m.session.lastTarget with
    | some target => { m with task := .opening (.connect target) }
    | none => m
  | .disconnect => { m with task := .opening .leave }
  | .poll => { m with task := if m.session.isHungUp then .opening .leaveHungUp else .draining }
  | r => m.undergo (m.session.perform out r).2 (m.session.operations r)

def release (m : Threads) (e : Errand) : Threads :=
  { m with
    session := { m.session with link := none }
    current := { m.current with hungUp := m.current.hungUp || e = .leaveHungUp }
    task := .starting e }

def startLink (m : Threads) (e : Errand) : Threads :=
  { m with
    session := { m.session with
      link := some (.fresh m.session.opened e.target?)
      opened := m.session.opened + 1
      lastTarget := e.target? <|> m.session.lastTarget }
    closed := m.closed ++ [m.current]
    current := .fresh e.target?
    asked := m.asked.map fun q => { q with switches := q.switches + 1 }
    task := if e = .leaveHungUp then .draining else .free }

def drain (m : Threads) : Threads :=
  let decoder := m.session.terminal.decoder
  let ops : List Terminal.Operation := [.drainResponses, .drainNotifications]
  { m with
    session := { m.session with terminal := m.session.terminal.performAll ops }
    past := m.past ++ ops
    asked := []
    task := .sending (m.asked.zip decoder.responses) decoder.notifications }

/-- Send an answer. After one that cannot be sent the others are lost. -/
def answer (m : Threads) (out : Outside) (question : Question) (bytes : List UInt8)
    (answers : List (Question × List UInt8)) (news : List Notification) : Threads :=
  match m.session.link, m.session.send out bytes with
  | some l, (.ok (), s) =>
    { m.undergo s [] with
      answered := m.answered ++ [⟨question, l.number, bytes⟩]
      task := .sending answers news }
  | _, _ => { m with task := .free }

/-- The next move in the middle of something. -/
def proceed? (m : Threads) (out : Outside) : Option Threads :=
  match m.task with
  | .free => none
  | .opening e =>
    let session := m.session.log (.open e.target? m.session.terminal.screen.size)
    some { m with session, task := if (out.openFault? e.target?).isSome then .free else .raising e }
  | .raising e => some { m with session := m.session.raiseFlag, task := .closing e }
  | .closing e => some { m with session := m.session.closeLink, task := .joining e }
  | .joining e => if m.session.link.all Link.finished then some (m.release e) else none
  | .starting e =>
    some (if out.readerFault?.isSome then { m with task := .free } else m.startLink e)
  | .draining => some m.drain
  | .sending [] news =>
    some { m with
      session := { m.session with notices := m.session.notices ++ news }
      task := .free }
  | .sending ((question, bytes) :: answers) news => some (m.answer out question bytes answers news)

/-! ### Moves in any order -/

inductive Move where
  | arrival (a : Arrival)
  /-- Two pieces that came in reach the reader as one. -/
  | merge
  | reader (move : ReaderMove)
  | request (out : Outside) (r : Request)
  | proceed (out : Outside)
  | blinkTimer

def merged : List Arrival → List Arrival
  | .bytes a :: .bytes b :: rest => .bytes (a ++ b) :: rest
  | inbound => inbound

def step? (m : Threads) : Move → Option Threads
  | .arrival a => (m.session.arrive? a).map (m.undergo · [])
  | .merge => m.session.link.map fun l => m.setLink { l with inbound := merged l.inbound }
  | .reader move => m.readerStep? move
  | .request out r => if m.task = .free then some (m.request out r) else none
  | .proceed out => m.proceed? out
  | .blinkTimer => some (m.undergo m.session.tickBlink [.toggleBlinkPhase])

/-- What cannot be done does not happen. -/
def next (m : Threads) (move : Move) : Threads := (m.step? move).getD m

def run (m : Threads) (moves : List Move) : Threads := moves.foldl next m

@[simp] theorem run_nil (m : Threads) : m.run [] = m := rfl

@[simp] theorem run_cons (m : Threads) (move : Move) (moves : List Move) :
    m.run (move :: moves) = (m.next move).run moves := rfl

theorem run_append (m : Threads) (a b : List Move) : m.run (a ++ b) = (m.run a).run b := by
  simp [run]

end Threads

end DasherTerminal
