import DasherTerminal.Files.Basic
import DasherTerminal.Input.Action
import DasherTerminal.Keyboard.Encoder
import DasherTerminal.Link.Status
import DasherTerminal.Protocol.Terminal
import DasherTerminal.Session.Outside

/-!
# Sessions

A session joins the terminal, the keyboard and the current link. Without a host
the link is a loopback, so that what is typed comes back. What arrives on the
link is read in pieces and processed byte by byte by a reader of its own, one
small step at a time; a stop request keeps it from the screen.
-/

namespace DasherTerminal

inductive Arrival where
  | bytes (bytes : List UInt8)
  /-- A read that was interrupted and is tried again. -/
  | interrupted
  /-- The end of the stream, or a read that failed. -/
  | ending
  deriving DecidableEq, Repr

def Arrival.steps : Arrival → Nat
  | .bytes piece => 2 * piece.length + 1
  | _ => 1

/-- The most bytes that a reader takes at once. -/
def readPiece : Nat := 4096

structure Link where
  /-- How many links were opened before. -/
  number : Nat
  /-- Where the link leads; a loopback leads nowhere. -/
  target : Option Target
  /-- What came in and has not been read. -/
  inbound : List Arrival
  /-- The part of the piece read last that has not been processed. -/
  held : List UInt8
  /-- The reader is asked to stop. -/
  stopping : Bool
  finished : Bool
  deriving DecidableEq, Repr

namespace Link

def fresh (number : Nat) (target : Option Target) : Link := ⟨number, target, [], [], false, false⟩

def status (l : Link) : LinkStatus :=
  match l.target with
  | none => .offline
  | some target => .ofTarget target

def isOnline (l : Link) : Bool := l.target.isSome

def arrive (l : Link) (a : Arrival) : Link := { l with inbound := l.inbound ++ [a] }

/-- The small steps that a reader can make at most before it waits. -/
def steps (l : Link) : Nat :=
  l.inbound.foldl (fun n a => n + a.steps) l.held.length

end Link

structure Session where
  terminal : Terminal
  encoder : Encoder
  link : Option Link
  /-- How many links were opened. -/
  opened : Nat
  /-- Where to everything is copied that is read. -/
  capture : Option Location
  files : Files
  lastTarget : Option Target
  /-- Notifications that were collected and not shown yet. -/
  notices : List Notification
  /-- All calls on links, oldest first. -/
  calls : Array Call
  deriving DecidableEq, Repr

namespace Session

def log (s : Session) (c : Call) : Session := { s with calls := s.calls.push c }

def status (s : Session) : LinkStatus := (s.link.map Link.status).getD .offline

def isCapturing (s : Session) : Bool := s.capture.isSome

def historyLines (s : Session) : List String := s.terminal.screen.history.lines.toList

/-! ### The reader -/

/-- Copy what was read. A copy that cannot be written ends the capture. -/
def record (s : Session) (bytes : List UInt8) : Session :=
  match s.capture with
  | none => s
  | some location =>
    match s.files.append location bytes with
    | some files => { s with files }
    | none => { s with capture := none }

/-- The reader reads a piece: what it took, and what is left. -/
def splitPiece (bytes : List UInt8) (rest : List Arrival) : List UInt8 × List Arrival :=
  if bytes.length ≤ readPiece then (bytes, rest)
  else (bytes.take readPiece, .bytes (bytes.drop readPiece) :: rest)

def readerStep? (s : Session) : Option Session :=
  match s.link with
  | none => none
  | some l =>
    if l.finished then none
    else
      match l.held, l.inbound with
      | b :: held, _ =>
        if l.stopping then some { s with link := some { l with held := [] } }
        else some { s with terminal := s.terminal.process [b], link := some { l with held } }
      | [], .bytes bytes :: rest =>
        let (piece, inbound) := splitPiece bytes rest
        if l.stopping then some { s with link := some { l with inbound, finished := true } }
        else some ({ s with link := some { l with inbound, held := piece } }.record piece)
      | [], .interrupted :: inbound => some { s with link := some { l with inbound } }
      | [], .ending :: inbound => some { s with link := some { l with inbound, finished := true } }
      | [], [] => none

def readerSteps : Nat → Session → Session
  | 0, s => s
  | n + 1, s =>
    match s.readerStep? with
    | some s => readerSteps n s
    | none => s

/-- Let the reader go on until it waits or has ended. -/
def settle (s : Session) : Session := readerSteps ((s.link.map Link.steps).getD 0) s

/-- Something comes in from the host. Gives nothing if no reader waits for it. -/
def arrive? (s : Session) (a : Arrival) : Option Session :=
  match s.link with
  | some l => if l.isOnline && !l.finished then some { s with link := some (l.arrive a) } else none
  | none => none

/-! ### Links -/

/-- Ask the reader to stop and close the link, which ends what comes in. -/
def stopReader (s : Session) : Session :=
  match s.link with
  | some l =>
    { s.log (.close l.number) with link := some { l.arrive .ending with stopping := true } }
  | none => s

/-- Stop the reader, wait until it has ended, and let go of the link. -/
def dropLink (s : Session) : Session := { s.stopReader.settle with link := none }

/-- Open a link and put it in the place of the current one. If it cannot be
opened the current one stays. -/
def switchLink (out : Outside) (target : Option Target) (s : Session) :
    Except Fault Unit × Session :=
  let s := s.log (.open target s.terminal.screen.size)
  match out.openFault? target with
  | some fault => (.error fault, s)
  | none =>
    let s := s.dropLink
    match out.readerFault? with
    | some fault => (.error fault, s)
    | none =>
      (.ok (), { s with link := some (.fresh s.opened target), opened := s.opened + 1 })

def connect (out : Outside) (target : Target) (s : Session) : Except Fault Unit × Session :=
  match s.switchLink out (some target) with
  | (.ok (), s) => (.ok (), { s with lastTarget := some target })
  | failed => failed

def reconnect (out : Outside) (s : Session) : Except Fault Unit × Session :=
  match s.lastTarget with
  | some target => s.connect out target
  | none => (.error .notConnected, s)

def disconnect (out : Outside) (s : Session) : Except Fault Unit × Session :=
  s.switchLink out none

def start (out : Outside) (terminal : Terminal) (encoder : Encoder) (files : Files) :
    Except Fault Session :=
  let s : Session :=
    { terminal, encoder, files, link := none, opened := 0, capture := none, lastTarget := none,
      notices := [], calls := #[] }
  match s.switchLink out none with
  | (.ok (), s) => .ok s
  | (.error fault, _) => .error fault

/-! ### Sending -/

/-- Send bytes over the link. A loopback brings them back. -/
def send (out : Outside) (bytes : List UInt8) (s : Session) : Except Fault Unit × Session :=
  match s.link, out.writeFault? with
  | none, _ => (.error .notConnected, s)
  | some _, some fault => (.error fault, s)
  | some l, none =>
    let s := s.log (.write l.number bytes)
    (.ok (), if l.isOnline then s else { s with link := some (l.arrive (.bytes bytes)) })

def sendKey (out : Outside) (key : Key) (s : Session) : Except Fault Unit × Session :=
  match s.encoder.encode key with
  | some bytes => s.send out bytes
  | none => (.ok (), s)

/-- Send several byte strings, up to the first that cannot be sent. -/
def sendAll (out : Outside) : List (List UInt8) → Session → Except Fault Unit × Session
  | [], s => (.ok (), s)
  | bytes :: rest, s =>
    match s.send out bytes with
    | (.ok (), s) => sendAll out rest s
    | failed => failed

def isHungUp (s : Session) : Bool := s.link.any fun l => l.finished && l.isOnline

/-- Leave a host that has hung up, send the answers that the terminal has for
the host, and collect its notifications. What was taken out of the terminal is
lost if an answer cannot be sent. -/
def poll (out : Outside) (s : Session) : Except Fault (List Notification) × Session :=
  match if s.isHungUp then s.disconnect out else (.ok (), s) with
  | (.error fault, s) => (.error fault, s)
  | (.ok (), s) =>
    let (responses, terminal) := s.terminal.drainResponses
    let (notifications, terminal) := terminal.drainNotifications
    match sendAll out responses { s with terminal } with
    | (.ok (), s) => (.ok notifications, s)
    | (.error fault, s) => (.error fault, s)

def sendFile (out : Outside) (path : String) (s : Session) : Except Fault Unit × Session :=
  match s.files.read path with
  | .ok bytes => s.send out bytes
  | .error cause => (.error (.file path cause), s)

/-! ### Settings -/

def startCapture (path : String) (s : Session) : Except Fault Unit × Session :=
  match s.files.openForWriting path false with
  | .ok (location, files) => (.ok (), { s with files, capture := some location })
  | .error cause => (.error (.file path cause), s)

def stopCapture (s : Session) : Session := { s with capture := none }

def loadTemplate (path : String) (s : Session) : Except Fault Unit × Session :=
  match Template.load s.files path with
  | .ok t => (.ok (), { s with encoder := s.encoder.apply t })
  | .error fault => (.error fault, s)

def mapScreen (s : Session) (f : Screen → Screen) : Session :=
  { s with terminal := s.terminal.mapScreen f }

/-- Give the screen another size, and tell the host if it can be told. -/
def resize (out : Outside) (size : ScreenSize) (s : Session) : Session :=
  let s := s.mapScreen (·.resize size)
  match s.link with
  | some l => if l.isOnline && out.resizeWorks then s.log (.resize l.number size) else s
  | none => s

def cycleModel (s : Session) : Session := s.mapScreen fun b => b.setModel b.model.next

def toggleBlink (s : Session) : Session := s.mapScreen fun b => b.setBlinkEnabled !b.blinkEnabled

def tickBlink (s : Session) : Session := s.mapScreen (·.toggleBlinkPhase)

def selfTest (s : Session) : Session := { s with terminal := s.terminal.selfTest }

def shutdown (s : Session) : Session := s.dropLink.stopCapture

def perform (out : Outside) (r : Request) (s : Session) : Except Fault Unit × Session :=
  match r with
  | .sendKey key => s.sendKey out key
  | .sendBytes bytes => s.send out bytes
  | .poll =>
    match s.poll out with
    | (.ok new, s) => (.ok (), { s with notices := s.notices ++ new })
    | (.error fault, s) => (.error fault, s)
  | .selfTest => (.ok (), s.selfTest)
  | .cycleModel => (.ok (), s.cycleModel)
  | .toggleBlink => (.ok (), s.toggleBlink)
  | .resize size => (.ok (), s.resize out size)
  | .connect target => s.connect out target
  | .reconnect => s.reconnect out
  | .disconnect => s.disconnect out
  | .sendFile path => s.sendFile out path
  | .startCapture path => s.startCapture path
  | .stopCapture => (.ok (), s.stopCapture)
  | .loadTemplate path => s.loadTemplate path

end Session

end DasherTerminal
