import DasherTerminal.Fault
import DasherTerminal.Link.Status
import DasherTerminal.Telnet.Reader

/-!
# A telnet connection

The writing side of a connection, and its reader until someone takes it.
-/

namespace DasherTerminal.Telnet

structure Connection where
  label : String
  reader : Option Reader
  /-- Whether the host still takes bytes. -/
  writable : Bool
  /-- Everything written, as it goes over the wire. -/
  sent : List UInt8
  deriving DecidableEq, Repr

/-- The socket's reads for a stream that is all there: as much as fits each
time. -/
def arrivals (answerable : Bool) : List UInt8 → List Arrival
  | [] => []
  | b :: bs =>
    ⟨(b :: bs).take socketRead, answerable⟩ :: arrivals answerable ((b :: bs).drop socketRead)
termination_by bytes => bytes.length
decreasing_by
  simp only [socketRead, List.length_drop, List.length_cons]
  omega

namespace Connection

def ofStream (label : String) (bytes : List UInt8) (writable : Bool) : Connection :=
  ⟨label, some (.fresh (arrivals writable bytes)), writable, []⟩

def status (c : Connection) : LinkStatus := ⟨.telnet, c.label⟩

def takeReader (c : Connection) : Except Fault (Reader × Connection) :=
  match c.reader with
  | some r => .ok (r, { c with reader := none })
  | none => .error .notConnected

def write (c : Connection) (bytes : List UInt8) : Except Fault Connection :=
  if c.writable ∨ bytes = [] then .ok { c with sent := c.sent ++ escape bytes }
  else .error (.transfer .brokenPipe)

end Connection

/-- Why a host name cannot be looked up at all, if that is so. -/
def nameFault? (host : String) (port : Nat) : Option Fault :=
  if host.contains '\x00' then some (.connect (Target.telnet host port).label .nulInName) else none

end DasherTerminal.Telnet
