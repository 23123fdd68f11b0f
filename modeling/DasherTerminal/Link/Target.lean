import DasherTerminal.Fault
import DasherTerminal.Text.Blank
import DasherTerminal.Text.Decimal

/-!
# Targets

Where a session can connect to: a telnet host or a program of this computer.
An address is `HOST:PORT`, a bare host, or a host that itself holds colons,
either bare or in brackets.
-/

namespace DasherTerminal

def defaultPort : Nat := 23

inductive Target where
  | telnet (host : String) (port : Nat)
  | program (command : List String)
  deriving DecidableEq, Repr

namespace Target

def addressText (host : List Char) (port : Nat) : List Char :=
  if ':' ∈ host then '[' :: host ++ ']' :: ':' :: (toString port).toList
  else host ++ ':' :: (toString port).toList

def text : Target → String
  | .telnet host port => String.ofList (addressText host.toList port)
  | .program command => String.intercalate " " command

/-- How a target is named in the status and in faults. -/
def label : Target → String
  | .telnet host port => host ++ ":" ++ toString port
  | .program command => String.intercalate " " command

def port? (cs : List Char) : Option Nat := Text.number? Text.wordLimit (Text.trim cs)

/-- Take an address apart into host and port, without checking the parts. -/
def splitAddress? : List Char → Option (List Char × Nat)
  | '[' :: cs => do
    let (host, rest) ← Text.splitFirst? (· == ']') cs
    match rest with
    | [] => some (host, defaultPort)
    | ':' :: port => (port? port).map (host, ·)
    | _ => none
  | cs =>
    if 1 < cs.count ':' then some (cs, defaultPort)
    else
      match Text.splitLast? (· == ':') cs with
      | some (host, port) => (port? port).map (host, ·)
      | none => some (cs, defaultPort)

def address? (cs : List Char) : Option (List Char × Nat) := do
  let (host, port) ← splitAddress? cs
  let host := Text.trim host
  if host.isEmpty || port == 0 || host.any Text.isBlank then none else some (host, port)

/-- Read a telnet address, with blanks allowed around it. -/
def parse (text : String) : Except Fault Target :=
  let cs := Text.trim text.toList
  match address? cs with
  | some (host, port) => .ok (.telnet (String.ofList host) port)
  | none => .error (.invalidAddress (String.ofList cs))

end Target

end DasherTerminal
