import DasherTerminal.Screen.Basic
import DasherTerminal.Link.Status

/-!
# The host protocol

The decoder turns the host's bytes into changes of the screen. A code that
needs arguments waits for them across any number of deliveries; nothing a host
sends is an error, unknown codes and addresses off the screen are dropped.
-/

namespace DasherTerminal

/-- The codes that take arguments. -/
inductive Opcode where
  /-- 020, column, row. -/
  | cursorAddress
  /-- 036, command. -/
  | command
  deriving DecidableEq, Repr

def Opcode.arity : Opcode → Nat
  | .cursorAddress => 2
  | .command => 1

inductive Decoder.Wait where
  /-- The next code. -/
  | idle
  /-- More arguments of a code, which has been given these so far. -/
  | arguments (op : Opcode) (given : List UInt8)
  deriving DecidableEq, Repr

structure Decoder where
  policy : AttributeOffPolicy
  wait : Decoder.Wait
  /-- Notifications nobody has collected yet, oldest first. -/
  notifications : List Notification
  /-- Answers nobody has collected yet, oldest first. -/
  responses : List (List UInt8)
  deriving DecidableEq, Repr

namespace Decoder

def fresh (policy : AttributeOffPolicy) : Decoder := ⟨policy, .idle, [], []⟩

/-- Forget a code whose arguments are incomplete. -/
def reset (d : Decoder) : Decoder := { d with wait := .idle }

def modelAnswer (model : Model) : List UInt8 :=
  [0o36, 'o'.toUInt8, '#'.toUInt8, model.code, 0o100, 0o101]

/-- A coordinate as the host counts it, from 1, if it is on the screen. -/
def coordinate? (wire : UInt8) (limit : Nat) : Option Nat :=
  if 1 ≤ wire.toNat ∧ wire.toNat ≤ limit then some (wire.toNat - 1) else none

def isPrintable (byte : UInt8) : Bool := 0x20 ≤ byte && byte ≤ 0x7F

/-- The change a code without arguments makes to the screen. -/
def effect (policy : AttributeOffPolicy) (byte : UInt8) (s : Screen) : Screen :=
  match byte with
  | 0o03 => s.setBlinkEnabled true
  | 0o04 => s.setBlinkEnabled false
  | 0o10 => s.home
  | 0o12 => s.newLine
  | 0o13 => s.eraseToRight
  | 0o14 => s.erasePage
  | 0o15 => s.carriageReturn
  | 0o16 => s.mapAttributes fun a => { a with blink := true }
  | 0o17 => s.mapAttributes fun a => { a with blink := false }
  | 0o22 => s.setRoll true
  | 0o23 => s.setRoll false
  | 0o24 => s.mapAttributes fun a => { a with underscore := true }
  | 0o25 => s.mapAttributes (policy.apply .underscore)
  | 0o27 => s.up
  | 0o30 => s.right
  | 0o31 => s.left
  | 0o32 => s.down
  | 0o34 => s.mapAttributes fun a => { a with dim := true }
  | 0o35 => s.mapAttributes (policy.apply .dim)
  | byte => if isPrintable byte then s.put byte else s

def opcode? (model : Model) (byte : UInt8) : Option Opcode :=
  if byte = 0o20 then some .cursorAddress
  else if byte = 0o36 ∧ model.hasCommandPrefix then some .command
  else none

def effectWith (op : Opcode) (given : List UInt8) (s : Screen) : Screen :=
  match op, given with
  | .cursorAddress, [col, row] =>
    match coordinate? col s.size.cols, coordinate? row s.size.lines with
    | some x, some y => s.moveTo x y
    | _, _ => s
  | .command, [command] =>
    if command = 'D'.toUInt8 then s.mapAttributes fun a => { a with reverse := true }
    else if command = 'E'.toUInt8 then s.mapAttributes fun a => { a with reverse := false }
    else s
  | _, _ => s

def answersTo (op : Opcode) (given : List UInt8) (model : Model) : List (List UInt8) :=
  if op = .command ∧ given = ['C'.toUInt8] ∧ model.answersModelQuery then [modelAnswer model]
  else []

/-- A byte that does not belong to an earlier code. -/
def dispatch (d : Decoder) (s : Screen) (byte : UInt8) : Decoder × Screen :=
  match opcode? s.model byte with
  | some op => ({ d with wait := .arguments op [] }, s)
  | none =>
    let d := if byte = 0o07 then { d with notifications := d.notifications ++ [.bell] } else d
    (d, effect d.policy byte s)

def step (d : Decoder) (s : Screen) (byte : UInt8) : Decoder × Screen :=
  match d.wait with
  | .idle => d.dispatch s byte
  | .arguments op given =>
    let given := given ++ [byte]
    if given.length < op.arity then ({ d with wait := .arguments op given }, s)
    else
      ({ d with wait := .idle, responses := d.responses ++ answersTo op given s.model },
        effectWith op given s)

def run (d : Decoder) (s : Screen) (bytes : List UInt8) : Decoder × Screen :=
  bytes.foldl (fun p byte => p.1.step p.2 byte) (d, s)

@[simp] theorem run_nil (d : Decoder) (s : Screen) : d.run s [] = (d, s) := rfl

@[simp] theorem run_cons (d : Decoder) (s : Screen) (byte : UInt8) (bytes : List UInt8) :
    d.run s (byte :: bytes) = (d.step s byte).1.run (d.step s byte).2 bytes := rfl

/-- How a stream is cut into deliveries makes no difference. -/
theorem run_append (d : Decoder) (s : Screen) (a b : List UInt8) :
    d.run s (a ++ b) = (d.run s a).1.run (d.run s a).2 b := by
  simp [run, List.foldl_append]

end Decoder

end DasherTerminal
