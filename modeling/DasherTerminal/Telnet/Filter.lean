/-!
# Telnet commands in the host's stream

The filter takes telnet commands out of what the host sends and answers option
requests, so that the host falls back to a plain character stream: remote echo
and suppress-go-ahead are accepted, everything else is refused.
-/

namespace DasherTerminal.Telnet

/-- Introduces a command; doubled it stands for itself. -/
def iac : UInt8 := 255

inductive Verb where
  | will
  | wont
  | doIt
  | dont
  deriving DecidableEq, Repr

namespace Verb

def byte : Verb → UInt8
  | .will => 251
  | .wont => 252
  | .doIt => 253
  | .dont => 254

def ofByte? (b : UInt8) : Option Verb :=
  if b = 251 then some .will
  else if b = 252 then some .wont
  else if b = 253 then some .doIt
  else if b = 254 then some .dont
  else none

@[simp] theorem ofByte?_byte (v : Verb) : ofByte? v.byte = some v := by
  cases v <;> rfl

end Verb

/-- Begins a subnegotiation. -/
def sb : UInt8 := 250

/-- Ends a subnegotiation. -/
def se : UInt8 := 240

def echoOption : UInt8 := 1

def suppressGoAhead : UInt8 := 3

def answer? (verb : Verb) (option : UInt8) : Option Verb :=
  match verb with
  | .will => some (if option = echoOption ∨ option = suppressGoAhead then .doIt else .dont)
  | .doIt => some (if option = suppressGoAhead then .will else .wont)
  | .wont | .dont => none

inductive Phase where
  | data
  /-- After the byte that introduces a command. -/
  | command
  | option (verb : Verb)
  | subnegotiation
  /-- After the byte that introduces a command, in a subnegotiation. -/
  | subcommand
  deriving DecidableEq, Repr

/-- What the filter makes of one byte: its next phase, a data byte and an answer. -/
structure Outcome where
  phase : Phase
  data : List UInt8
  replies : List UInt8
  deriving DecidableEq, Repr

namespace Phase

def step (p : Phase) (b : UInt8) : Outcome :=
  match p with
  | .data => if b = iac then ⟨.command, [], []⟩ else ⟨.data, [b], []⟩
  | .command =>
    if b = iac then ⟨.data, [b], []⟩
    else match Verb.ofByte? b with
      | some verb => ⟨.option verb, [], []⟩
      | none => if b = sb then ⟨.subnegotiation, [], []⟩ else ⟨.data, [], []⟩
  | .option verb =>
    ⟨.data, [], ((answer? verb b).map fun a => [iac, a.byte, b]).getD []⟩
  | .subnegotiation => ⟨if b = iac then .subcommand else .subnegotiation, [], []⟩
  | .subcommand => ⟨if b = se then .data else .subnegotiation, [], []⟩

def run (p : Phase) : List UInt8 → Outcome
  | [] => ⟨p, [], []⟩
  | b :: bs =>
    let first := p.step b
    let rest := first.phase.run bs
    ⟨rest.phase, first.data ++ rest.data, first.replies ++ rest.replies⟩

@[simp] theorem run_nil (p : Phase) : p.run [] = ⟨p, [], []⟩ := rfl

/-- How a stream is cut makes no difference. -/
theorem run_append (p : Phase) (a b : List UInt8) :
    p.run (a ++ b) =
      ⟨((p.run a).phase.run b).phase, (p.run a).data ++ ((p.run a).phase.run b).data,
        (p.run a).replies ++ ((p.run a).phase.run b).replies⟩ := by
  induction a generalizing p with
  | nil => rfl
  | cons c a ih => simp [run, ih]

end Phase

/-- Double every byte that would introduce a command. -/
def escape (bytes : List UInt8) : List UInt8 :=
  bytes.flatMap fun b => if b = iac then [iac, iac] else [b]

@[simp] theorem escape_append (a b : List UInt8) : escape (a ++ b) = escape a ++ escape b := by
  simp [escape]

end DasherTerminal.Telnet
