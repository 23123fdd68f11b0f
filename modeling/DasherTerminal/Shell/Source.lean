import DasherTerminal.Shell.Token

/-!
# Reading from scripts

A script that is being read, and what can be taken from it character by
character.
-/

namespace DasherTerminal.Shell

structure Source where
  rest : Chars
  line : Nat
  /-- Lines below this one that have been read already. -/
  linesTaken : Nat
  /-- A token that was looked at. -/
  pending : Option Token
  /-- A text in the script came to no end. -/
  isOpen : Bool

def Source.ofChars (script : Chars) (line : Nat) : Source := ⟨script, line, 0, none, false⟩

/-- Something that is read from a script. A fault comes with its line. -/
abbrev Reader := StateT Source (Except (Nat × SyntaxFault))

namespace Reader

def fail {α : Type} (fault : SyntaxFault) : Reader α := do throw ((← get).line, fault)

def refuse {α : Type} (t : Token) (expected : Option Token) : Reader α :=
  fail (.unexpected t.name (expected.map Token.name))

/-- Repeat a step until it gives a result. Every step takes something from the
source, so there are not more of them than there are characters and a few. -/
def untilDone {σ α : Type} (step : σ → Reader (σ ⊕ α)) (start : σ) : Reader α := do
  go ((← get).rest.length + 3) start
where
  /-- At most so many steps. -/
  go : Nat → σ → Reader α
    | 0, _ => fail .depth
    | n + 1, s => do
      match ← step s with
      | .inl s => go n s
      | .inr a => pure a

/-- Skip line ends that are escaped, and count them. -/
def dropJoins (lines : Nat) : Chars → Nat × Chars
  | '\\' :: '\n' :: rest => dropJoins (lines + 1) rest
  | rest => (lines, rest)

/-- The next character. An escaped line end is none. -/
def peek : Reader (Option Char) := do
  let s ← get
  let (lines, rest) := dropJoins 0 s.rest
  set { s with rest, line := s.line + lines }
  return rest.head?

def pop : Reader Unit :=
  modify fun s =>
    match s.rest with
    | '\n' :: rest => { s with rest, line := s.line + 1 + s.linesTaken, linesTaken := 0 }
    | _ :: rest => { s with rest }
    | [] => s

def popIf (c : Char) : Reader Bool := do
  if (← peek) = some c then
    pop
    return true
  return false

def popWhile (p : Char → Bool) : Reader Chars :=
  untilDone (fun cs => do
    match ← peek with
    | some c =>
      if p c then
        pop
        return .inl (c :: cs)
      else return .inr cs.reverse
    | none => return .inr cs.reverse) []

end Reader

end DasherTerminal.Shell
