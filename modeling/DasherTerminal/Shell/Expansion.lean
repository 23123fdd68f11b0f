import DasherTerminal.Shell.Arithmetic
import DasherTerminal.Shell.World

/-!
# Expansion

What words stand for: the values of parameters, what commands show, and the
results of arithmetic. How a command is done for its output is given from
outside.
-/

namespace DasherTerminal.Shell

namespace Run

inductive Parameter where
  | missing
  | text (value : Chars)
  /-- All arguments, each for itself if quoted. -/
  | arguments (values : List Chars)
  deriving DecidableEq, Repr

def joinArguments (values : List Chars) : Run Chars := do
  return ((← separators).take 1).intercalate values

/-- The number that stands for the shell among the programs. -/
def shellNumber : Nat := 100

def parameter (name : Chars) (quoted : Bool) : Run Parameter := do
  let s ← shell
  let decimal (n : Nat) : Run Parameter := return .text (toString n).toList
  match name with
  | ['@'] => return .arguments s.arguments
  | ['*'] =>
    if quoted then return .text (← joinArguments s.arguments) else return .arguments s.arguments
  | ['#'] => decimal s.arguments.length
  | ['?'] => decimal s.status
  | ['-'] => return .text s.options
  | ['$'] => decimal shellNumber
  | ['!'] => return .missing
  | _ =>
    if name.all isDigit then
      match (Text.Numeral.digitsFrom 10 0 name).1 with
      | 0 => return .text s.name
      | n + 1 => return (s.arguments[n]?.map .text).getD .missing
    else return ((← value? name).map .text).getD .missing

/-- The glyphs of a value. A quoted value that is empty is there all the same. -/
def valueGlyphs (value : Chars) (quoted : Bool) : List Glyph :=
  if quoted && value.isEmpty then [.nothing] else Glyph.ofChars value quoted (!quoted)

def listGlyphs (values : List Chars) (quoted : Bool) : List Glyph :=
  [Glyph.border].intercalate (values.map (valueGlyphs · quoted))

def Parameter.glyphs (p : Parameter) (quoted : Bool) : List Glyph :=
  match p with
  | .missing => valueGlyphs [] quoted
  | .text value => valueGlyphs value quoted
  | .arguments values => listGlyphs values quoted

def Parameter.isMissing (p : Parameter) (orEmpty : Bool) : Bool :=
  match p with
  | .missing => true
  | .text value => orEmpty && value.isEmpty
  | .arguments values => values.isEmpty || (orEmpty && values.all List.isEmpty)

def Parameter.map (p : Parameter) (f : Chars → Chars) : Parameter :=
  match p with
  | .missing => .missing
  | .text value => .text (f value)
  | .arguments values => .arguments (values.map f)

/-- Refuse a parameter that is missing where the options forbid it. -/
def checkMissing (name : Chars) (p : Parameter) : Run Unit := do
  match p with
  | .missing =>
    if ← hasOption 'u' then fail (name ++ ": parameter not set".toList) 2
  | _ => pure ()

def arithmetic (text : Chars) : Run Int := do
  let s ← shell
  let look (name : Chars) : Chars := ((s.bindings.lookup name).bind (·.value)).getD []
  let result := do
    let e ← Arithmetic.parse text
    Arithmetic.evaluate look [] e
  match result with
  | .error fault => fail (fault.message text) 2
  | .ok (value, assigned) =>
    for (name, n) in assigned.reverse do
      assign name (toString n).toList
    return value

def withoutLineEnds (text : Chars) : Chars := (text.reverse.dropWhile (· = '\n')).reverse

/-- The glyphs of a word, given how to take the output of a command. Text that is
not quoted falls into fields only in the word of a parameter. -/
def glyphs (output : Command → Run Chars) : Nat → Bool → Word → Run (List Glyph)
  | 0, _, _ => throw .exhausted
  | n + 1, splits, word => do
    let parts ← word.mapM fun piece => do
      match piece with
      | .text [] _ => return [.nothing]
      | .text chars quoted => return Glyph.ofChars chars quoted (splits && !quoted)
      | .shown command quoted =>
        let text := (← output command).filter (· ≠ '\x00')
        return valueGlyphs (withoutLineEnds text) quoted
      | .arithmetic expression quoted =>
        let text := Glyph.toChars (← glyphs output n false expression)
        return valueGlyphs (toString (← arithmetic text)).toList quoted
      | .parameter name adjustment inner quoted =>
        let p ← parameter name quoted
        let innerGlyphs := glyphs output n (!quoted) inner
        let innerText : Run Chars := do return Glyph.toChars (← innerGlyphs)
        match adjustment with
        | .bad => fail "Bad substitution".toList 2
        | .none =>
          checkMissing name p
          return p.glyphs quoted
        | .length =>
          checkMissing name p
          let length ←
            match p with
            | .missing => pure 0
            | .text value => pure value.length
            | .arguments values => pure (← joinArguments values).length
          return valueGlyphs (toString length).toList quoted
        | .default orEmpty => if p.isMissing orEmpty then innerGlyphs else return p.glyphs quoted
        | .alternative orEmpty =>
          if p.isMissing orEmpty then return if quoted then [.nothing] else [] else innerGlyphs
        | .assign orEmpty =>
          if p.isMissing orEmpty then
            let value ← innerText
            if !isName name then fail (name ++ ": bad variable name".toList) 2
            assign name value
            return valueGlyphs value quoted
          else return p.glyphs quoted
        | .require orEmpty =>
          if p.isMissing orEmpty then
            let message ← innerText
            let usual := "parameter not set" ++ if orEmpty then " or null" else ""
            fail
              (name ++ ": ".toList ++ if inner.isEmpty then usual.toList else message) 2
          else return p.glyphs quoted
        | .trim side longest =>
          checkMissing name p
          let pattern := Pattern.ofLetters (Glyph.toLetters (← innerGlyphs))
          return (p.map (pattern.trim side longest)).glyphs quoted
    return parts.flatten

section

variable (output : Command → Run Chars) (depth : Nat)

def fields (words : List Word) : Run (List Chars) := do
  let lists ← words.mapM fun word => do
    let gs ← glyphs output depth false word
    return Fields.ofGlyphs (← separators) gs
  return lists.flatten

/-- The text that a word stands for where it cannot fall into fields. -/
def text (word : Word) : Run Chars := do
  let gs ← glyphs output depth false word
  let joiner := (← separators).take 1
  return gs.flatMap fun g =>
    match g with
    | .letter c _ _ => [c]
    | .border => joiner
    | .nothing => []

def pattern (word : Word) : Run Pattern := do
  return Pattern.ofLetters (Glyph.toLetters (← glyphs output depth false word))

end

end Run

end DasherTerminal.Shell
