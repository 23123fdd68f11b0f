import DasherTerminal.Shell.Source

/-!
# Quotes and values

How words are read: what quotes and backslashes take away from the meaning of
characters, and what a dollar sign and backquotes put into words. Commands that
stand in words are read by what is given for that.
-/

namespace DasherTerminal.Shell

/-- Where the characters of a word stand. -/
inductive Place where
  | bare
  /-- In the word that ends a text given in the script. Values do not count. -/
  | delimiter
  /-- In a text given in the script. -/
  | document
  | quoted
  /-- In the braces of a parameter. -/
  | braces (quoted : Bool)
  /-- In an arithmetic expression, inside so many parentheses. -/
  | arithmetic (depth : Nat)
  deriving DecidableEq, Repr

def Place.isQuoted : Place → Bool
  | .bare | .delimiter | .braces false => false
  | _ => true

/-- Whether a character, before the rest of the source, ends what stands in a place. -/
def Place.endsAt (p : Place) (c : Char) (rest : Chars) : Bool :=
  match p with
  | .bare | .delimiter => [' ', '\t', '\n', '&', ';', '(', ')', '<', '>', '|'].contains c
  | .document => false
  | .quoted => c == '"'
  | .braces _ => c == '\x7d'
  | .arithmetic 0 => c == ')' && rest.head? == some ')'
  | .arithmetic _ => false

/-- The fault if the source ends in a place, where it must not. -/
def Place.fault? : Place → Option SyntaxFault
  | .bare | .delimiter | .document => none
  | .quoted | .braces true => some .openQuote
  | .braces false => some .openBrace
  | .arithmetic _ => some .openArithmetic

def Place.escapes (p : Place) (c : Char) : Bool :=
  !p.isQuoted || c == '\\' || c == '$' || c == '\x60' || (c == '"' && p != .document) ||
    (c == '\x7d' && p == .braces true)

namespace Reader

def adjustmentOf? (c : Char) (orEmpty : Bool) : Option Adjustment :=
  match c with
  | '-' => some (.default orEmpty)
  | '=' => some (.assign orEmpty)
  | '?' => some (.require orEmpty)
  | '+' => some (.alternative orEmpty)
  | _ => none

/-- Read the parameter and its adjustment in braces, up to the word. -/
def parameter : Reader (Chars × Adjustment) := do
  match ← peek with
  | none => return ([], .bad)
  | some '#' =>
    pop
    match ← peek with
    | none => return (['#'], .bad)
    | some c =>
      if isInName c then
        let name ← popWhile (if isDigit c then isDigit else isInName)
        return (name, if (← peek) = some '\x7d' then .length else .bad)
      else if c ≠ '\x7d' ∧ isSpecial c ∧ ((← get).rest.drop 1).head? = some '\x7d' then
        pop
        return ([c], .length)
      else adjusted ['#']
  | some c =>
    if startsName c then adjusted (← popWhile isInName)
    else if isDigit c then adjusted (← popWhile isDigit)
    else if isSpecial c then
      pop
      adjusted [c]
    else return ([], .bad)
where
  adjusted (name : Chars) : Reader (Chars × Adjustment) := do
    match ← peek with
    | some '\x7d' => return (name, .none)
    | some ':' =>
      pop
      match (← peek).bind (adjustmentOf? · true) with
      | some adjustment =>
        pop
        return (name, adjustment)
      | none => return (name, .bad)
    | some c =>
      if c = '%' ∨ c = '#' then
        pop
        let longest ← popIf c
        return (name, .trim (if c = '#' then .left else .right) longest)
      match adjustmentOf? c false with
      | some adjustment =>
        pop
        return (name, adjustment)
      | none => return (name, .bad)
    | none => return (name, .bad)

/-- Read what a dollar sign stands before, given how to read commands and what
stands inside. -/
def dollar (commands : Reader Command) (inner : Place → Reader Word) (place : Place) :
    Reader Word := do
  pop
  let quoted := place.isQuoted
  match ← peek with
  | some '(' =>
    pop
    if ← popIf '(' then
      let expression ← inner (.arithmetic 0)
      pop
      pop
      return [.arithmetic expression quoted]
    else return [.shown (← commands) quoted]
  | some '\x7b' =>
    pop
    let (name, adjustment) ← parameter
    let word ←
      match adjustment with
      | .none | .length => pure []
      | .trim _ _ => inner (.braces false)
      | _ => inner (.braces quoted)
    pop
    return [.parameter name adjustment word quoted]
  | some c =>
    if startsName c then return [.parameter (← popWhile isInName) .none [] quoted]
    else if isSpecial c then
      pop
      return [.parameter [c] .none [] quoted]
    else return [.text ['$'] quoted]
  | none => return [.text ['$'] quoted]

/-- The script between backquotes: what is read of it, and what comes after it. -/
def backquoted (inQuotes : Bool) : Chars → Option (Chars × Chars)
  | [] => none
  | '\x60' :: rest => some ([], rest)
  | '\\' :: '\n' :: rest => backquoted inQuotes rest
  | '\\' :: c :: rest =>
    let isPlain := c != '\\' && c != '\x60' && c != '$' && !(inQuotes && c == '"')
    (backquoted inQuotes rest).map fun (cs, left) =>
      (if isPlain then '\\' :: c :: cs else c :: cs, left)
  | c :: rest => (backquoted inQuotes rest).map fun (cs, left) => (c :: cs, left)

/-- Read commands up to a closing parenthesis. The list gives back the token that
ends it. -/
def closed (list : Reader Command) : Reader Command := do
  let before := (← get).pending
  modify fun s => { s with pending := none }
  let c ← list
  match (← get).pending with
  | some t =>
    if !t.isSign ")" then refuse t (some (.sign ")"))
    modify fun s => { s with pending := before }
    return c
  | none => fail .depth

/-- Read from another source, which stands in the script from the given line on. -/
def within {α : Type} (text : Chars) (line : Nat) (r : Reader α) : Reader α := do
  let s ← get
  set (Source.ofChars text line)
  let a ← r
  set s
  return a

def backquote (list : Reader Command) (place : Place) : Reader Word := do
  pop
  let s ← get
  match backquoted place.isQuoted s.rest with
  | none => fail .openBackquote
  | some (script, rest) =>
    let taken := s.rest.take (s.rest.length - rest.length)
    set { s with rest, line := s.line + taken.count '\n' }
    return [.shown (← within script s.line list) place.isQuoted]

def singleQuoted : Reader Chars :=
  untilDone (fun cs => do
    match (← get).rest.head? with
    | none => fail .openQuote
    | some c =>
      pop
      return if c = '\'' then .inr cs.reverse else .inl (c :: cs)) []

/-- Read what stands in a place, given how to read a list of commands. -/
def pieces (list : Reader Command) : Nat → Place → Reader Word
  | 0, _ => fail .depth
  | n + 1, place => do
    let quoted := place.isQuoted
    let next := pieces list n place
    let literal (c : Char) : Reader Word := do
      pop
      return Word.cons c quoted (← next)
    match ← peek with
    | none =>
      match place.fault? with
      | some fault => fail fault
      | none => return []
    | some c =>
      if place.endsAt c ((← get).rest.drop 1) then return []
      match c, place with
      | '\\', _ =>
        pop
        match (← get).rest.head? with
        | none => return Word.cons '\\' true (← next)
        | some d =>
          pop
          return Word.append (if place.escapes d then [d] else ['\\', d]) true (← next)
      | '\'', .bare | '\'', .delimiter | '\'', .braces false =>
        pop
        let text ← singleQuoted
        let rest ← next
        return if text.isEmpty then .text [] true :: rest else Word.append text true rest
      | '"', .bare | '"', .delimiter | '"', .braces _ =>
        pop
        let inner ← pieces list n .quoted
        pop
        return (if inner.isEmpty then [.text [] true] else inner) ++ (← next)
      | '$', .delimiter | '\x60', .delimiter => literal c
      | '$', _ =>
        let piece ← dollar (closed list) (pieces list n) place
        return piece ++ (← next)
      | '\x60', _ =>
        let piece ← backquote list place
        return piece ++ (← next)
      | '(', .arithmetic depth =>
        pop
        return Word.cons c true (← pieces list n (.arithmetic (depth + 1)))
      | ')', .arithmetic (depth + 1) =>
        pop
        return Word.cons c true (← pieces list n (.arithmetic depth))
      | _, _ => literal c

end Reader

end DasherTerminal.Shell
