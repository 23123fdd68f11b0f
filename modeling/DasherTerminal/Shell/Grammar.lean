import DasherTerminal.Shell.Quoting

/-!
# Commands

How commands are read. Commands stand in words and words in commands; what
stands inside is read with less fuel, of which there is as much as the script
has characters.
-/

namespace DasherTerminal.Shell

namespace Reader

/-! ### Tokens -/

def skipBlanks : Reader Unit := do
  discard <| popWhile fun c => c = ' ' || c = '\t'
  if (← peek) = some '#' then
    modify fun s => { s with rest := s.rest.dropWhile (· ≠ '\n') }

/-- The signs that are made of the same characters, longest first. -/
def operators : List String := ["&&", "&", "||", "|", ";;", ";", "(", ")"]

/-- The signs of redirections, longest first. -/
def redirections : List String := ["<<-", "<<", "<&", "<>", "<", ">>", ">&", ">|", ">"]

def signHere? (signs : List String) (rest : Chars) : Option String :=
  signs.find? fun s => s.toList.isPrefixOf rest

def takeSign (sign : String) : Reader Unit :=
  modify fun s => { s with rest := s.rest.drop sign.length }

def freshToken (word : Place → Reader Word) : Reader Token := do
  skipBlanks
  match ← peek with
  | none => return .ending
  | some '\n' =>
    pop
    return .newline
  | some c =>
    let rest := (← get).rest
    if let some sign := signHere? operators rest then
      takeSign sign
      return .sign sign
    let descriptor? := if isDigit c then some (c.toNat - '0'.toNat) else none
    match signHere? redirections (if descriptor?.isSome then rest.drop 1 else rest) with
    | some sign =>
      if descriptor?.isSome then pop
      takeSign sign
      return .redirection (descriptor?.getD (if sign.startsWith "<" then 0 else 1)) sign
    | none => return .word (← word .bare)

/-- Take a token. Line ends before it are skipped if asked for, and a reserved
word is looked for only where it can stand. -/
def token (word : Place → Reader Word) (skipLines words : Bool) : Reader Token := do
  let t ← untilDone (fun () => do
    let t ←
      match (← get).pending with
      | some t =>
        modify fun s => { s with pending := none }
        pure t
      | none => freshToken word
    match t with
    | .newline => return if skipLines then .inl () else .inr t
    | _ => return .inr t) ()
  return if words then Token.asReserved t else t

def giveBack (t : Token) : Reader Unit := modify fun s => { s with pending := some t }

/-! ### Redirections -/

/-- A text given in the script below the current line. -/
structure Document where
  text : Chars
  /-- How many lines it takes, with the one that ends it. -/
  lines : Nat
  after : Chars
  isClosed : Bool

def documentLines (mark : Chars) (tabs : Bool) : Nat → Chars → Document
  | 0, rest => ⟨[], 0, rest, false⟩
  | n + 1, rest =>
    if rest.isEmpty then ⟨[], 0, [], false⟩
    else
      let rest := if tabs then rest.dropWhile (· = '\t') else rest
      let line := rest.takeWhile (· ≠ '\n')
      let after := rest.drop (line.length + 1)
      if line = mark then ⟨[], 1, after, true⟩
      else
        let ended := line.length < rest.length
        let d := documentLines mark tabs n after
        { d with
          text := line ++ (if ended then ['\n'] else []) ++ d.text
          lines := d.lines + 1 }

def document (word : Place → Reader Word) (tabs : Bool) : Reader Word := do
  let mark ← word .delimiter
  let s ← get
  let here := s.rest.takeWhile (· ≠ '\n')
  let below := s.rest.drop (here.length + 1)
  let d := documentLines mark.plain tabs (below.length + 1) below
  set { s with
    rest := here ++ (if here.length < s.rest.length then '\n' :: d.after else [])
    linesTaken := s.linesTaken + d.lines, isOpen := s.isOpen || !d.isClosed }
  if mark.isQuoted then return [.text d.text true]
  else within d.text s.line (word .document)

def redirection (word : Place → Reader Word) (descriptor : Nat) (sign : String) :
    Reader Redirection := do
  if sign.startsWith "<<" then
    skipBlanks
    let next := (← peek).getD '\n'
    if Place.bare.endsAt next [] then refuse (← token word false false) none
    return .to descriptor .here (← document word (sign == "<<-"))
  match ← token word false false with
  | .word w =>
    let direction : Direction :=
      match sign with
      | "<" => .read
      | ">>" => .append
      | "<>" => .both
      | "<&" | ">&" => .copy
      | _ => .write
    return .to descriptor direction w
  | t => refuse t none

def redirectionsAfter (word : Place → Reader Word) : Reader (List Redirection) :=
  untilDone (fun rs => do
    match ← token word false true with
    | .redirection descriptor sign => return .inl ((← redirection word descriptor sign) :: rs)
    | t =>
      giveBack t
      return .inr rs.reverse) []

/-! ### Commands -/

inductive Extent where
  /-- Up to the end of the line. -/
  | line
  /-- Up to the word that closes it, with at least one command. -/
  | block
  /-- The same, and it may be empty. -/
  | branch
  deriving DecidableEq, Repr

inductive Goal where
  | list (extent : Extent)
  | command
  deriving DecidableEq, Repr

section

variable (self : Goal → Reader Command) (word : Place → Reader Word)

def expect (sign : String) : Reader Unit := do
  let t ← token word false true
  if !t.isSign sign then refuse t (some (.sign sign))

/-- A simple command while it is read, latest first. -/
structure SimpleParts where
  assignments : List (Chars × Word)
  words : List Word
  redirections : List Redirection

def simple (isSpecialCommand : Chars → Bool) : Reader Command := do
  let line := (← get).line
  untilDone (fun (p : SimpleParts) => do
    match ← token word false false with
    | .word w =>
      match p.words, w.assignment? with
      | [], some assignment => return .inl { p with assignments := assignment :: p.assignments }
      | _, _ => return .inl { p with words := w :: p.words }
    | .redirection descriptor sign =>
      let r ← redirection word descriptor sign
      return .inl { p with redirections := r :: p.redirections }
    | t =>
      match t.isSign "(", p.assignments, p.words, p.redirections with
      | true, [], [name], [] =>
        let close ← token word false false
        if !close.isSign ")" then refuse close (some (.sign ")"))
        match name.bare? with
        | some cs =>
          if !isName cs || isSpecialCommand cs then fail .functionName
          return .inr (.define cs (← self .command))
        | none => fail .functionName
      | _, _, _, _ =>
        giveBack t
        return .inr (.simple line p.assignments.reverse p.words.reverse p.redirections.reverse))
    ⟨[], [], []⟩

def condition : Reader Command := do
  let branches ← untilDone (fun (branches : List (Command × Command)) => do
    let test ← self (.list .block)
    expect word "then"
    let success ← self (.list .block)
    let branches := (test, success) :: branches
    let t ← token word false true
    if t.isSign "elif" then return .inl branches
    giveBack t
    return .inr branches) []
  let t ← token word false true
  let last ←
    if t.isSign "else" then self (.list .block)
    else
      giveBack t
      pure .nothing
  return branches.foldl (fun failure (test, success) => .choice test success failure) last

def loopWords : Reader (List Word) := do
  let t ← token word true true
  if t.isSign "in" then
    untilDone (fun ws => do
      match ← token word false false with
      | .word w => return .inl (w :: ws)
      | .newline | .sign ";" => return .inr ws.reverse
      | t => refuse t none) []
  else
    if !t.isSign ";" then giveBack t
    return [[.parameter ['@'] .none [] true]]

def loopOverWords (line : Nat) : Reader Command := do
  let name ←
    match ← token word false false with
    | .word w =>
      match w.bare? with
      | some cs => if isName cs then pure cs else fail .loopVariable
      | none => fail .loopVariable
    | _ => fail .loopVariable
  let words ← loopWords word
  let t ← token word true true
  if !t.isSign "do" then refuse t (some (.sign "do"))
  return .forEach line name words (← self (.list .block))

def branchPatterns (first : Token) : Reader (List Word) := do
  let first ← if first.isSign "(" then token word false false else pure first
  untilDone (fun ((t, ps) : Token × List Word) => do
    let p ←
      match t with
      | .word w => pure w
      | .sign s => pure [.text s.toList false]
      | t => refuse t (some (.sign ")"))
    let ps := p :: ps
    let t ← token word false false
    if t.isSign "|" then return .inl (← token word false false, ps)
    if !t.isSign ")" then refuse t (some (.sign ")"))
    return .inr ps.reverse) (first, [])

def choiceByPattern (line : Nat) : Reader Command := do
  let subject ←
    match ← token word false false with
    | .word w => pure w
    | t => refuse t (some (.word []))
  let t ← token word true true
  if !t.isSign "in" then refuse t (some (.sign "in"))
  let branches ← untilDone (fun bs => do
    let t ← token word true true
    if t.isSign "esac" then return .inr bs.reverse
    let patterns ← branchPatterns word t
    let bs := .on patterns (← self (.list .branch)) :: bs
    let t ← token word true true
    if t.isSign "esac" then return .inr bs.reverse
    if !t.isSign ";;" then refuse t (some (.sign ";;"))
    return .inl bs) []
  return .byPattern line subject branches

def command (isSpecialCommand : Chars → Bool) (skipLines : Bool) : Reader Command := do
  let line := (← get).line
  let t ← token word skipLines true
  let compound ←
    match t with
    | .word _ | .redirection _ _ =>
      giveBack t
      return ← simple self word isSpecialCommand
    | .sign "if" =>
      let c ← condition self word
      expect word "fi"
      pure c
    | .sign "while" | .sign "until" =>
      let test ← self (.list .block)
      expect word "do"
      let body ← self (.list .block)
      expect word "done"
      pure (.repeated (t.isSign "until") test body)
    | .sign "for" =>
      let c ← loopOverWords self word line
      expect word "done"
      pure c
    | .sign "case" => choiceByPattern self word line
    | .sign "(" =>
      let body ← self (.list .block)
      expect word ")"
      return .subshell line body (← redirectionsAfter word)
    | .sign "\x7b" =>
      let body ← self (.list .block)
      expect word "\x7d"
      pure body
    | t => refuse t none
  let redirections ← redirectionsAfter word
  return if redirections.isEmpty then compound else .redirected line compound redirections

def joined (sign : String) (element : Bool → Reader Command) : Reader (List Command) := do
  let first ← element false
  untilDone (fun cs => do
    let t ← token word false false
    if t.isSign sign then return .inl ((← element true) :: cs)
    giveBack t
    return .inr cs.reverse) [first]

def pipeline (isSpecialCommand : Chars → Bool) (skipLines : Bool) : Reader Command := do
  let t ← token word skipLines true
  let isNegated := t.isSign "!"
  if !isNegated then giveBack t
  let c ←
    match ← joined word "|" (command self word isSpecialCommand) with
    | [c] => pure c
    | cs => pure (.pipe cs)
  return if isNegated then .negated c else c

def conditional (isSpecialCommand : Chars → Bool) : Reader Command := do
  let first ← pipeline self word isSpecialCommand false
  untilDone (fun c => do
    let t ← token word false false
    if t.isSign "&&" then return .inl (.both c (← pipeline self word isSpecialCommand true))
    if t.isSign "||" then return .inl (.either c (← pipeline self word isSpecialCommand true))
    giveBack t
    return .inr c) first

def followedBy (list : Option Command) (c : Command) : Command :=
  match list with
  | some first => .sequence first c
  | none => c

def list (isSpecialCommand : Chars → Bool) (extent : Extent) : Reader Command :=
  untilDone (fun (done : Option Command) => do
    let t ← token word (extent != .line) true
    let result := done.getD .nothing
    match t with
    | .newline => return .inr result
    | .ending =>
      giveBack t
      return .inr result
    | _ =>
      giveBack t
      if t.endsList && (extent == .branch || (extent == .block && done.isSome)) then
        return .inr result
      let c ← conditional self word isSpecialCommand
      let t ← token word false false
      let c := followedBy done (if t.isSign "&" then .background c else c)
      if t.isSign "&" || t.isSign ";" then return .inl (some c)
      giveBack t
      match t with
      | .newline => return .inl (some c)
      | .ending => return .inr c
      | _ => if extent == .line then refuse t none else return .inr c) none

end

/-- Read what can stand inside of something else, as deep as the fuel allows. -/
def inside (isSpecialCommand : Chars → Bool) : Nat → Goal → Reader Command
  | 0, _ => fail .depth
  | n + 1, goal => do
    let self := inside isSpecialCommand n
    let word (place : Place) : Reader Word := do
      pieces (self (.list .branch)) ((← get).rest.length + 2) place
    match goal with
    | .list extent => list self word isSpecialCommand extent
    | .command => command self word isSpecialCommand true

end Reader

end DasherTerminal.Shell
