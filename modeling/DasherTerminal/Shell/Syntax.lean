/-!
# Shell scripts

What a script says: commands, the words they are made of, and the values that
stand in words. The shell works on bytes; each character of its texts stands for
one byte.
-/

namespace DasherTerminal.Shell

/-- A text of the shell, with a character below 256 for each byte. -/
abbrev Chars := List Char

def Chars.ofBytes (bytes : List UInt8) : Chars := bytes.map Char.ofUInt8

def Chars.toBytes (cs : Chars) : List UInt8 := cs.map Char.toUInt8

def Chars.ofString (s : String) : Chars := .ofBytes s.toUTF8.toList

def startsName (c : Char) : Bool := ('a' ≤ c && c ≤ 'z') || ('A' ≤ c && c ≤ 'Z') || c == '_'

def isDigit (c : Char) : Bool := '0' ≤ c && c ≤ '9'

def isInName (c : Char) : Bool := startsName c || isDigit c

def isName : Chars → Bool
  | [] => false
  | c :: cs => startsName c && cs.all isInName

/-- Whether a character names a parameter by itself. -/
def isSpecial (c : Char) : Bool := isDigit c || ['@', '*', '#', '?', '-', '$', '!'].contains c

inductive Side where
  | left
  | right
  deriving DecidableEq, Repr

/-- What is done with the value of a parameter. The switch tells whether an empty
value is taken for a missing one. -/
inductive Adjustment where
  | none
  | length
  | default (orEmpty : Bool)
  | assign (orEmpty : Bool)
  | require (orEmpty : Bool)
  | alternative (orEmpty : Bool)
  /-- Cut off what matches a pattern. -/
  | trim (side : Side) (longest : Bool)
  /-- There is no such adjustment. -/
  | bad
  deriving DecidableEq, Repr

inductive Direction where
  | read
  | write
  | append
  | both
  /-- To where another descriptor leads. -/
  | copy
  /-- From the text that is given. -/
  | here
  deriving DecidableEq, Repr

mutual

inductive Piece where
  | text (chars : Chars) (quoted : Bool)
  | parameter (name : Chars) (adjustment : Adjustment) (word : List Piece) (quoted : Bool)
  /-- What a command shows. -/
  | shown (command : Command) (quoted : Bool)
  | arithmetic (expression : List Piece) (quoted : Bool)

inductive Redirection where
  | to (descriptor : Nat) (direction : Direction) (target : List Piece)

inductive Branch where
  | on (patterns : List (List Piece)) (body : Command)

/-- A command. Some know the line they stand in. -/
inductive Command where
  | nothing
  | simple (line : Nat) (assignments : List (Chars × List Piece)) (words : List (List Piece))
      (redirections : List Redirection)
  /-- The output of each command is the input of the next. -/
  | pipe (commands : List Command)
  | negated (command : Command)
  | both (first second : Command)
  | either (first second : Command)
  | sequence (first second : Command)
  | background (command : Command)
  | redirected (line : Nat) (command : Command) (redirections : List Redirection)
  | subshell (line : Nat) (command : Command) (redirections : List Redirection)
  /-- Repeat as long as a test succeeds, or until it does. -/
  | repeated (untilSuccess : Bool) (test body : Command)
  | forEach (line : Nat) (name : Chars) (words : List (List Piece)) (body : Command)
  | choice (test success failure : Command)
  | byPattern (line : Nat) (subject : List Piece) (branches : List Branch)
  | define (name : Chars) (body : Command)

end

abbrev Word := List Piece

instance : Inhabited Command := ⟨.nothing⟩

namespace Word

def cons (c : Char) (quoted : Bool) (w : Word) : Word :=
  match w with
  | .text cs q :: rest => if q = quoted then .text (c :: cs) q :: rest else .text [c] quoted :: w
  | _ => .text [c] quoted :: w

def append (cs : Chars) (quoted : Bool) (w : Word) : Word :=
  cs.foldr (fun c w => cons c quoted w) w

/-- The text of a word without quotes and values. -/
def bare? (w : Word) : Option Chars :=
  match w with
  | [.text cs false] => some cs
  | _ => none

/-- The text of a word whatever is quoted in it. Values count as nothing. -/
def plain (w : Word) : Chars :=
  w.flatMap fun p =>
    match p with
    | .text cs _ => cs
    | _ => []

def isQuoted (w : Word) : Bool :=
  w.any fun p =>
    match p with
    | .text _ quoted => quoted
    | .parameter _ _ _ quoted => quoted
    | .shown _ quoted => quoted
    | .arithmetic _ quoted => quoted

/-- The name and the value of an assignment, if a word is one. -/
def assignment? (w : Word) : Option (Chars × Word) :=
  match w with
  | .text cs false :: rest =>
    let name := cs.takeWhile isInName
    match isName name, cs.drop name.length with
    | true, '=' :: value => some (name, append value false rest)
    | _, _ => none
  | _ => none

end Word

end DasherTerminal.Shell
