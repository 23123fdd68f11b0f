import DasherTerminal.Shell.Syntax
import DasherTerminal.Text.Numeral

/-!
# Conditions

The conditions that the shell's test command decides: comparisons of texts and
numbers, questions about files and descriptors, and what joins them.
-/

namespace DasherTerminal.Shell

namespace Condition

inductive Operator where
  /-- A question about the word that follows. -/
  | question (letter : Char)
  /-- A comparison of the words around it. -/
  | comparison (name : String)
  | not
  | and
  | or
  | opening
  | closing
  deriving DecidableEq, Repr

def operator? (word : Chars) : Option Operator :=
  match String.ofList word with
  | "!" => some .not
  | "-a" => some .and
  | "-o" => some .or
  | "(" => some .opening
  | ")" => some .closing
  | name =>
    if ["=", "!=", "<", ">", "-eq", "-ne", "-gt", "-ge", "-lt", "-le", "-nt", "-ot",
        "-ef"].contains name then some (.comparison name)
    else
      match word with
      | ['-', c] => if "rwxefdcbpugkstznhOGLS".toList.contains c then some (.question c) else none
      | _ => none

def isComparison (word : Chars) : Bool :=
  match operator? word with
  | some (.comparison _) => true
  | _ => false

inductive Fault where
  | noArgument (operator : Chars)
  | unexpected (word : Chars)
  | open
  | noNumber (word : Chars)
  | noBracket
  deriving DecidableEq, Repr

def Fault.message : Fault → Chars
  | .noArgument operator => operator ++ ": argument expected".toList
  | .unexpected word => word ++ ": unexpected operator".toList
  | .open => "closing paren expected".toList
  | .noNumber word => "Illegal number: ".toList ++ word
  | .noBracket => "missing ]".toList

/-- The answers to questions about things outside of the shell. -/
structure Outside where
  ofFile : Char → Chars → Bool
  isConsole : Int → Bool

/-- What is left of a condition. The first word is the one that was used last. -/
abbrev Decider := StateT (List Chars) (Except Fault)

/-- The meaning of the first word. A question at the end of the words, or before a
comparison, is a text, and so is a parenthesis at the end. -/
def meaning (words : List Chars) : Option Operator :=
  match words with
  | [] => none
  | w :: rest =>
    match operator? w with
    | some (.question c) =>
      match rest with
      | [] => none
      | [_] => some (.question c)
      | next :: _ => if isComparison next then none else some (.question c)
    | some .opening => if rest.isEmpty then none else some .opening
    | op => op

def number (word : Chars) : Decider Int := do
  let isSpace (c : Char) : Bool := c = ' ' || ('\t' ≤ c && c ≤ '\r')
  let blankless := word.dropWhile isSpace
  let (negative, digits) :=
    match blankless with
    | '-' :: rest => (true, rest)
    | '+' :: rest => (false, rest)
    | rest => (false, rest)
  match Text.Numeral.digits? 10 digits with
  | some (n, rest) =>
    if rest.all isSpace && n ≤ 0x7FFFFFFFFFFFFFFF then return if negative then -(n : Int) else n
    else throw (.noNumber word)
  | none => throw (.noNumber word)

def compare (out : Outside) (name : String) (a b : Chars) : Decider Bool := do
  let numbers (p : Int → Int → Bool) : Decider Bool := do
    let m ← number a
    let n ← number b
    return p m n
  match name with
  | "=" => return a == b
  | "!=" => return a != b
  | "<" => return decide (a < b)
  | ">" => return decide (b < a)
  | "-eq" => numbers (· == ·)
  | "-ne" => numbers (· != ·)
  | "-gt" => numbers (· > ·)
  | "-ge" => numbers (· ≥ ·)
  | "-lt" => numbers (· < ·)
  | "-le" => numbers (· ≤ ·)
  | "-ef" => return a == b && out.ofFile 'e' a
  | _ => return out.ofFile 'e' a && !out.ofFile 'e' b

def answer (out : Outside) (letter : Char) (word : Chars) : Decider Bool := do
  match letter with
  | 'z' => return word.isEmpty
  | 'n' => return !word.isEmpty
  | 't' => return out.isConsole (← number word)
  | c => return out.ofFile c word

/-- Decide from the first word, which stands at the front, given how to decide what
stands in parentheses. -/
def primary (out : Outside) (inner : Decider Bool) : Decider Bool := do
  let words ← get
  match words, meaning words with
  | [], _ => return false
  | _ :: rest, some .opening =>
    set rest
    if operator? (rest.headD []) = some .closing then return false
    let result ← inner
    modify (·.drop 1)
    if operator? ((← get).headD []) ≠ some .closing then throw .open
    return result
  | w :: rest, some (.question c) =>
    match rest with
    | a :: _ =>
      set rest
      answer out c a
    | [] => throw (.noArgument w)
  | w :: rest, _ =>
    match rest with
    | op :: more =>
      match operator? op, more with
      | some (.comparison _), [] => throw (.noArgument op)
      | some (.comparison name), b :: _ =>
        set more
        compare out name w b
      | _, _ => return !w.isEmpty
    | [] => return !w.isEmpty

def negation (out : Outside) (inner : Decider Bool) : Nat → Decider Bool
  | 0 => return false
  | n + 1 => do
    if meaning (← get) = some .not then
      modify (·.drop 1)
      return !(← negation out inner n)
    primary out inner

def conjunction (out : Outside) (inner : Decider Bool) : Nat → Decider Bool
  | 0 => return false
  | n + 1 => do
    let first ← negation out inner ((← get).length + 1)
    if meaning ((← get).drop 1) = some .and then
      modify (·.drop 2)
      let rest ← conjunction out inner n
      return first && rest
    return first

def disjunction (out : Outside) (inner : Decider Bool) : Nat → Decider Bool
  | 0 => return false
  | n + 1 => do
    let first ← conjunction out inner ((← get).length + 1)
    if meaning ((← get).drop 1) = some .or then
      modify (·.drop 2)
      let rest ← disjunction out inner n
      return first || rest
    return first

def nested (out : Outside) : Nat → Decider Bool
  | 0 => return false
  | n + 1 => do disjunction out (nested out n) ((← get).length + 1)

/-- Decide words as a whole. Three words with a comparison in the middle are just
that; a negation of a few words is taken off first, and so are parentheses. -/
def ofWords (out : Outside) : List Chars → Except Fault Bool
  | [] => .ok false
  | words@(w :: rest) =>
    let whole (words : List Chars) : Except Fault Bool := do
      let (result, left) ← (nested out (words.length + 1)).run words
      match left with
      | w :: _ :: _ => throw (.unexpected w)
      | _ => return result
    match words with
    | [a, op, b] =>
      match operator? op with
      | some (.comparison name) => (compare out name a b).run' []
      | _ =>
        if a = ['('] ∧ b = [')'] then whole [op]
        else if w = ['!'] then (ofWords out rest).map not
        else whole words
    | [a, b, c, d] =>
      if a = ['('] ∧ d = [')'] then whole [b, c]
      else if w = ['!'] then (ofWords out rest).map not
      else whole words
    | _ => whole words

/-- Decide the arguments of the command by its name; with a bracket as its name
they end with one. -/
def ofCommand (out : Outside) (name : Chars) (words : List Chars) : Except Fault Bool :=
  if name.head? = some '[' then
    if words.getLast? = some [']'] then ofWords out words.dropLast else .error .noBracket
  else ofWords out words

end Condition

end DasherTerminal.Shell
