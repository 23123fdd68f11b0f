import DasherTerminal.Shell.Syntax
import DasherTerminal.Text.Numeral

/-!
# Arithmetic

The expressions of the shell: whole numbers of 64 bits, variables that hold
them, the usual operators and assignments.
-/

namespace DasherTerminal.Shell

namespace Arithmetic

inductive Operator where
  | mul | div | rem | add | sub | shiftLeft | shiftRight | lt | le | gt | ge | eq | ne | and | xor
  | or
  deriving DecidableEq, Repr

/-- How strongly an operator binds; the strongest have level zero. -/
def Operator.level : Operator → Nat
  | .mul | .div | .rem => 0
  | .add | .sub => 1
  | .shiftLeft | .shiftRight => 2
  | .lt | .le | .gt | .ge => 3
  | .eq | .ne => 4
  | .and => 5
  | .xor => 6
  | .or => 7

inductive Sign where
  | minus
  | not
  | complement
  deriving DecidableEq, Repr

inductive Expression where
  | number (value : Int)
  | variable (name : Chars)
  | signed (sign : Sign) (e : Expression)
  | binary (op : Operator) (a b : Expression)
  | both (a b : Expression)
  | either (a b : Expression)
  | choice (test a b : Expression)
  /-- Assign a value, or what an operator makes of the old one and it. -/
  | assign (name : Chars) (op : Option Operator) (e : Expression)
  deriving DecidableEq, Repr

inductive Fault where
  | noPrimary
  | noEnd
  | noClosing
  | noColon
  | divisionByZero
  /-- A variable holds something else than a number. -/
  | noNumber (value : Chars)
  deriving DecidableEq, Repr

def Fault.message (expression : Chars) : Fault → Chars
  | .noPrimary => worded "expecting primary"
  | .noEnd => worded "expecting EOF"
  | .noClosing => worded "expecting ')'"
  | .noColon => worded "expecting ':'"
  | .divisionByZero => worded "division by zero"
  | .noNumber value => "Illegal number: ".toList ++ value
where
  worded (what : String) : Chars :=
    ("arithmetic expression: " ++ what ++ ": \"").toList ++ expression ++ ['"']

/-! ### Tokens -/

inductive Token where
  | number (value : Int)
  | name (name : Chars)
  | sign (text : String)
  | unknown
  deriving DecidableEq, Repr

/-- The signs of expressions, longest first. -/
def signs : List String :=
  ["<<=", ">>=", "<<", ">>", "<=", ">=", "==", "!=", "&&", "||", "*=", "/=", "%=", "+=", "-=",
    "&=", "^=", "|=", "<", ">", "=", "!", "&", "|", "*", "/", "%", "+", "-", "^", "~", "(", ")",
    "?", ":"]

def largest : Nat := 0x7FFFFFFFFFFFFFFF

/-- The tokens of an expression. What is too large counts as the largest number. -/
def tokens : Nat → Chars → List Token
  | 0, _ => []
  | _ + 1, [] => []
  | n + 1, c :: cs =>
    if c = ' ' ∨ c = '\t' ∨ c = '\n' then tokens n cs
    else if isDigit c then
      match Text.Numeral.unsigned? (c :: cs) with
      | some (value, rest) => .number (min value largest : Nat) :: tokens n rest
      | none => [.unknown]
    else if startsName c then
      let name := (c :: cs).takeWhile isInName
      .name name :: tokens n ((c :: cs).drop name.length)
    else
      match signs.find? fun s => s.toList.isPrefixOf (c :: cs) with
      | some s => .sign s :: tokens n ((c :: cs).drop s.length)
      | none => [.unknown]

def operator? (sign : String) : Option Operator :=
  match sign with
  | "*" => some .mul
  | "/" => some .div
  | "%" => some .rem
  | "+" => some .add
  | "-" => some .sub
  | "<<" => some .shiftLeft
  | ">>" => some .shiftRight
  | "<" => some .lt
  | "<=" => some .le
  | ">" => some .gt
  | ">=" => some .ge
  | "==" => some .eq
  | "!=" => some .ne
  | "&" => some .and
  | "^" => some .xor
  | "|" => some .or
  | _ => none

/-- The operator with which a sign assigns. Nothing for a plain assignment. -/
def assignment? (sign : String) : Option (Option Operator) :=
  match sign with
  | "=" => some none
  | "*=" => some (some .mul)
  | "/=" => some (some .div)
  | "%=" => some (some .rem)
  | "+=" => some (some .add)
  | "-=" => some (some .sub)
  | "<<=" => some (some .shiftLeft)
  | ">>=" => some (some .shiftRight)
  | "&=" => some (some .and)
  | "^=" => some (some .xor)
  | "|=" => some (some .or)
  | _ => none

/-! ### Parsing -/

abbrev Parser := StateT (List Token) (Except Fault)

def takeIf (sign : String) : Parser Bool := do
  match ← get with
  | .sign s :: rest =>
    if s = sign then
      set rest
      return true
    return false
  | _ => return false

/-- Read a value with signs before it, given how to read what stands in parentheses. -/
def primary (inner : Parser Expression) : Nat → Parser Expression
  | 0 => throw .noPrimary
  | n + 1 => do
    match ← get with
    | .number value :: rest =>
      set rest
      return .number value
    | .name name :: rest =>
      set rest
      return .variable name
    | .sign "(" :: rest =>
      set rest
      let e ← inner
      if !(← takeIf ")") then throw .noClosing
      return e
    | .sign "+" :: rest =>
      set rest
      primary inner n
    | .sign "-" :: rest =>
      set rest
      return .signed .minus (← primary inner n)
    | .sign "!" :: rest =>
      set rest
      return .signed .not (← primary inner n)
    | .sign "~" :: rest =>
      set rest
      return .signed .complement (← primary inner n)
    | _ => throw .noPrimary

/-- Read values with operators between them that bind at least as strongly as a
level says. -/
def binary (primary : Parser Expression) : Nat → Parser Expression
  | 0 => primary
  | level + 1 => do
    let first ← binary primary level
    go level ((← get).length) first
where
  /-- Add operators of a level as long as there are any. -/
  go (level : Nat) : Nat → Expression → Parser Expression
    | 0, e => return e
    | n + 1, e => do
      match ← get with
      | .sign s :: rest =>
        match operator? s with
        | some op =>
          if op.level = level then
            set rest
            go level n (.binary op e (← binary primary level))
          else return e
        | none => return e
      | _ => return e

def conjunction (inner : Parser Expression) : Nat → Parser Expression
  | 0 => throw .noPrimary
  | n + 1 => do
    let first ← binary (primary inner (n + 1)) 8
    if ← takeIf "&&" then return .both first (← conjunction inner n)
    return first

def disjunction (inner : Parser Expression) : Nat → Parser Expression
  | 0 => throw .noPrimary
  | n + 1 => do
    let first ← conjunction inner (n + 1)
    if ← takeIf "||" then return .either first (← disjunction inner n)
    return first

def conditional (inner : Parser Expression) : Nat → Parser Expression
  | 0 => throw .noPrimary
  | n + 1 => do
    let test ← disjunction inner (n + 1)
    if ← takeIf "?" then
      let a ← inner
      if !(← takeIf ":") then throw .noColon
      return .choice test a (← conditional inner n)
    return test

/-- Read an expression, as deep as the fuel allows. -/
def expression : Nat → Parser Expression
  | 0 => throw .noPrimary
  | n + 1 => do
    match ← get with
    | .name name :: .sign s :: rest =>
      match assignment? s with
      | some op =>
        set rest
        return .assign name op (← expression n)
      | none => conditional (expression n) (n + 1)
    | _ => conditional (expression n) (n + 1)

def parse (text : Chars) : Except Fault Expression := do
  let ts := tokens (text.length + 1) text
  let (e, rest) ← (expression (ts.length + 1)).run ts
  if rest.isEmpty then return e else throw .noEnd

/-! ### Values -/

/-- A number as 64 bits hold it. -/
def wrap (n : Int) : Int := Int.bmod n 0x10000000000000000

def truth (b : Bool) : Int := if b then 1 else 0

def bits (n : Int) : UInt64 := (n % 0x10000000000000000).toNat.toUInt64

def ofBits (b : UInt64) : Int := wrap b.toNat

def Operator.apply (op : Operator) (a b : Int) : Except Fault Int :=
  match op with
  | .mul => .ok (wrap (a * b))
  | .div => if b = 0 then .error .divisionByZero else .ok (wrap (a.tdiv b))
  | .rem => if b = 0 then .error .divisionByZero else .ok (a.tmod b)
  | .add => .ok (wrap (a + b))
  | .sub => .ok (wrap (a - b))
  | .shiftLeft => .ok (ofBits (bits a <<< (bits b % 64)))
  | .shiftRight => .ok (a / Nat.pow 2 (b % 64).toNat)
  | .lt => .ok (truth (a < b))
  | .le => .ok (truth (a ≤ b))
  | .gt => .ok (truth (b < a))
  | .ge => .ok (truth (b ≤ a))
  | .eq => .ok (truth (a = b))
  | .ne => .ok (truth (a ≠ b))
  | .and => .ok (ofBits (bits a &&& bits b))
  | .xor => .ok (ofBits (bits a ^^^ bits b))
  | .or => .ok (ofBits (bits a ||| bits b))

/-- The number that a variable's value stands for. Blank is zero. -/
def numberOf (value : Chars) : Except Fault Int :=
  let isSpace (c : Char) : Bool := c = ' ' || ('\t' ≤ c && c ≤ '\r')
  match Text.Numeral.signed? value with
  | some (n, rest) =>
    if rest.all isSpace && -(largest : Int) - 1 ≤ n && n ≤ largest then .ok n
    else .error (.noNumber value)
  | none => if value.all isSpace then .ok 0 else .error (.noNumber value)

/-- The value of an expression, with what is assigned on the way, latest first. -/
def evaluate (look : Chars → Chars) (assigned : List (Chars × Int)) :
    Expression → Except Fault (Int × List (Chars × Int))
  | .number value => .ok (value, assigned)
  | .variable name => do
    match assigned.lookup name with
    | some value => return (value, assigned)
    | none => return (← numberOf (look name), assigned)
  | .signed sign e => do
    let (n, assigned) ← evaluate look assigned e
    match sign with
    | .minus => return (wrap (-n), assigned)
    | .not => return (truth (n = 0), assigned)
    | .complement => return (-n - 1, assigned)
  | .binary op a b => do
    let (m, assigned) ← evaluate look assigned a
    let (n, assigned) ← evaluate look assigned b
    return (← op.apply m n, assigned)
  | .both a b => do
    let (m, assigned) ← evaluate look assigned a
    if m = 0 then return (0, assigned)
    let (n, assigned) ← evaluate look assigned b
    return (truth (n ≠ 0), assigned)
  | .either a b => do
    let (m, assigned) ← evaluate look assigned a
    if m ≠ 0 then return (1, assigned)
    let (n, assigned) ← evaluate look assigned b
    return (truth (n ≠ 0), assigned)
  | .choice test a b => do
    let (m, assigned) ← evaluate look assigned test
    if m ≠ 0 then evaluate look assigned a else evaluate look assigned b
  | .assign name op e => do
    let (n, assigned) ← evaluate look assigned e
    match op with
    | none => return (n, (name, n) :: assigned)
    | some op =>
      let old ←
        match assigned.lookup name with
        | some value => pure value
        | none => numberOf (look name)
      let value ← op.apply old n
      return (value, (name, value) :: assigned)

end Arithmetic

end DasherTerminal.Shell
