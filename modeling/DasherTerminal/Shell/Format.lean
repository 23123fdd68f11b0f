import DasherTerminal.Shell.Syntax
import DasherTerminal.Text.Numeral

/-!
# Formatted text

The escapes in what commands print, and printing by a format: a text with places
for arguments, which is used again as long as arguments are left.
-/

namespace DasherTerminal.Shell

namespace Format

/-! ### Escapes -/

def escape? (letter : Char) : Option Char :=
  match letter with
  | '\\' => some '\\'
  | 'a' => some '\x07'
  | 'b' => some '\x08'
  | 'e' => some '\x1b'
  | 'f' => some '\x0c'
  | 'n' => some '\n'
  | 'r' => some '\r'
  | 't' => some '\t'
  | 'v' => some '\x0b'
  | _ => none

def isOctal (c : Char) : Bool := '0' ≤ c && c ≤ '7'

/-- The character for the digits at the start of a text, at most so many, and how
many there are. -/
def numbered (base most : Nat) (cs : Chars) : Char × Nat :=
  let digits := (cs.take most).takeWhile fun c => (Text.Numeral.digit? base c).isSome
  (Char.ofNat ((Text.Numeral.digitsFrom base 0 digits).1 % 256), digits.length)

/-- The character of an escape, given what follows the backslash, and how much of
that belongs to it. A backslash before anything else stands for itself. -/
def escaped (cs : Chars) : Char × Nat :=
  match cs with
  | c :: _ =>
    match escape? c with
    | some d => (d, 1)
    | none => if isOctal c then numbered 8 3 cs else ('\\', 0)
  | [] => ('\\', 0)

/-- Replace the escapes in a text. An octal escape may have a zero more, and an
escaped `c` ends everything, which the second part of the answer tells. -/
def unescape : Nat → Chars → Chars × Bool
  | 0, _ => ([], false)
  | _ + 1, [] => ([], false)
  | n + 1, '\\' :: cs =>
    match cs with
    | 'c' :: _ => ([], true)
    | _ =>
      let cs :=
        match cs with
        | '0' :: d :: rest => if isOctal d then d :: rest else cs
        | _ => cs
      let (d, length) := escaped cs
      let (text, ended) := unescape n (cs.drop length)
      (d :: text, ended)
  | n + 1, c :: cs =>
    let (text, ended) := unescape n cs
    (c :: text, ended)

/-- Words with blanks between them, each with its escapes replaced, up to an
escape that ends everything. The second part tells whether there is one. -/
def echoed : List Chars → Chars × Bool
  | [] => ([], false)
  | [w] => unescape (w.length + 1) w
  | w :: ws =>
    let (text, ended) := unescape (w.length + 1) w
    if ended then (text, true)
    else
      let (more, ended) := echoed ws
      (text ++ ' ' :: more, ended)

def echo (words : List Chars) : Chars :=
  let (isBare, words) :=
    match words with
    | ['-', 'n'] :: rest => (true, rest)
    | _ => (false, words)
  let (text, ended) := echoed words
  if isBare || ended then text else text ++ ['\n']

/-! ### Numbers -/

def digits (base least n : Nat) : Chars :=
  let ds := if n = 0 then (if least = 0 then [] else ['0']) else Nat.toDigits base n
  List.replicate (least - ds.length) '0' ++ ds

/-- A quotient rounded to a whole number; a tie goes to the even one. -/
def roundedQuotient (a b : Nat) : Nat :=
  let q := a / b
  let r := 2 * (a % b)
  if b < r || (r == b && q % 2 == 1) then q + 1 else q

structure Fraction where
  numerator : Nat
  denominator : Nat
  deriving DecidableEq, Repr

namespace Fraction

def scale (f : Fraction) (base : Nat) (e : Int) : Fraction :=
  if 0 ≤ e then { f with numerator := f.numerator * base.pow e.toNat }
  else { f with denominator := f.denominator * base.pow (-e).toNat }

def rounded (f : Fraction) : Nat := roundedQuotient f.numerator f.denominator

/-- The fraction that is kept of a positive one when it has 53 binary digits. -/
def binary (f : Fraction) : Fraction :=
  if f.numerator = 0 then f
  else
    let e := (f.numerator.log2 : Int) - f.denominator.log2 - 53
    let e := if 0x20000000000000 ≤ (f.scale 2 (-e)).rounded then e + 1 else e
    (⟨(f.scale 2 (-e)).rounded, 1⟩ : Fraction).scale 2 e

/-- The power of ten at which a positive fraction has its first digit. -/
def exponent (f : Fraction) : Int :=
  let reaches (e : Int) : Bool :=
    let f := f.scale 10 (-e)
    f.denominator ≤ f.numerator
  let guess := ((f.numerator.log2 : Int) - f.denominator.log2) * 30103 / 100000
  ([guess + 2, guess + 1, guess, guess - 1, guess - 2].find? reaches).getD (guess - 3)

end Fraction

def fixed (f : Fraction) (places : Nat) (point : Bool) : Chars :=
  let ds := digits 10 (places + 1) (f.scale 10 places).rounded
  let whole := ds.take (ds.length - places)
  whole ++ (if places ≠ 0 || point then ['.'] else []) ++ ds.drop whole.length

/-- The digits of a fraction, so many after the first, and the power of ten of the
first. -/
def scientific (f : Fraction) (places : Nat) : Chars × Int :=
  if f.numerator = 0 then (List.replicate (places + 1) '0', 0)
  else
    let e := f.exponent
    let ds := digits 10 1 (f.scale 10 (places - e)).rounded
    if places + 1 < ds.length then (ds.take (places + 1), e + 1) else (ds, e)

def withExponent (f : Fraction) (places : Nat) (point : Bool) : Chars :=
  let (ds, e) := scientific f places
  ds.take 1 ++ (if places ≠ 0 || point then ['.'] else []) ++ ds.drop 1 ++
    ['e', if e < 0 then '-' else '+'] ++ digits 10 2 e.natAbs

def withoutZeros (cs : Chars) : Chars :=
  if cs.contains '.' then
    let kept := cs.reverse.dropWhile (· = '0')
    (if kept.head? = some '.' then kept.drop 1 else kept).reverse
  else cs

/-- A number with so many digits that count, in the shorter form. -/
def general (f : Fraction) (precision : Nat) (point : Bool) : Chars :=
  let precision := max precision 1
  let (_, e) := scientific f (precision - 1)
  let strip := if point then id else withoutZeros
  if -4 ≤ e && e < precision then strip (fixed f (precision - 1 - e).toNat point)
  else
    let cs := withExponent f (precision - 1) point
    let mantissa := cs.takeWhile (· ≠ 'e')
    strip mantissa ++ cs.drop mantissa.length

/-- The decimal fraction at the start of a text, with its sign, and what follows. -/
def decimal? (cs : Chars) : Option (Bool × Fraction × Chars) :=
  let cs := cs.dropWhile fun c => c = ' ' || ('\t' ≤ c && c ≤ '\r')
  let (negative, cs) :=
    match cs with
    | '-' :: rest => (true, rest)
    | '+' :: rest => (false, rest)
    | _ => (false, cs)
  let whole := cs.takeWhile isDigit
  let rest := cs.drop whole.length
  let part :=
    match rest with
    | '.' :: more => more.takeWhile isDigit
    | _ => []
  let rest := if rest.head? = some '.' then rest.drop (part.length + 1) else rest
  if whole.isEmpty && part.isEmpty then none
  else
    let (value, _) := Text.Numeral.digitsFrom 10 0 (whole ++ part)
    let (e, rest) :=
      match rest with
      | x :: more =>
        if x = 'e' ∨ x = 'E' then
          match Text.Numeral.digits? 10 (if more.head? = some '-' ∨ more.head? = some '+' then
              more.drop 1 else more) with
          | some (n, after) => ((if more.head? = some '-' then -(n : Int) else n), after)
          | none => (0, rest)
        else (0, rest)
      | [] => (0, rest)
    let shift := e - (part.length : Int)
    let f := (⟨value, 1⟩ : Fraction).scale 10 (max (-400) (min shift 400))
    some (negative, f.binary, rest)

/-! ### Formats -/

structure Place where
  source : Chars
  left : Bool
  plus : Bool
  space : Bool
  alternate : Bool
  zeros : Bool
  /-- The least width. Nothing if an argument gives it. -/
  width : Option Nat
  /-- The precision, if there is one. It is nothing if an argument gives it. -/
  precision : Option (Option Nat)
  conversion : Char
  deriving DecidableEq, Repr

inductive Part where
  | char (c : Char)
  | place (p : Place)
  /-- A place without its last character. -/
  | unfinished
  deriving DecidableEq, Repr

def size (cs : Chars) : Option Nat × Chars :=
  match cs with
  | '*' :: rest => (none, rest)
  | _ =>
    let (n, rest) := Text.Numeral.digitsFrom 10 0 cs
    (some n, rest)

/-- The place that is written at the start of a text, after its percent sign, and
what follows. -/
def readPlace (cs : Chars) : Part × Chars :=
  let flags := cs.takeWhile fun c => ['#', '-', '+', ' ', '0'].contains c
  let (width, rest) := size (cs.drop flags.length)
  let (precision, rest) :=
    match rest with
    | '.' :: more =>
      let (n, more) := size more
      (some n, more)
    | _ => (none, rest)
  match rest with
  | c :: after =>
    let written := '%' :: cs.take (cs.length - after.length)
    (.place ⟨written, flags.contains '-', flags.contains '+', flags.contains ' ',
      flags.contains '#', flags.contains '0', width, precision, c⟩, after)
  | [] => (.unfinished, [])

def parts : Nat → Chars → List Part
  | 0, _ => []
  | _ + 1, [] => []
  | n + 1, '\\' :: cs =>
    let (c, length) := escaped cs
    .char c :: parts n (cs.drop length)
  | n + 1, '%' :: '%' :: cs => .char '%' :: parts n cs
  | n + 1, '%' :: cs =>
    let (p, rest) := readPlace cs
    p :: parts n rest
  | n + 1, c :: cs => .char c :: parts n cs

structure Progress where
  arguments : List Chars
  /-- What is complained about, latest first. -/
  complaints : List Chars
  deriving DecidableEq, Repr

def Progress.take (p : Progress) : Option Chars × Progress :=
  match p.arguments with
  | a :: rest => (some a, { p with arguments := rest })
  | [] => (none, p)

def Progress.complain (p : Progress) (argument : Chars) (what : String) : Progress :=
  { p with complaints := (argument ++ (": " ++ what).toList) :: p.complaints }

/-- Complain if a number does not end with its argument. -/
def Progress.checkEnd (p : Progress) (argument rest : Chars) : Progress :=
  if rest.isEmpty then p else p.complain argument "not completely converted"

/-- Take a number. A quote stands for the code of the character after it. -/
def Progress.number (p : Progress) (limits : Int × Int) : Int × Progress :=
  match p.take with
  | (none, p) => (0, p)
  | (some a, p) =>
    match a with
    | '"' :: rest | '\'' :: rest => ((rest.head?.map fun c => (c.toNat : Int)).getD 0, p)
    | _ =>
      match Text.Numeral.signed? a with
      | none => (0, if a.isEmpty then p else p.complain a "expected numeric value")
      | some (n, rest) =>
        let p := p.checkEnd a rest
        if n < limits.1 then (limits.1, p.complain a "Numerical result out of range")
        else if limits.2 < n then (limits.2, p.complain a "Numerical result out of range")
        else (n, p)

def Progress.fraction (p : Progress) : (Bool × Fraction) × Progress :=
  match p.take with
  | (none, p) => ((false, ⟨0, 1⟩), p)
  | (some a, p) =>
    match a with
    | '"' :: rest | '\'' :: rest => ((false, ⟨(rest.head?.map Char.toNat).getD 0, 1⟩), p)
    | _ =>
      match decimal? a with
      | none =>
        ((false, ⟨0, 1⟩), if a.isEmpty then p else p.complain a "expected numeric value")
      | some (negative, f, rest) => ((negative, f), p.checkEnd a rest)

structure Sized where
  place : Place
  left : Bool
  width : Nat
  precision : Option Nat
  deriving DecidableEq, Repr

/-- Settle the sizes of a place. A negative width stands for a width on the left. -/
def Progress.settle (p : Progress) (place : Place) : Sized × Progress :=
  let limits : Int × Int := (-0x80000000, 0x7FFFFFFF)
  let (width, p) :=
    match place.width with
    | some n => ((n : Int), p)
    | none => p.number limits
  let (precision, p) :=
    match place.precision with
    | none => (none, p)
    | some (some n) => (some n, p)
    | some none =>
      let (n, p) := p.number limits
      (if n < 0 then none else some n.toNat, p)
  (⟨place, place.left || width < 0, width.natAbs, precision⟩, p)

def Sized.pad (s : Sized) (text : Chars) : Chars :=
  let blanks := List.replicate (s.width - text.length) ' '
  if s.left then text ++ blanks else blanks ++ text

def Sized.padNumber (s : Sized) (before digits : Chars) (zeros : Bool) : Chars :=
  let missing := s.width - before.length - digits.length
  if s.left || !zeros then s.pad (before ++ digits)
  else before ++ List.replicate missing '0' ++ digits

def Sized.sign (s : Sized) (negative : Bool) : Chars :=
  if negative then ['-'] else if s.place.plus then ['+'] else if s.place.space then [' '] else []

def capitals (cs : Chars) : Chars := cs.map Char.toUpper

def Sized.whole (s : Sized) (before : Chars) (ds : Chars) : Chars :=
  s.padNumber before ds (s.place.zeros && s.precision.isNone)

def Sized.unsigned (s : Sized) (n : Nat) : Chars :=
  let least := s.precision.getD 1
  match s.place.conversion with
  | 'o' =>
    let ds := digits 8 least n
    s.whole [] (if s.place.alternate && ds.head? ≠ some '0' then '0' :: ds else ds)
  | 'x' => s.whole (if s.place.alternate && n ≠ 0 then ['0', 'x'] else []) (digits 16 least n)
  | 'X' =>
    s.whole (if s.place.alternate && n ≠ 0 then ['0', 'X'] else []) (capitals (digits 16 least n))
  | _ => s.whole [] (digits 10 least n)

def Sized.real (s : Sized) (negative : Bool) (f : Fraction) : Chars :=
  let precision := s.precision.getD 6
  let point := s.place.alternate
  let text :=
    match s.place.conversion with
    | 'f' => fixed f precision point
    | 'F' => fixed f precision point
    | 'e' => withExponent f precision point
    | 'E' => capitals (withExponent f precision point)
    | 'g' => general f precision point
    | _ => capitals (general f precision point)
  s.padNumber (s.sign negative) text s.place.zeros

inductive Next where
  | more
  /-- An escape has ended everything. -/
  | ended
  /-- Something is wrong with the format itself. -/
  | broken
  deriving DecidableEq, Repr

def Part.print (part : Part) (p : Progress) : Chars × Next × Progress :=
  match part with
  | .char c => ([c], .more, p)
  | .unfinished =>
    ([], .broken, { p with complaints := "missing format character".toList :: p.complaints })
  | .place slot =>
    let (s, p) := p.settle slot
    let cut (text : Chars) : Chars := (s.precision.map text.take).getD text
    match slot.conversion with
    | 's' =>
      let (a, p) := p.take
      (s.pad (cut (a.getD [])), .more, p)
    | 'b' =>
      let (a, p) := p.take
      let (text, ended) := unescape ((a.getD []).length + 1) (a.getD [])
      (s.pad (cut text), if ended then .ended else .more, p)
    | 'c' =>
      let (a, p) := p.take
      (s.pad [((a.getD []).head?).getD '\x00'], .more, p)
    | c =>
      if c = 'd' ∨ c = 'i' then
        let (n, p) := p.number (-0x8000000000000000, 0x7FFFFFFFFFFFFFFF)
        (s.whole (s.sign (n < 0)) (digits 10 (s.precision.getD 1) n.natAbs), .more, p)
      else if ['o', 'u', 'x', 'X'].contains c then
        let (n, p) := p.number (-0xFFFFFFFFFFFFFFFF, 0xFFFFFFFFFFFFFFFF)
        (s.unsigned (n % 0x10000000000000000).toNat, .more, p)
      else if ['e', 'E', 'f', 'F', 'g', 'G'].contains c then
        let ((negative, f), p) := p.fraction
        (s.real negative f, .more, p)
      else ([], .broken, p.complain slot.source "invalid directive")

def printOnce : List Part → Progress → Chars × Next × Progress
  | [], p => ([], .more, p)
  | part :: rest, p =>
    match part.print p with
    | (text, .more, p) =>
      let (more, next, p) := printOnce rest p
      (text ++ more, next, p)
    | stopped => stopped

structure Printed where
  text : Chars
  complaints : List Chars
  isSound : Bool
  deriving DecidableEq, Repr

/-- Print by a format, again and again as long as it takes arguments and some are
left. -/
def printAll (ps : List Part) : Nat → Progress → Printed
  | 0, p => ⟨[], p.complaints.reverse, true⟩
  | n + 1, p =>
    let (text, next, after) := printOnce ps p
    if next = .more ∧ after.arguments ≠ [] ∧ after.arguments.length < p.arguments.length then
      let more := printAll ps n after
      { more with text := text ++ more.text }
    else ⟨text, after.complaints.reverse, next ≠ .broken⟩

def print (format : Chars) (arguments : List Chars) : Printed :=
  printAll (parts (format.length + 1) format) (arguments.length + 1) ⟨arguments, []⟩

end Format

end DasherTerminal.Shell
