import DasherTerminal.Shell.Pattern

/-!
# Fields

What the pieces of a word stand for is put together letter by letter, and then
falls apart into fields where values bring separators with them.
-/

namespace DasherTerminal.Shell

/-- A letter of what a word stands for. -/
inductive Glyph where
  | letter (char : Char) (quoted : Bool) (splits : Bool)
  /-- A field begins here. -/
  | border
  /-- Nothing, but quoted, so that there is a field. -/
  | nothing
  deriving DecidableEq, Repr

namespace Glyph

def ofChars (cs : Chars) (quoted splits : Bool) : List Glyph := cs.map (.letter · quoted splits)

/-- The letters as they stand in a pattern. Fields have a blank between them. -/
def toLetters (glyphs : List Glyph) : List Pattern.Letter :=
  glyphs.filterMap fun g =>
    match g with
    | .letter char quoted _ => some ⟨char, quoted⟩
    | .border => some ⟨' ', true⟩
    | .nothing => none

def toChars (glyphs : List Glyph) : Chars := (toLetters glyphs).map (·.char)

end Glyph

namespace Fields

/-- The separators that are taken if nothing else is said. -/
def usualSeparators : Chars := [' ', '\t', '\n']

/-- Where the splitting stands, between fields. -/
inductive Gap where
  /-- No separator has been met that ends a field. -/
  | start
  /-- Only blanks followed the last field. -/
  | blanks
  /-- A separator other than a blank followed it. -/
  | separator
  deriving DecidableEq, Repr

def isBlank (separators : Chars) (c : Char) : Bool :=
  separators.contains c && usualSeparators.contains c

/-- The fields of letters. A field that has begun comes first, its last character
first. Blanks around a separator belong to it. -/
def split (separators : Chars) : Option Chars → Gap → List Glyph → List Chars
  | field, _, [] => (field.map List.reverse).toList
  | field, _, .border :: rest => (field.map List.reverse).toList ++ split separators none .start rest
  | field, gap, .nothing :: rest => split separators (some (field.getD [])) gap rest
  | field, gap, .letter c _ splits :: rest =>
    if splits && separators.contains c then
      match field with
      | some cs =>
        cs.reverse :: split separators none (if isBlank separators c then .blanks else .separator)
          rest
      | none =>
        if isBlank separators c then split separators none gap rest
        else if gap = .blanks then split separators none .separator rest
        else [] :: split separators none .separator rest
    else split separators (some (c :: field.getD [])) gap rest

def ofGlyphs (separators : Chars) (glyphs : List Glyph) : List Chars :=
  split separators none .start glyphs

/-! ### Lines that are read -/

/-- A character of a line that was read. One after a backslash separates nothing. -/
structure LineChar where
  char : Char
  escaped : Bool
  deriving DecidableEq, Repr

def LineChar.separates (separators : Chars) (l : LineChar) : Bool :=
  !l.escaped && separators.contains l.char

def LineChar.isBlank (separators : Chars) (l : LineChar) : Bool :=
  !l.escaped && Fields.isBlank separators l.char

/-- The first field of a line, and what is left after its separator. -/
def firstField (separators : Chars) (line : List LineChar) : Chars × List LineChar :=
  let line := line.dropWhile (·.isBlank separators)
  let field := line.takeWhile (!·.separates separators)
  let rest := (line.drop field.length).dropWhile (·.isBlank separators)
  let rest :=
    match rest with
    | l :: more => if l.separates separators then more.dropWhile (·.isBlank separators) else rest
    | [] => []
  (field.map (·.char), rest)

/-- The last field of a line: all that is left, but not the separator after a
field that is the only one. -/
def lastField (separators : Chars) (line : List LineChar) : Chars :=
  let (field, rest) := firstField separators line
  if rest.isEmpty then field
  else
    let line := line.dropWhile (·.isBlank separators)
    ((line.reverse.dropWhile (·.isBlank separators)).reverse).map (·.char)

def ofLine (separators : Chars) : Nat → List LineChar → List Chars
  | 0, _ => []
  | 1, line => [lastField separators line]
  | n + 1, line =>
    let (field, rest) := firstField separators line
    field :: ofLine separators n rest

theorem length_ofLine (separators : Chars) (n : Nat) (line : List LineChar) :
    (ofLine separators n line).length = n := by
  fun_induction ofLine with
  | case1 => rfl
  | case2 => rfl
  | case3 n line _ field rest _ ih => simp [ih]

end Fields

end DasherTerminal.Shell
