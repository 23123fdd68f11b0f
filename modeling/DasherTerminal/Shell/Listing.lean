import DasherTerminal.Shell.Syntax

/-!
# Listings

How a text is shown when files are joined: as it is, or with numbered lines, the
ends of lines marked, and control characters made visible.
-/

namespace DasherTerminal.Shell

structure Listing where
  numbers : Bool
  /-- Only lines that are not empty have numbers. -/
  numbersNonempty : Bool
  /-- Of several empty lines only one is shown. -/
  squeezed : Bool
  ends : Bool
  tabs : Bool
  visible : Bool
  deriving DecidableEq, Repr

namespace Listing

def plain : Listing := ⟨false, false, false, false, false, false⟩

def option? (l : Listing) (letter : Char) : Option Listing :=
  match letter with
  | 'n' => some { l with numbers := true }
  | 'b' => some { l with numbersNonempty := true }
  | 's' => some { l with squeezed := true }
  | 'E' => some { l with ends := true }
  | 'T' => some { l with tabs := true }
  | 'v' => some { l with visible := true }
  | 'e' => some { l with ends := true, visible := true }
  | 't' => some { l with tabs := true, visible := true }
  | 'A' => some { l with ends := true, tabs := true, visible := true }
  | 'u' => some l
  | _ => none

def longOption? (l : Listing) (name : String) : Option Listing :=
  match name with
  | "--number" => l.option? 'n'
  | "--number-nonblank" => l.option? 'b'
  | "--squeeze-blank" => l.option? 's'
  | "--show-ends" => l.option? 'E'
  | "--show-tabs" => l.option? 'T'
  | "--show-nonprinting" => l.option? 'v'
  | "--show-all" => l.option? 'A'
  | _ => none

structure Progress where
  /-- The next character begins a line. -/
  atStart : Bool
  /-- How many lines have numbers. -/
  numbered : Nat
  /-- How many empty lines come before. -/
  empties : Nat
  deriving DecidableEq, Repr

def Progress.start : Progress := ⟨true, 0, 0⟩

def shown (c : Char) : Chars :=
  let low (c : Char) : Chars :=
    if c < ' ' then ['^', Char.ofNat (c.toNat + 0x40)]
    else if c = '\x7f' then ['^', '?']
    else [c]
  if c.toNat < 0x80 then low c else 'M' :: '-' :: low (Char.ofNat (c.toNat - 0x80))

def inside (l : Listing) (c : Char) : Chars :=
  if c = '\t' then (if l.tabs then ['^', 'I'] else [c])
  else if l.visible then shown c
  else [c]

def lineNumber (n : Nat) : Chars :=
  let digits := (toString n).toList
  List.replicate (6 - digits.length) ' ' ++ digits ++ ['\t']

/-- List a text: what is shown, and where the listing stands after it. -/
def render (l : Listing) (p : Progress) : Chars → Chars × Progress
  | [] => ([], p)
  | '\n' :: cs =>
    let isEmpty := p.atStart
    if isEmpty && l.squeezed && 1 ≤ p.empties then render l { p with empties := p.empties + 1 } cs
    else
      let hasNumber := isEmpty && l.numbers && !l.numbersNonempty
      let numbered := if hasNumber then p.numbered + 1 else p.numbered
      let (text, q) := render l ⟨true, numbered, if isEmpty then p.empties + 1 else 0⟩ cs
      ((if hasNumber then lineNumber numbered else []) ++ (if l.ends then ['$'] else []) ++
        '\n' :: text, q)
  | c :: cs =>
    let hasNumber := p.atStart && (l.numbers || l.numbersNonempty)
    let numbered := if hasNumber then p.numbered + 1 else p.numbered
    let (text, q) := render l ⟨false, numbered, 0⟩ cs
    ((if hasNumber then lineNumber numbered else []) ++ l.inside c ++ text, q)

theorem render_plain (p : Progress) (cs : Chars) : (plain.render p cs).1 = cs := by
  induction cs generalizing p with
  | nil => rfl
  | cons c cs ih =>
    by_cases h : c = '\n'
    · subst h
      simp [render, plain] at ih ⊢
      exact ih _
    · simp [render, plain, inside] at ih ⊢
      exact ih _

end Listing

end DasherTerminal.Shell
