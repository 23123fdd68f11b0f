import DasherTerminal.Fault
import DasherTerminal.Text.Blank
import DasherTerminal.Text.Decimal

/-!
# Screen sizes

Only the column and line counts that a DASHER display can be set to make a
size, so that every size in the program is a legal geometry.
-/

namespace DasherTerminal

structure ScreenSize where
  cols : Nat
  lines : Nat
  cols_mem : cols ∈ [80, 81, 120, 132, 135]
  lines_mem : lines ∈ [24, 25, 36, 48, 66]
  deriving DecidableEq, Repr

namespace ScreenSize

/-- The size with the given columns and lines; columns are checked first. -/
def make (cols lines : Nat) : Except Fault ScreenSize :=
  if hc : cols ∈ [80, 81, 120, 132, 135] then
    if hl : lines ∈ [24, 25, 36, 48, 66] then .ok ⟨cols, lines, hc, hl⟩
    else .error (.unsupportedLines lines)
  else .error (.unsupportedColumns cols)

def default : ScreenSize := ⟨80, 24, by decide, by decide⟩

instance : Inhabited ScreenSize := ⟨default⟩

def cells (size : ScreenSize) : Nat := size.cols * size.lines

def text (size : ScreenSize) : String := s!"{size.cols}x{size.lines}"

/-- Read columns and lines around the first cross, with blanks allowed around
each number. -/
def parse (text : String) : Except Fault ScreenSize :=
  let read? := do
    let (cols, lines) ← Text.splitFirst? (fun c => c == 'x' || c == 'X') (Text.trim text.toList)
    let cols ← Text.number? Text.wordLimit (Text.trim cols)
    let lines ← Text.number? Text.wordLimit (Text.trim lines)
    some (cols, lines)
  match read? with
  | some (cols, lines) => make cols lines
  | none => .error (.invalidSize text)

theorem cols_pos (size : ScreenSize) : 0 < size.cols := by
  have h := size.cols_mem
  simp at h
  omega

theorem lines_pos (size : ScreenSize) : 0 < size.lines := by
  have h := size.lines_mem
  simp at h
  omega

theorem le_cols (size : ScreenSize) : 80 ≤ size.cols := by
  have h := size.cols_mem
  simp at h
  omega

theorem le_lines (size : ScreenSize) : 24 ≤ size.lines := by
  have h := size.lines_mem
  simp at h
  omega

theorem one_lt_lines (size : ScreenSize) : 1 < size.lines := by
  have h := size.lines_mem
  simp at h
  omega

/-- Every column, counted from 1, is written as one byte. -/
theorem cols_lt (size : ScreenSize) : size.cols < 256 := by
  have h := size.cols_mem
  simp at h
  omega

/-- Every line, counted from 1, is written as one byte. -/
theorem lines_lt (size : ScreenSize) : size.lines < 256 := by
  have h := size.lines_mem
  simp at h
  omega

@[simp] theorem make_cols_lines (size : ScreenSize) : make size.cols size.lines = .ok size := by
  rw [make, dif_pos size.cols_mem, dif_pos size.lines_mem]

end ScreenSize

end DasherTerminal
