/-!
# Wrapping

How a text of printable codes and line feeds falls into rows of a given width:
a row that is full is followed by a new one at once, and a line feed begins a
new row. Apart from the line feeds the rows hold the whole text in order.
-/

namespace DasherTerminal.Wrapping

/-- The rows of a text, when its first row already holds some codes. -/
def rowsFrom (width : Nat) (row : List UInt8) : List UInt8 → List (List UInt8)
  | [] => [row]
  | b :: text =>
    if b = 0o12 then row :: rowsFrom width [] text
    else if row.length + 1 < width then rowsFrom width (row ++ [b]) text
    else (row ++ [b]) :: rowsFrom width [] text

def rows (width : Nat) (text : List UInt8) : List (List UInt8) := rowsFrom width [] text

theorem flatten_rowsFrom (width : Nat) (row text : List UInt8) :
    (rowsFrom width row text).flatten = row ++ text.filter (· ≠ 0o12) := by
  induction text generalizing row with
  | nil => simp [rowsFrom]
  | cons b text ih =>
    by_cases hb : b = 0o12
    · simp [rowsFrom, hb, ih]
    · by_cases hw : row.length + 1 < width <;> simp [rowsFrom, hb, hw, ih]

theorem length_le_of_mem_rowsFrom {width : Nat} {row text r : List UInt8} (hw : 0 < width)
    (hrow : row.length < width) (h : r ∈ rowsFrom width row text) : r.length ≤ width := by
  induction text generalizing row with
  | nil =>
    simp only [rowsFrom, List.mem_singleton] at h
    subst h
    omega
  | cons b text ih =>
    simp only [rowsFrom] at h
    split at h
    · rcases List.mem_cons.1 h with rfl | h
      · omega
      · exact ih (by simpa using hw) h
    · split at h
      · exact ih (by simpa using ‹_›) h
      · rcases List.mem_cons.1 h with rfl | h
        · simp
          omega
        · exact ih (by simpa using hw) h

end DasherTerminal.Wrapping
