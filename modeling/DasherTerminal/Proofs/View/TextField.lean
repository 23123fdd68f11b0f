import DasherTerminal.Proofs.Text.Utf8
import DasherTerminal.View.TextField

/-!
# Editing at a cursor

A field is the text before its cursor and the text after it, and every edit works
at the seam between the two. The byte that an edit is made at is therefore always
one where a character begins or the text ends.
-/

namespace DasherTerminal.View.TextField

inductive Edit where
  | insert (c : Char)
  | backspace
  | left
  | right

def perform (f : TextField) : Edit → TextField
  | .insert c => f.insert c
  | .backspace => f.backspace
  | .left => f.left
  | .right => f.right

/-- Perform an edit that is refused at a byte inside a character. -/
def perform? (f : TextField) : Edit → Option TextField
  | .insert c => f.insert? c
  | .backspace => f.backspace?
  | .left => some f.left
  | .right => some f.right

/-- The text before the cursor and the text after it. -/
structure Halves where
  before : List Char
  after : List Char

namespace Halves

/-- All of a text before the cursor. -/
def ofText (text : List Char) : Halves := ⟨text, []⟩

def perform (p : Halves) : Edit → Halves
  | .insert c => ⟨p.before ++ [c], p.after⟩
  | .backspace => ⟨p.before.dropLast, p.after⟩
  | .left => ⟨p.before.dropLast, p.before.getLast?.toList ++ p.after⟩
  | .right => ⟨p.before ++ p.after.head?.toList, p.after.tail⟩

def join (p : Halves) : TextField := ⟨p.before ++ p.after, p.before.length⟩

variable (p : Halves)

theorem cursorByte_join : p.join.cursorByte = (p.before.map Char.utf8Size).sum :=
  Text.byteIndex_append_length p.before p.after

theorem insert?_join (c : Char) : p.join.insert? c = some (p.perform (.insert c)).join := by
  rw [insert?, cursorByte_join, join, Text.insertAtByte?, Text.splitAtByte?_sum]
  simp [perform, join]

/-- With text before the cursor, the byte before is that of its last character. -/
theorem previousByte_join_concat (before after : List Char) (c : Char) :
    (join ⟨before ++ [c], after⟩).previousByte = (before.map Char.utf8Size).sum := by
  have hlength : (before ++ [c]).length - 1 = before.length := by simp
  rw [previousByte, join, hlength, List.append_assoc]
  exact Text.byteIndex_append_length before ([c] ++ after)

theorem backspace?_join : p.join.backspace? = some (p.perform .backspace).join := by
  obtain ⟨before, after⟩ := p
  rcases List.eq_nil_or_concat' before with rfl | ⟨before, c, rfl⟩
  · rfl
  have hcursor : (join ⟨before ++ [c], after⟩).cursor ≠ 0 := by simp [join]
  rw [backspace?, if_neg hcursor, previousByte_join_concat, join, Text.removeAtByte?,
    List.append_assoc, Text.splitAtByte?_sum]
  simp [perform, join]

theorem left_join : p.join.left = (p.perform .left).join := by
  obtain ⟨before, after⟩ := p
  rcases List.eq_nil_or_concat' before with rfl | ⟨before, c, rfl⟩
  · rfl
  · simp [TextField.left, perform, join]

theorem right_join : p.join.right = (p.perform .right).join := by
  obtain ⟨before, after⟩ := p
  cases after with
  | nil => simp [TextField.right, perform, join]
  | cons c after => simp [TextField.right, perform, join]

/-- Every edit is one of the halves, and finds a character or the end of the text
at its byte. -/
theorem perform?_join (e : Edit) : p.join.perform? e = some (p.perform e).join := by
  cases e with
  | insert c => exact p.insert?_join c
  | backspace => exact p.backspace?_join
  | left => exact congrArg some p.left_join
  | right => exact congrArg some p.right_join

theorem isValid_cursorByte_join :
    (⟨p.join.cursorByte⟩ : String.Pos.Raw).IsValid p.join.toString := by
  apply Text.isSome_splitAtByte?_iff.mp
  rw [cursorByte_join, join, Text.splitAtByte?_sum]
  rfl

theorem isValid_previousByte_join (h : 0 < p.join.cursor) :
    (⟨p.join.previousByte⟩ : String.Pos.Raw).IsValid p.join.toString ∧
      p.join.previousByte < p.join.toString.utf8ByteSize := by
  obtain ⟨before, after⟩ := p
  rcases List.eq_nil_or_concat' before with rfl | ⟨before, c, rfl⟩
  · exact absurd h (Nat.lt_irrefl 0)
  rw [previousByte_join_concat]
  constructor
  · apply Text.isSome_splitAtByte?_iff.mp
    rw [join, List.append_assoc, Text.splitAtByte?_sum]
    rfl
  · have hpos := c.utf8Size_pos
    rw [toString, join, Text.utf8ByteSize_ofList_eq_sum]
    simp only [List.map_append, List.sum_append, List.map_cons, List.sum_cons]
    omega

end Halves

theorem perform_of_perform? {f f' : TextField} {e : Edit} (h : f.perform? e = some f') :
    f.perform e = f' := by
  cases e with
  | insert c => exact congrArg (·.getD f) h
  | backspace => exact congrArg (·.getD f) h
  | left => exact Option.some.inj h
  | right => exact Option.some.inj h

/-- A run of edits, refused or not, is the run of the halves. -/
theorem run_join (edits : List Edit) (p : Halves) :
    edits.foldlM perform? p.join = some (edits.foldl Halves.perform p).join ∧
      edits.foldl perform p.join = (edits.foldl Halves.perform p).join := by
  -- The halves are the state of the run: after each edit the field is joined of them.
  induction edits generalizing p with
  | nil => exact ⟨rfl, rfl⟩
  | cons e edits ih =>
    have hstep := p.perform?_join e
    rw [List.foldlM_cons, hstep, List.foldl_cons, List.foldl_cons, perform_of_perform? hstep]
    exact ih (p.perform e)

theorem join_ofText (text : String) : (Halves.ofText text.toList).join = ofString text := by
  rw [Halves.ofText, Halves.join, List.append_nil]
  rfl

/-- Whatever text a field starts with and however it is edited, it is the text
before the cursor and the text after it, and no edit is refused: the bytes of its
cursor and of the character before lie on the boundaries of characters. -/
theorem run_eq_halves (text : String) (edits : List Edit) :
    let f := edits.foldl perform (ofString text)
    let p := edits.foldl Halves.perform (.ofText text.toList)
    edits.foldlM perform? (ofString text) = some f ∧
      f.text = p.before ++ p.after ∧ f.cursor = p.before.length ∧ f.cursor ≤ f.text.length ∧
      (⟨f.cursorByte⟩ : String.Pos.Raw).IsValid f.toString ∧
      (0 < f.cursor → (⟨f.previousByte⟩ : String.Pos.Raw).IsValid f.toString ∧
        f.previousByte < f.toString.utf8ByteSize) := by
  intro f p
  obtain ⟨hstrict, hrun⟩ := run_join edits (.ofText text.toList)
  rw [join_ofText] at hstrict hrun
  have hf : f = p.join := hrun
  rw [hf]
  refine ⟨hstrict, rfl, rfl, ?_, p.isValid_cursorByte_join, p.isValid_previousByte_join⟩
  rw [Halves.join, List.length_append]
  exact Nat.le_add_right _ _

/-- Characters of one to four bytes, edited in the middle and at both ends. -/
example : [Edit.left, .left, .backspace, .insert '日', .right, .right, .right, .insert '!'].foldl
    perform (ofString "aé😀z") = ⟨['a', '日', '😀', 'z', '!'], 5⟩ := by
  decide

end DasherTerminal.View.TextField
