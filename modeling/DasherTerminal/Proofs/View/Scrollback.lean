import Mathlib.Data.List.Basic
import DasherTerminal.Session.Window

/-!
# Windows on the history

A window shows as many of the kept lines as fit, and it begins as far from the
last possible place as the view is scrolled up. A view can be scrolled up further
than a window can go. Pages do not suffer from that, but lines do: on the way back
the window stays where it is until the view is in reach again.
-/

namespace DasherTerminal

namespace View.Scrollback

inductive Move where
  | up (n : Nat)
  | down (n : Nat)
  | top
  | bottom

def move (v : Scrollback) : Move → Scrollback
  | .up n => v.scrollUp n
  | .down n => v.scrollDown n
  | .top => v.top
  | .bottom => v.bottom

/-- The lines from one position up to another, refused where there are none such. -/
def slice? (lines : List String) (start finish : Nat) : Option (List String) :=
  if start ≤ finish ∧ finish ≤ lines.length then some ((lines.take finish).drop start) else none

/-- The lines in a window, refused where a position would be below zero or outside
of the lines. -/
def visible? (v : Scrollback) (height : Nat) : Option (List String) :=
  let below := min v.offset (v.lines.length - height)
  if below ≤ v.lines.length then
    slice? v.lines (v.lines.length - below - height) (v.lines.length - below)
  else none

/-- The position of the first line in a window. -/
def start (v : Scrollback) (height : Nat) : Nat := v.lines.length - height - v.offset

/-- The window holds the line at this position. -/
def Shows (v : Scrollback) (height i : Nat) : Prop :=
  v.start height ≤ i ∧ i < v.start height + (v.visible height).length

instance (v : Scrollback) (height i : Nat) : Decidable (v.Shows height i) :=
  inferInstanceAs (Decidable (_ ∧ _))

variable (v : Scrollback) (height : Nat)

/-! ### What a window holds -/

theorem visible?_eq : v.visible? height = some (v.visible height) := by
  have hbelow : min v.offset (v.lines.length - height) ≤ v.lines.length := by omega
  have hslice : v.lines.length - min v.offset (v.lines.length - height) - height ≤
      v.lines.length - min v.offset (v.lines.length - height) ∧
      v.lines.length - min v.offset (v.lines.length - height) ≤ v.lines.length := by omega
  rw [visible?, if_pos hbelow, slice?, if_pos hslice, visible]

theorem visible_eq_take_drop :
    v.visible height = (v.lines.drop (v.start height)).take height := by
  have hstart : v.lines.length - min v.offset (v.lines.length - height) - height =
      v.start height := by
    rw [start]
    omega
  rw [visible, hstart, List.drop_take]
  -- Both cut lines behind the window, if there are any.
  apply List.take_eq_take_iff.mpr
  rw [List.length_drop, start]
  omega

theorem length_visible : (v.visible height).length = min height v.lines.length := by
  rw [visible_eq_take_drop, List.length_take, List.length_drop, start]
  omega

theorem shows_iff (i : Nat) :
    v.Shows height i ↔ v.start height ≤ i ∧ i < v.start height + min height v.lines.length := by
  rw [Shows, length_visible]

/-! ### Moves -/

@[simp] theorem lines_move (m : Move) : (v.move m).lines = v.lines := by
  cases m <;> rfl

@[simp] theorem lines_foldl_move (moves : List Move) : (moves.foldl move v).lines = v.lines := by
  induction moves generalizing v with
  | nil => rfl
  | cons m moves ih => rw [List.foldl_cons, ih, lines_move]

/-- One page after another from the newest lines on. -/
def page : Nat → Scrollback
  | 0 => v.bottom
  | k + 1 => (page k).scrollUp height

@[simp] theorem lines_page (k : Nat) : (v.page height k).lines = v.lines := by
  induction k with
  | zero => rfl
  | succ k ih => exact ih

theorem offset_page (k : Nat) : (v.page height k).offset = min (k * height) v.maxOffset := by
  induction k with
  | zero => simp [page, bottom]
  | succ k ih =>
      have hmax : (v.page height k).maxOffset = v.maxOffset := by
        rw [maxOffset, lines_page, maxOffset]
      rw [page, scrollUp, hmax, ih, Nat.succ_mul]
      dsimp only
      omega

variable {height}

/-- A view is stopped where its oldest line would be the only one in the window,
which is never before the window has reached that line. -/
theorem start_page (hheight : 0 < height) (k : Nat) :
    (v.page height k).start height = v.lines.length - height - k * height := by
  rw [start, lines_page, offset_page, maxOffset]
  omega

variable {v} {i : Nat}

theorem exists_page_shows (hheight : 0 < height) (hi : i < v.lines.length) :
    ∃ k, (v.page height k).Shows height i := by
  refine ⟨(v.lines.length - 1 - i) / height, ?_⟩
  have hpages := Nat.div_add_mod (v.lines.length - 1 - i) height
  have hrest := Nat.mod_lt (v.lines.length - 1 - i) hheight
  rw [Nat.mul_comm] at hpages
  rw [shows_iff, start_page v hheight, lines_page]
  omega

end View.Scrollback

/-- The move of a view that a key asks for, with so many lines to a page. -/
def HistoryMove.scroll (page : Nat) : HistoryMove → View.Scrollback.Move
  | .up n => .up n
  | .down n => .down n
  | .pageUp => .up page
  | .pageDown => .down page
  | .top => .top
  | .bottom => .bottom

theorem Window.moveHistory_eq (w : Window) (m : HistoryMove) :
    w.moveHistory m = { w with history := w.history.map (·.move (m.scroll w.historyPage)) } := by
  cases m <;> rfl

namespace View.Scrollback

/-- Wherever a view was moved, by keys or otherwise, its window finds all positions
that it needs and shows as many kept lines as fit, one after another. Page by page
from the newest line, a window ends where the one before began or further down, and
at last it begins with the oldest line; so every kept line comes into sight. -/
theorem pages_show_all (lines : List String) (moves : List Move) (height : Nat) :
    let kept := lines.filter isKept
    let v := moves.foldl move (ofLines lines)
    v.visible? height = some (v.visible height) ∧
      v.visible height = (kept.drop (v.start height)).take height ∧
      (v.visible height).length = min height kept.length ∧
      (0 < height →
        (∀ k,
          let before := v.page height k
          let after := v.page height (k + 1)
          before.visible height = (kept.drop (before.start height)).take height ∧
            after.start height ≤ before.start height ∧
            before.start height ≤ after.start height + (after.visible height).length) ∧
        (∃ n, ∀ k, n ≤ k → (v.page height k).start height = 0) ∧
        ∀ i < kept.length, ∃ k, (v.page height k).Shows height i) ∧
      ∀ w : Window, w.history = some v → ∀ m,
        (w.moveHistory m).history = some ((moves ++ [m.scroll w.historyPage]).foldl move
          (ofLines lines)) := by
  intro kept v
  have hlines : v.lines = kept := lines_foldl_move (ofLines lines) moves
  refine ⟨v.visible?_eq height, ?_, ?_, ?_, ?_⟩
  · rw [← hlines]
    exact v.visible_eq_take_drop height
  · rw [← hlines]
    exact v.length_visible height
  · intro hheight
    rw [← hlines]
    refine ⟨?_, ?_, ?_⟩
    · intro k before after
      have hbefore : before.start height = v.lines.length - height - k * height :=
        start_page v hheight k
      have hafter : after.start height = v.lines.length - height - (k * height + height) := by
        rw [← Nat.succ_mul]
        exact start_page v hheight (k + 1)
      have hlength : (after.visible height).length = min height v.lines.length := by
        rw [length_visible, lines_page]
      refine ⟨?_, ?_, ?_⟩
      · rw [visible_eq_take_drop, lines_page]
      · omega
      · omega
    · refine ⟨v.lines.length, ?_⟩
      intro k hk
      have hfar : k ≤ k * height := Nat.le_mul_of_pos_right k hheight
      rw [start_page v hheight]
      omega
    · intro i hi
      exact exists_page_shows hheight hi
  · intro w hw m
    rw [Window.moveHistory_eq, hw, List.foldl_append]
    rfl

/-! ### Single lines -/

/-- How many lines a view is scrolled up further than its window can go. -/
def excess (v : Scrollback) (height : Nat) : Nat := v.offset - (v.lines.length - height)

theorem offset_move_le (v : Scrollback) (m : Move) (h : v.offset ≤ v.maxOffset) :
    (v.move m).offset ≤ (v.move m).maxOffset := by
  cases m with
  | up n => exact Nat.min_le_right _ _
  | down n => exact Nat.le_trans (Nat.sub_le v.offset n) h
  | top => exact Nat.le_refl _
  | bottom => exact Nat.zero_le _

theorem offset_foldl_move_le (v : Scrollback) (moves : List Move) (h : v.offset ≤ v.maxOffset) :
    (moves.foldl move v).offset ≤ (moves.foldl move v).maxOffset := by
  induction moves generalizing v with
  | nil => exact h
  | cons m moves ih => exact ih (v.move m) (v.offset_move_le m h)

theorem foldl_down (v : Scrollback) (n : Nat) :
    (List.replicate n (Move.down 1)).foldl move v = v.scrollDown n := by
  induction n generalizing v with
  | zero => rfl
  | succ n ih =>
      rw [List.replicate_succ, List.foldl_cons, ih, move, scrollDown, scrollDown, scrollDown,
        Nat.sub_sub, Nat.add_comm]

/-- On the way down the first moves only use up the excess. -/
theorem start_scrollDown (v : Scrollback) (height n : Nat) :
    (v.scrollDown n).start height =
      min (v.start height + (n - v.excess height)) (v.lines.length - height) := by
  rw [start, start, excess, scrollDown]
  dsimp only
  omega

theorem start_scrollUp {v : Scrollback} {height : Nat} (hheight : 0 < height)
    (h : 0 < v.start height) : (v.scrollUp 1).start height + 1 = v.start height := by
  rw [start] at h
  rw [start, start, scrollUp, maxOffset]
  dsimp only
  omega

/-- Wherever a view was moved, one line up moves its window by one line as long as
that does not hold the oldest line. One line down does the same above the newest
line only if the view has no excess: the window stays as it is for so many lines
down, less than its height, and moves by one with each after that. -/
theorem line_moves_iff (lines : List String) (moves : List Move) (height : Nat) :
    let v := moves.foldl move (ofLines lines)
    (0 < height → v.lines ≠ [] →
        (¬v.Shows height 0 → (v.scrollUp 1).start height + 1 = v.start height) ∧
        (¬v.Shows height (v.lines.length - 1) →
          ((v.scrollDown 1).start height = v.start height + 1 ↔ v.excess height = 0)) ∧
        v.excess height < height) ∧
      ∀ n,
        let w := (List.replicate n (Move.down 1)).foldl move v
        w.start height = min (v.start height + (n - v.excess height)) (v.lines.length - height) ∧
          (n ≤ v.excess height → w.visible height = v.visible height) := by
  intro v
  have hoffset : v.offset ≤ v.maxOffset :=
    offset_foldl_move_le (ofLines lines) moves (Nat.zero_le _)
  rw [maxOffset] at hoffset
  constructor
  · intro hheight hkept
    have hlength : 0 < v.lines.length := List.length_pos_iff.mpr hkept
    have hstart : v.start height = v.lines.length - height - v.offset := rfl
    have hexcess : v.excess height = v.offset - (v.lines.length - height) := rfl
    refine ⟨?_, ?_, ?_⟩
    · intro holdest
      rw [shows_iff] at holdest
      exact start_scrollUp hheight (by omega)
    · intro hnewest
      rw [shows_iff] at hnewest
      rw [start_scrollDown]
      omega
    · omega
  · intro n w
    have hw : w = v.scrollDown n := v.foldl_down n
    have hstart := v.start_scrollDown height n
    rw [hw]
    refine ⟨hstart, ?_⟩
    intro hn
    have hsame : (v.scrollDown n).start height = v.start height := by
      have hreach : v.start height ≤ v.lines.length - height := Nat.sub_le _ _
      omega
    rw [visible_eq_take_drop, hsame]
    exact (v.visible_eq_take_drop height).symm

/-- From the top, with a window of two lines, the first line down has no effect. -/
theorem line_down_stays :
    let v := [Move.top].foldl move (ofLines ["a", "b", "c"])
    ¬v.Shows 2 2 ∧ v.visible 2 = ["a", "b"] ∧ v.excess 2 = 1 ∧
      (v.scrollDown 1).start 2 = v.start 2 ∧ (v.scrollDown 1).visible 2 = ["a", "b"] := by
  decide +kernel

end View.Scrollback

end DasherTerminal
