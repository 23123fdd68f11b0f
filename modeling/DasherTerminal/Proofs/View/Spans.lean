import Mathlib.Data.List.Chain
import DasherTerminal.View.Crt

/-!
# The spans of a row

A row is read cell by cell, and a span ends where the look changes or the row
does. Read out again the spans are the cells of the row, and they are the only
spans that are without gaps and as long as they can be.
-/

namespace DasherTerminal.View

theorem expand_cons (s : Span) (line : Line) :
    expand (s :: line) = s.text.map (·, s.style) ++ expand line :=
  List.flatMap_cons

/-- No span is empty, and neighbours differ in their look. -/
structure Grouped (line : Line) : Prop where
  text_ne_nil : ∀ s ∈ line, s.text ≠ []
  style_ne : line.IsChain fun s t => s.style ≠ t.style

theorem grouped_nil : Grouped [] := ⟨fun _ h => (nomatch h), .nil⟩

/-- Whether a span goes on behind a line depends on its look, and not on its text. -/
theorem Grouped.retext {line : Line} {text text' : List Char} {style : Style}
    (h : Grouped (line ++ [⟨text, style⟩])) (htext : text' ≠ []) :
    Grouped (line ++ [⟨text', style⟩]) := by
  obtain ⟨hline, -, hseam⟩ := List.isChain_append.mp h.style_ne
  obtain ⟨htexts, -⟩ := List.forall_mem_append.mp h.text_ne_nil
  constructor
  · exact List.forall_mem_append.mpr ⟨htexts, List.forall_mem_singleton.mpr htext⟩
  · refine List.isChain_append.mpr ⟨hline, .singleton _, ?_⟩
    intro s hs t ht
    obtain rfl := Option.some.inj ht
    exact hseam s hs ⟨text, style⟩ rfl

theorem Grouped.concat {line : Line} {s t : Span} (h : Grouped (line ++ [s]))
    (hstyle : s.style ≠ t.style) (htext : t.text ≠ []) : Grouped (line ++ [s] ++ [t]) := by
  constructor
  · exact List.forall_mem_append.mpr ⟨h.text_ne_nil, List.forall_mem_singleton.mpr htext⟩
  · refine List.isChain_append.mpr ⟨h.style_ne, .singleton _, ?_⟩
    intro u hu v hv
    rw [List.getLast?_concat] at hu
    obtain rfl := Option.some.inj hu
    obtain rfl := Option.some.inj hv
    exact hstyle

theorem Grouped.tail {s : Span} {line : Line} (h : Grouped (s :: line)) : Grouped line :=
  ⟨fun t ht => h.text_ne_nil t (List.mem_cons_of_mem s ht), h.style_ne.tail⟩

/-! ### Reading a row -/

namespace Grouping

variable {finished : Line} {text : List Char} {current style : Style}

theorem push_of_same (c : Char) :
    push ⟨finished, text, some style⟩ c style = ⟨finished, text ++ [c], some style⟩ := by
  simp [push, turnTo]

theorem push_of_ne (c : Char) (hne : current ≠ style) :
    push ⟨finished, text, some current⟩ c style =
      ⟨finished ++ [⟨text, current⟩], [c], some style⟩ := by
  simp [push, turnTo, hne]

/-- What has been read of a row so far. -/
structure Holds (g : Grouping) (row : List (Char × Style)) : Prop where
  expand_spans : expand g.spans = row
  grouped : Grouped g.spans
  /-- Only at the start of a row is no span being made. -/
  begun : g.style = none → g = .empty

theorem holds_empty : empty.Holds [] := ⟨rfl, grouped_nil, fun _ => rfl⟩

variable {g : Grouping} {row : List (Char × Style)}

theorem Holds.step (h : g.Holds row) (c : Char) (style : Style) :
    (g.push c style).Holds (row ++ [(c, style)]) := by
  obtain ⟨finished, text, current⟩ := g
  obtain ⟨rfl, hgrouped, hbegun⟩ := h
  cases current with
  | none =>
    cases hbegun rfl
    refine ⟨rfl, ⟨?_, .singleton _⟩, fun hnone => (nomatch hnone)⟩
    exact List.forall_mem_singleton.mpr (List.cons_ne_nil _ _)
  | some current =>
    by_cases hsame : current = style
    · subst hsame
      rw [push_of_same]
      refine ⟨?_, hgrouped.retext (by simp), fun hnone => (nomatch hnone)⟩
      simp [spans, expand]
    · rw [push_of_ne c hsame]
      refine ⟨?_, hgrouped.concat hsame (List.cons_ne_nil _ _), fun hnone => (nomatch hnone)⟩
      simp [spans, expand]

theorem Holds.foldl (h : g.Holds row) (hides : Bool) (cells : List Cell) :
    (cells.foldl (fun g cell => g.push (visibleChar hides cell) (cellStyle cell)) g).Holds
      (row ++ cells.map fun cell => (visibleChar hides cell, cellStyle cell)) := by
  induction cells generalizing g row with
  | nil =>
    rw [List.map_nil, List.append_nil]
    exact h
  | cons cell cells ih =>
    rw [List.foldl_cons, List.map_cons, List.append_cons]
    apply ih
    exact h.step _ _

end Grouping

theorem holds_row (hides : Bool) (cells : List Cell) :
    (cells.foldl (fun g cell => g.push (visibleChar hides cell) (cellStyle cell))
      Grouping.empty).Holds
      (cells.map fun cell => (visibleChar hides cell, cellStyle cell)) :=
  Grouping.holds_empty.foldl hides cells

theorem expand_rowSpans (hides : Bool) (cells : List Cell) :
    expand (rowSpans hides cells) =
      cells.map fun cell => (visibleChar hides cell, cellStyle cell) :=
  (holds_row hides cells).expand_spans

theorem grouped_rowSpans (hides : Bool) (cells : List Cell) : Grouped (rowSpans hides cells) :=
  (holds_row hides cells).grouped

/-! ### One way to group -/

/-- The first span of a grouped line is all that is of its look at the start. -/
theorem Grouped.takeWhile_expand {s : Span} {line : Line} (h : Grouped (s :: line)) :
    (expand (s :: line)).takeWhile (·.2 = s.style) = s.text.map (·, s.style) := by
  have hsame : ∀ p ∈ s.text.map (·, s.style), decide (p.2 = s.style) = true := by
    intro p hp
    obtain ⟨c, -, rfl⟩ := List.mem_map.mp hp
    exact decide_eq_true rfl
  have hrest : (expand line).takeWhile (·.2 = s.style) = [] := by
    cases line with
    | nil => rfl
    | cons t line =>
      obtain ⟨c, text, htext⟩ := List.exists_cons_of_ne_nil
        (h.text_ne_nil t (List.mem_cons_of_mem s List.mem_cons_self))
      have hne : s.style ≠ t.style := (List.isChain_cons_cons.mp h.style_ne).1
      rw [expand_cons, htext, List.map_cons, List.cons_append]
      exact List.takeWhile_cons_of_neg (by simpa using hne.symm)
  rw [expand_cons, List.takeWhile_append_of_pos hsame, hrest, List.append_nil]

theorem Grouped.eq_of_expand_eq {line line' : Line} (h : Grouped line) (h' : Grouped line')
    (heq : expand line = expand line') : line = line' := by
  induction line generalizing line' with
  | nil =>
    cases line' with
    | nil => rfl
    | cons t line' =>
      have htext := h'.text_ne_nil t List.mem_cons_self
      simp [expand, htext] at heq
  | cons s line ih =>
    obtain ⟨c, text, htext⟩ := List.exists_cons_of_ne_nil (h.text_ne_nil s List.mem_cons_self)
    cases line' with
    | nil => simp [expand, htext] at heq
    | cons t line' =>
      obtain ⟨c', text', htext'⟩ :=
        List.exists_cons_of_ne_nil (h'.text_ne_nil t List.mem_cons_self)
      have hstyle : s.style = t.style := by
        have hhead := congrArg List.head? heq
        rw [expand_cons, expand_cons, htext, htext'] at hhead
        exact congrArg Prod.snd (Option.some.inj hhead)
      have hchars : s.text = t.text := by
        have htake := congrArg (List.takeWhile (·.2 = s.style)) heq
        rw [h.takeWhile_expand, hstyle, h'.takeWhile_expand] at htake
        exact (List.map_injective_iff.mpr fun _ _ h => (Prod.mk.inj h).1) htake
      have hspan : s = t := by
        cases s
        cases t
        cases hstyle
        cases hchars
        rfl
      subst hspan
      rw [expand_cons, expand_cons] at heq
      rw [ih h.tail h'.tail (List.append_cancel_left heq)]

/-- The spans of a row, read out character by character, are its cells in order,
each as it is seen and in its look. None of them is empty and neighbours differ in
their look, and no other spans are like that. -/
theorem rowSpans_lossless (hides : Bool) (cells : List Cell) :
    let row := cells.map fun cell => (visibleChar hides cell, cellStyle cell)
    let line := rowSpans hides cells
    (line.flatMap fun s => s.text.map fun c => (c, s.style)) = row ∧
      (∀ s ∈ line, s.text ≠ []) ∧
      line.IsChain (fun s t => s.style ≠ t.style) ∧
      ∀ line' : Line, (line'.flatMap fun s => s.text.map fun c => (c, s.style)) = row →
        (∀ s ∈ line', s.text ≠ []) → line'.IsChain (fun s t => s.style ≠ t.style) →
        line' = line := by
  intro row line
  have hexpand : expand line = row := expand_rowSpans hides cells
  have hgrouped : Grouped line := grouped_rowSpans hides cells
  refine ⟨hexpand, hgrouped.text_ne_nil, hgrouped.style_ne, ?_⟩
  intro line' hexpand' htext hstyle
  have hgrouped' : Grouped line' := ⟨htext, hstyle⟩
  apply hgrouped'.eq_of_expand_eq hgrouped
  exact hexpand'.trans hexpand.symm

/-- A look that changes at the first cell and at the last one. -/
example :
    rowSpans false [⟨0x41, { Attributes.plain with dim := true }⟩, ⟨0x42, .plain⟩, ⟨0x43, .plain⟩,
      ⟨0x44, { Attributes.plain with reverse := true }⟩] =
      [⟨['A'], (Style.colors phosphor .reset).dim⟩, ⟨['B', 'C'], .colors phosphor .reset⟩,
        ⟨['D'], reverseStyle⟩] := by
  decide

end DasherTerminal.View
