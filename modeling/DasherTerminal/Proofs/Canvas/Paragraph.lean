import Mathlib.Algebra.Ring.Nat
import DasherTerminal.Canvas.Paragraph
import DasherTerminal.Proofs.Screen.Grid

/-!
# Where paragraphs put their clusters

The clusters of a line stand side by side, each in as many columns as it is wide,
and a paragraph puts the clusters of every line at these columns and touches
nothing else. A position is seen as it was drawn if no glyph to its left reaches
over it.
-/

namespace DasherTerminal

namespace Grid

variable {α : Type} {g : Grid α} {x y i j : Nat} {f : α → α}

theorem get?_modify : (g.modify x y f).get? i j =
    if i = x ∧ j = y then (g.get? i j).map f else g.get? i j := by
  by_cases hj : j = y
  · subst hj
    cases hrow : g.rows[j]? with
    | none => simp [modify, get?, Array.getElem?_modify, hrow]
    | some row =>
      by_cases hi : i = x
      · subst hi
        simp [modify, get?, Array.getElem?_modify, hrow]
      · simp [modify, get?, Array.getElem?_modify, hrow, hi, Ne.symm hi]
  · simp [modify, get?, Array.getElem?_modify, hj, Ne.symm hj]

end Grid

namespace Glyph

/-- What stands at a position once a cluster has been put there, if one has. -/
def overlay (g : Glyph) : Option (List Char × Style) → Glyph
  | none => g
  | some (symbol, style) => g.write symbol style

@[simp] theorem overlay_none (g : Glyph) : g.overlay none = g := rfl

end Glyph

namespace Line

variable {room x : Nat} {clusters before after : List (List Char × Style)}
  {placed : List (Nat × List Char × Style)}

def columns (clusters : List (List Char × Style)) : Nat :=
  (clusters.map fun cluster => Text.clusterWidth cluster.1).sum

@[simp] theorem columns_nil : columns [] = 0 := rfl

@[simp] theorem columns_cons (cluster : List Char × Style) (clusters : List (List Char × Style)) :
    columns (cluster :: clusters) = Text.clusterWidth cluster.1 + columns clusters :=
  List.sum_cons

@[simp] theorem columns_append (before after : List (List Char × Style)) :
    columns (before ++ after) = columns before + columns after := by
  simp [columns]

theorem place_cons_of_le {symbol : List Char} (h : x + Text.clusterWidth symbol ≤ room)
    (style : Style) : place room x ((symbol, style) :: after) =
      (if Text.clusterWidth symbol = 0 then [] else [(x, symbol, style)]) ++
        place room (x + Text.clusterWidth symbol) after := by
  rw [place, if_neg (by omega), if_neg (by omega)]
  by_cases hzero : Text.clusterWidth symbol = 0
  · simp [hzero]
  · simp [hzero]

/-- Where clusters fit, those behind them follow at once. -/
theorem place_append (h : x + columns before ≤ room) :
    place room x (before ++ after) =
      place room x before ++ place room (x + columns before) after := by
  induction before generalizing x with
  | nil => rfl
  | cons cluster before ih =>
    obtain ⟨symbol, style⟩ := cluster
    rw [columns_cons, ← Nat.add_assoc] at h
    have hfits : x + Text.clusterWidth symbol ≤ room := Nat.le_trans (Nat.le_add_right _ _) h
    rw [List.cons_append, place_cons_of_le hfits, place_cons_of_le hfits, ih h, columns_cons,
      List.append_assoc, Nat.add_assoc]

/-- A cluster stands behind those before it, if it fits there. -/
theorem mem_place {symbol : List Char} {style : Style} (hpos : 0 < Text.clusterWidth symbol)
    (hfits : x + columns before + Text.clusterWidth symbol ≤ room) :
    (x + columns before, symbol, style) ∈ place room x (before ++ (symbol, style) :: after) := by
  rw [place_append (Nat.le_trans (Nat.le_add_right _ _) hfits), place_cons_of_le hfits,
    if_neg (Nat.ne_of_gt hpos)]
  simp

/-- A cluster stands between two columns. -/
structure Within (left right : Nat) (p : Nat × List Char × Style) : Prop where
  le : left ≤ p.1
  pos : 0 < Text.clusterWidth p.2.1
  fits : p.1 + Text.clusterWidth p.2.1 ≤ right

theorem within_of_mem {p : Nat × List Char × Style} (h : p ∈ place room x clusters) :
    Within x room p := by
  fun_induction place room x clusters with
  | case1 => cases h
  | case2 x symbol style rest w hwide ih => exact ih h
  | case3 => cases h
  | case4 x symbol style rest w hroom hfits hzero ih => exact ih h
  | case5 x symbol style rest w hroom hfits hpos ih =>
    rcases List.mem_cons.mp h with rfl | h
    · exact ⟨Nat.le_refl x, Nat.pos_of_ne_zero hpos, Nat.le_of_not_lt hfits⟩
    · have hrest := ih h
      exact ⟨Nat.le_trans (Nat.le_add_right x w) hrest.le, hrest.pos, hrest.fits⟩

theorem pairwise_place (room x : Nat) (clusters : List (List Char × Style)) :
    (place room x clusters).Pairwise fun p q =>
      p.1 < q.1 ∧ p.1 + Text.clusterWidth p.2.1 ≤ q.1 := by
  fun_induction place room x clusters with
  | case1 => exact .nil
  | case2 x symbol style rest w hwide ih => exact ih
  | case3 => exact .nil
  | case4 x symbol style rest w hroom hfits hzero ih => exact ih
  | case5 x symbol style rest w hroom hfits hpos ih =>
    refine .cons (fun p hp => ?_) ih
    have hle : x + w ≤ p.1 := (within_of_mem hp).le
    exact ⟨by omega, hle⟩

/-- Of two clusters of a line the left one ends before the right one begins. -/
theorem add_width_le_of_lt {p q : Nat × List Char × Style} (hp : p ∈ place room x clusters)
    (hq : q ∈ place room x clusters) (hlt : p.1 < q.1) :
    p.1 + Text.clusterWidth p.2.1 ≤ q.1 := by
  have hpairs := pairwise_place room x clusters
  generalize place room x clusters = placed at hp hq hpairs
  induction hpairs with
  | nil => cases hp
  | cons hfirst _ ih =>
    rcases List.mem_cons.mp hp with rfl | hp'
    · rcases List.mem_cons.mp hq with rfl | hq'
      · exact absurd hlt (Nat.lt_irrefl _)
      · exact (hfirst q hq').2
    · rcases List.mem_cons.mp hq with rfl | hq'
      · exact absurd hlt (Nat.lt_asymm (hfirst p hp').1)
      · exact ih hp' hq'

theorem lookup_eq_some_iff (h : placed.Pairwise fun p q => p.1 < q.1) {k : Nat}
    {cluster : List Char × Style} : placed.lookup k = some cluster ↔ (k, cluster) ∈ placed := by
  induction h with
  | nil => simp
  | @cons p placed hfirst _ ih =>
    obtain ⟨k', cluster'⟩ := p
    rw [List.lookup_cons, List.mem_cons, Prod.mk.injEq]
    by_cases hk : k = k'
    · subst hk
      have hnot : (k, cluster) ∉ placed := fun hmem => Nat.lt_irrefl k (hfirst _ hmem)
      simp [hnot, eq_comm]
    · simp [hk, ih, beq_false_of_ne hk]

theorem sorted_place (room x : Nat) (clusters : List (List Char × Style)) :
    (place room x clusters).Pairwise fun p q => p.1 < q.1 :=
  (pairwise_place room x clusters).imp And.left

theorem lookup_place {k : Nat} {cluster : List Char × Style} :
    (place room x clusters).lookup k = some cluster ↔ (k, cluster) ∈ place room x clusters :=
  lookup_eq_some_iff (sorted_place room x clusters)

/-- Clusters of one column each stand in consecutive columns. -/
theorem lookup_place_of_narrow (h : ∀ cluster ∈ clusters, Text.clusterWidth cluster.1 = 1)
    (k : Nat) :
    (place room x clusters).lookup k =
      if x ≤ k ∧ k < room then clusters[k - x]? else none := by
  induction clusters generalizing x with
  | nil => simp [place]
  | cons cluster clusters ih =>
    obtain ⟨symbol, style⟩ := cluster
    have hwidth : Text.clusterWidth symbol = 1 := h _ List.mem_cons_self
    have hrest := fun x => ih (x := x) fun cluster hmem => h cluster (List.mem_cons_of_mem _ hmem)
    simp only [place, hwidth]
    by_cases hfits : x < room
    · rw [if_neg (by omega), if_neg (by omega), if_neg (by decide), List.lookup_cons]
      rcases Nat.lt_trichotomy k x with hk | rfl | hk
      · rw [beq_false_of_ne (Nat.ne_of_lt hk), hrest, if_neg (by omega), if_neg (by omega)]
      · simp [hfits]
      · obtain ⟨n, hn⟩ : ∃ n, k - x = n + 1 := ⟨k - x - 1, by omega⟩
        have hn' : k - (x + 1) = n := by omega
        rw [beq_false_of_ne (Nat.ne_of_gt hk), hrest, hn, hn', List.getElem?_cons_succ]
        by_cases hroom : k < room
        · rw [if_pos (by omega), if_pos (by omega)]
        · rw [if_neg (by omega), if_neg (by omega)]
    · have hnot : ¬(x ≤ k ∧ k < room) := by omega
      have hend : room < x + 1 := by omega
      rw [if_neg hnot, if_pos hend]
      split
      · rw [hrest, if_neg hnot]
      · rfl

end Line

namespace Canvas

variable {c : Canvas} {x y i j : Nat}

theorem get?_write (c : Canvas) (x y i j : Nat) (symbol : List Char) (style : Style) :
    (c.write x y symbol style).get? i j =
      if i = x ∧ j = y then (c.get? i j).map (·.write symbol style) else c.get? i j :=
  Grid.get?_modify

/-- Write clusters into columns of row `y`, counted from column `x`. -/
def writeAll (c : Canvas) (x y : Nat) (placed : List (Nat × List Char × Style)) : Canvas :=
  placed.foldl (fun c (k, symbol, style) => c.write (x + k) y symbol style) c

theorem get?_writeAll (placed : List (Nat × List Char × Style))
    (h : placed.Pairwise fun p q => p.1 < q.1) (c : Canvas) (x y i j : Nat) :
    (c.writeAll x y placed).get? i j =
      (c.get? i j).map (·.overlay (if x ≤ i ∧ j = y then placed.lookup (i - x) else none)) := by
  -- Columns rise along the list, so that none is written to twice.
  induction h generalizing c with
  | nil => simp [writeAll]
  | @cons p placed hfirst hsorted ih =>
    obtain ⟨k, symbol, style⟩ := p
    have hstep : c.writeAll x y ((k, symbol, style) :: placed) =
        (c.write (x + k) y symbol style).writeAll x y placed := rfl
    rw [hstep, ih, get?_write, List.lookup_cons]
    by_cases hhere : i = x + k ∧ j = y
    · obtain ⟨rfl, rfl⟩ := hhere
      have hsub : x + k - x = k := by omega
      have hrest : placed.lookup k = none := by
        rw [Option.eq_none_iff_forall_not_mem]
        intro cluster hcluster
        exact Nat.lt_irrefl k (hfirst _ ((Line.lookup_eq_some_iff hsorted).mp hcluster))
      rw [hsub, hrest]
      simp [Glyph.overlay, Function.comp_def]
    · rw [if_neg hhere]
      congr 2
      by_cases hrow : x ≤ i ∧ j = y
      · have hk : i - x ≠ k := by omega
        simp [hrow, beq_false_of_ne hk]
      · simp [hrow]

/-- Two canvases that differ in their glyphs at most. -/
structure OnlyGlyphs (c c' : Canvas) : Prop where
  area : c'.area = c.area
  cursor : c'.cursor = c.cursor

theorem OnlyGlyphs.refl (c : Canvas) : c.OnlyGlyphs c := ⟨rfl, rfl⟩

theorem OnlyGlyphs.trans {c c' c'' : Canvas} (h : c.OnlyGlyphs c') (h' : c'.OnlyGlyphs c'') :
    c.OnlyGlyphs c'' :=
  ⟨h'.area.trans h.area, h'.cursor.trans h.cursor⟩

theorem onlyGlyphs_foldl {α : Type} {f : Canvas → α → Canvas}
    (hf : ∀ (c : Canvas) (a : α), c.OnlyGlyphs (f c a)) (as : List α) (c : Canvas) :
    c.OnlyGlyphs (as.foldl f c) := by
  induction as generalizing c with
  | nil => exact .refl c
  | cons a as ih => exact (hf c a).trans (ih _)

/-! ### Paragraphs -/

/-- The cluster that a paragraph puts at a position of its area, if it puts one
there. -/
def cluster? (area : Rect) (lines : List Line) (i j : Nat) : Option (List Char × Style) :=
  if area.x ≤ i ∧ area.y ≤ j ∧ j < area.bottom then
    lines[j - area.y]?.bind fun line =>
      (Line.place area.width 0 line.clusters).lookup (i - area.x)
  else none

theorem get?_foldl_draw (lines : List Line) (n : Nat) (c : Canvas) (x y room i j : Nat) :
    ((lines.zipIdx n).foldl (fun c (line, k) => line.draw c x (y + k) room) c).get? i j =
      (c.get? i j).map (·.overlay (if x ≤ i ∧ y + n ≤ j then
        lines[j - (y + n)]?.bind fun line => (Line.place room 0 line.clusters).lookup (i - x)
        else none)) := by
  induction lines generalizing n c with
  | nil => simp [Glyph.overlay]
  | cons line lines ih =>
    have hdraw : (line.draw c x (y + n) room).get? i j = _ :=
      get?_writeAll _ (Line.sorted_place room 0 line.clusters) c x (y + n) i j
    rw [List.zipIdx_cons, List.foldl_cons, ih, hdraw, Option.map_map]
    congr 1
    funext g
    rw [Function.comp_apply, ← Nat.add_assoc]
    by_cases hx : x ≤ i
    · rcases Nat.lt_trichotomy j (y + n) with hj | rfl | hj
      · simp [Nat.ne_of_lt hj, Nat.not_le.mpr hj, show ¬y + n + 1 ≤ j by omega]
      · simp [hx, show ¬y + n + 1 ≤ y + n by omega]
      · obtain ⟨k, hk⟩ : ∃ k, j - (y + n) = k + 1 := ⟨j - (y + n) - 1, by omega⟩
        have hk' : j - (y + n + 1) = k := by omega
        simp [hx, Nat.ne_of_gt hj, Nat.le_of_lt hj, hk, hk', show y + n + 1 ≤ j by omega]
    · simp [hx]

theorem cluster?_of_isEmpty {area : Rect} (h : area.isEmpty = true) (lines : List Line)
    (i j : Nat) : cluster? area lines i j = none := by
  rw [cluster?, ite_eq_right_iff]
  rintro ⟨-, hj, hbottom⟩
  rw [Rect.bottom] at hbottom
  rw [Option.eq_none_iff_forall_not_mem]
  intro cluster hcluster
  obtain ⟨line, -, hline⟩ := Option.bind_eq_some_iff.mp hcluster
  have hwithin := Line.within_of_mem (Line.lookup_place.mp hline)
  have hpos := hwithin.pos
  have hfits := hwithin.fits
  simp only [Rect.isEmpty, Bool.or_eq_true, beq_iff_eq] at h
  omega

/-- A paragraph puts its clusters into the part of its area that is on the canvas,
and leaves all other positions as they are. -/
theorem get?_paragraph (c : Canvas) (area : Rect) (lines : List Line) (i j : Nat) :
    (c.paragraph area lines).get? i j =
      (c.get? i j).map (·.overlay (cluster? (area.inter c.area) lines i j)) := by
  rw [paragraph]
  generalize area.inter c.area = area
  by_cases hempty : area.isEmpty = true
  · simp [hempty, cluster?_of_isEmpty hempty]
  rw [if_neg hempty, get?_foldl_draw]
  congr 2
  funext g
  congr 1
  rw [cluster?, Nat.add_zero, Rect.bottom]
  by_cases hplace : area.x ≤ i ∧ area.y ≤ j
  · rw [if_pos hplace, List.getElem?_take]
    by_cases hbottom : j < area.y + area.height
    · rw [if_pos (by omega), if_pos ⟨hplace.1, hplace.2, hbottom⟩]
    · rw [if_neg (by omega), if_neg fun h => hbottom h.2.2]
      rfl
  · rw [if_neg hplace, if_neg fun h => hplace ⟨h.1, h.2.1⟩]

theorem onlyGlyphs_draw (line : Line) (c : Canvas) (x y room : Nat) :
    c.OnlyGlyphs (line.draw c x y room) := by
  unfold Line.draw
  refine onlyGlyphs_foldl ?_ _ c
  exact fun _ _ => ⟨rfl, rfl⟩

theorem onlyGlyphs_paragraph (c : Canvas) (area : Rect) (lines : List Line) :
    c.OnlyGlyphs (c.paragraph area lines) := by
  rw [paragraph]
  dsimp only
  split
  · exact .refl c
  · refine onlyGlyphs_foldl ?_ _ c
    exact fun c row => onlyGlyphs_draw row.1 c _ _ _

theorem area_paragraph (c : Canvas) (area : Rect) (lines : List Line) :
    (c.paragraph area lines).area = c.area :=
  (c.onlyGlyphs_paragraph area lines).area

/-- The canvas begins at the origin and has a glyph at every position of its area. -/
structure Framed (c : Canvas) : Prop where
  x : c.area.x = 0
  y : c.area.y = 0
  shape : c.glyphs.HasShape c.area.width c.area.height

theorem Framed.lt_of_get? (hc : c.Framed) {g : Glyph} (hg : c.get? i j = some g) :
    i < c.area.width ∧ j < c.area.height :=
  hc.shape.lt_of_get? hg

/-- The part of a rectangle that is on the canvas. -/
theorem Framed.inter_eq (hc : c.Framed) (area : Rect) : area.inter c.area =
    ⟨area.x, area.y, min area.right c.area.width - area.x,
      min area.bottom c.area.height - area.y⟩ := by
  simp [Rect.inter, Rect.right, Rect.bottom, hc.x, hc.y]

theorem Framed.inter_x (hc : c.Framed) (area : Rect) : (area.inter c.area).x = area.x := by
  rw [hc.inter_eq]

theorem Framed.inter_y (hc : c.Framed) (area : Rect) : (area.inter c.area).y = area.y := by
  rw [hc.inter_eq]

theorem Framed.add_lt_width (hc : c.Framed) {area : Rect} (h : x < (area.inter c.area).width) :
    area.x + x < c.area.width := by
  rw [hc.inter_eq] at h
  dsimp only at h
  omega

theorem Framed.add_lt_height (hc : c.Framed) {area : Rect} (h : y < (area.inter c.area).height) :
    area.y + y < c.area.height := by
  rw [hc.inter_eq] at h
  dsimp only at h
  omega

theorem framed_empty (width height : Nat) : (empty width height).Framed :=
  ⟨rfl, rfl, Grid.hasShape_replicate ..⟩

/-! ### What is seen -/

/-- The glyph that is seen in column `x` of row `y`. -/
def shown? (c : Canvas) (x y : Nat) : Option Glyph := c.shown[y]?.bind (·[x]?)

/-- No glyph to the left reaches over a position. -/
def Uncovered (c : Canvas) (x y : Nat) : Prop :=
  ∀ x' < x, ∀ g, c.get? x' y = some g → x' + Text.clusterWidth g.symbol ≤ x

/-- No glyph of the canvas takes more than one column. -/
def Narrow (c : Canvas) : Prop :=
  ∀ x y g, c.get? x y = some g → Text.clusterWidth g.symbol ≤ 1

theorem Narrow.uncovered (h : c.Narrow) (x y : Nat) : c.Uncovered x y := by
  intro x' hx' g hg
  have := h x' y g hg
  omega

theorem narrow_empty (width height : Nat) : (empty width height).Narrow := by
  intro x y g hg
  rw [get?, empty, Grid.get?_replicate] at hg
  obtain ⟨-, hg⟩ := Option.ite_none_right_eq_some.mp hg
  cases hg
  decide

/-- A cluster has been put over what was at a position, and is seen there. -/
def ShowsOver (c before : Canvas) (x y : Nat) (symbol : List Char) (style : Style) : Prop :=
  ∃ under, before.get? x y = some under ∧ c.shown? x y = some (under.write symbol style)

theorem ShowsOver.symbol_eq {before : Canvas} {symbol symbol' : List Char} {style style' : Style}
    (h : c.ShowsOver before x y symbol style) (h' : c.ShowsOver before x y symbol' style') :
    symbol = symbol' := by
  obtain ⟨under, -, hshown⟩ := h
  obtain ⟨under', -, hshown'⟩ := h'
  exact congrArg Glyph.symbol (Option.some.inj (hshown.symm.trans hshown'))

theorem Narrow.paragraph (h : c.Narrow) {area : Rect} {lines : List Line}
    (hlines : ∀ i j cluster, cluster? (area.inter c.area) lines i j = some cluster →
      Text.clusterWidth cluster.1 ≤ 1) : (c.paragraph area lines).Narrow := by
  intro x y g hg
  rw [get?_paragraph] at hg
  obtain ⟨under, hunder, rfl⟩ := Option.map_eq_some_iff.mp hg
  cases hcluster : cluster? (area.inter c.area) lines x y with
  | none => exact h x y under hunder
  | some cluster => exact hlines x y cluster hcluster

theorem getElem?_uncovered {row : List Glyph} {covered i : Nat} (hle : covered ≤ i)
    (h : ∀ i' < i, ∀ g, row[i']? = some g → i' + Text.clusterWidth g.symbol ≤ i) :
    (uncovered covered row)[i]? = row[i]? := by
  induction row generalizing covered i with
  | nil => rfl
  | cons g row ih =>
    rw [uncovered]
    cases i with
    | zero =>
      rw [if_neg (by omega)]
      rfl
    | succ i =>
      have hrest : ∀ i' < i, ∀ g', row[i']? = some g' → i' + Text.clusterWidth g'.symbol ≤ i := by
        intro i' hi' g' hg'
        have := h (i' + 1) (Nat.succ_lt_succ hi') g' hg'
        omega
      split
      · exact ih (by omega) hrest
      · have hfirst := h 0 (Nat.succ_pos i) g rfl
        exact ih (by omega) hrest

theorem Uncovered.shown?_eq (h : c.Uncovered x y) : c.shown? x y = c.get? x y := by
  rw [shown?, shown, get?, Grid.get?, List.getElem?_map, Array.getElem?_toList]
  cases hrow : c.glyphs.rows[y]? with
  | none => rfl
  | some row =>
    simp only [Option.map_some, Option.bind_some]
    rw [getElem?_uncovered (Nat.zero_le x), Array.getElem?_toList]
    intro x' hx' g hg
    refine h x' hx' g ?_
    rw [get?, Grid.get?, hrow, Option.bind_some, ← Array.getElem?_toList]
    exact hg

theorem Narrow.uncovered_paragraph (h : c.Narrow) {area : Rect} {lines : List Line}
    {cluster : List Char × Style}
    (hcluster : cluster? (area.inter c.area) lines i j = some cluster) :
    (c.paragraph area lines).Uncovered i j := by
  intro x' hx' g hg
  rw [get?_paragraph] at hg
  obtain ⟨under, hunder, rfl⟩ := Option.map_eq_some_iff.mp hg
  cases hleft : cluster? (area.inter c.area) lines x' j with
  | none =>
    have hwidth := h x' j under hunder
    rw [Glyph.overlay_none]
    omega
  | some cluster' =>
    obtain ⟨⟨hx, -⟩, hcluster⟩ := Option.ite_none_right_eq_some.mp hcluster
    obtain ⟨⟨hx'', -⟩, hleft⟩ := Option.ite_none_right_eq_some.mp hleft
    obtain ⟨line, hline, hcluster⟩ := Option.bind_eq_some_iff.mp hcluster
    -- Both clusters are of the line in this row, and those do not overlap.
    rw [hline, Option.bind_some] at hleft
    have hends := Line.add_width_le_of_lt (Line.lookup_place.mp hleft)
      (Line.lookup_place.mp hcluster) (Nat.sub_lt_sub_right hx'' hx')
    show x' + Text.clusterWidth cluster'.1 ≤ i
    dsimp only at hends
    omega

/-- As far as a line fits into its area, every cluster is seen behind those before it. -/
theorem Narrow.showsOver_paragraph (h : c.Narrow) (hc : c.Framed) {area : Rect}
    {lines : List Line} {line : Line} (hy : y < (area.inter c.area).height)
    (hline : lines[y]? = some line)
    {before after : List (List Char × Style)} {symbol : List Char} {style : Style}
    (hclusters : line.clusters = before ++ (symbol, style) :: after)
    (hpos : 0 < Text.clusterWidth symbol)
    (hfits : Line.columns before + Text.clusterWidth symbol ≤ (area.inter c.area).width) :
    (c.paragraph area lines).ShowsOver c (area.x + Line.columns before) (area.y + y)
      symbol style := by
  have hcluster : cluster? (area.inter c.area) lines (area.x + Line.columns before) (area.y + y) =
      some (symbol, style) := by
    have hplaced : (0 + Line.columns before, symbol, style) ∈
        Line.place (area.inter c.area).width 0 (before ++ (symbol, style) :: after) :=
      Line.mem_place hpos (by rwa [Nat.zero_add])
    rw [Nat.zero_add, ← hclusters] at hplaced
    rw [cluster?, Rect.bottom, hc.inter_x, hc.inter_y, if_pos ⟨Nat.le_add_right _ _,
      Nat.le_add_right _ _, Nat.add_lt_add_left hy _⟩, Nat.add_sub_cancel_left,
      Nat.add_sub_cancel_left, hline, Option.bind_some]
    exact Line.lookup_place.mpr hplaced
  have hcolumn : Line.columns before < (area.inter c.area).width := by omega
  obtain ⟨under, hunder⟩ :=
    hc.shape.exists_get? (hc.add_lt_width hcolumn) (hc.add_lt_height hy)
  refine ⟨under, hunder, ?_⟩
  rw [(h.uncovered_paragraph hcluster).shown?_eq, get?_paragraph, hcluster]
  rw [show c.get? _ _ = some under from hunder]
  rfl

/-- Below its lines a paragraph leaves everything as it is. -/
theorem Narrow.shown?_paragraph_below (h : c.Narrow) (hc : c.Framed) {area : Rect}
    {lines : List Line} (hy : lines.length ≤ y) (x : Nat) :
    (c.paragraph area lines).shown? x (area.y + y) = c.get? x (area.y + y) := by
  have hnone : ∀ x, cluster? (area.inter c.area) lines x (area.y + y) = none := by
    intro x
    rw [cluster?, hc.inter_y, Nat.add_sub_cancel_left, List.getElem?_eq_none hy]
    exact ite_self none
  have hget : ∀ x, (c.paragraph area lines).get? x (area.y + y) = c.get? x (area.y + y) := by
    intro x
    rw [get?_paragraph, hnone]
    simp
  have huncovered : (c.paragraph area lines).Uncovered x (area.y + y) := by
    intro x' hx' g hg
    rw [hget] at hg
    exact h.uncovered x (area.y + y) x' hx' g hg
  rw [huncovered.shown?_eq, hget]

end Canvas

end DasherTerminal
