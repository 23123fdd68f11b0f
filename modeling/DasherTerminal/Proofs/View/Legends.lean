import Mathlib.Algebra.BigOperators.Group.List.Basic
import Mathlib.Algebra.Group.Action.Defs
import DasherTerminal.Proofs.Canvas.Paragraph
import DasherTerminal.Proofs.Text.Plain
import DasherTerminal.View.Legends

/-!
# Legends in their slots

Legends are cut and padded by characters, but drawn by columns. The number of a key
stands behind the slots of the keys before it, so that it is in its own column
exactly if their texts take as many columns together as they have characters.
-/

namespace DasherTerminal

namespace Line

theorem clusters_flatMap {α : Type} (l : List α) (f : α → Line) :
    clusters (l.flatMap f) = l.flatMap fun a => clusters (f a) :=
  List.flatMap_assoc

theorem columns_flatMap {α : Type} (l : List α) (f : α → List (List Char × Style)) :
    columns (l.flatMap f) = (l.map fun a => columns (f a)).sum := by
  induction l with
  | nil => rfl
  | cons a l ih => rw [List.flatMap_cons, columns_append, ih, List.map_cons, List.sum_cons]

theorem clusters_cons (s : Span) (line : Line) :
    clusters (s :: line) = (Text.drawnClusters s.text).map (·, s.style) ++ clusters line :=
  rfl

theorem columns_drawnClusters (cs : List Char) (style : Style) :
    columns ((Text.drawnClusters cs).map (·, style)) = Text.drawnWidth cs := by
  rw [columns, Text.drawnWidth, List.map_map]
  rfl

/-- Characters that are drawn one by one, in one look. -/
def graphics (cs : List Char) (style : Style) : List (List Char × Style) :=
  cs.map fun ch => ([ch], style)

theorem map_drawnClusters {cs : List Char} (h : ∀ ch ∈ cs, Text.IsGraphic ch) (style : Style) :
    (Text.drawnClusters cs).map (·, style) = graphics cs style := by
  rw [Text.drawnClusters_of_isGraphic h, List.map_map]
  rfl

theorem columns_graphics {cs : List Char} (h : ∀ ch ∈ cs, Text.IsGraphic ch) (style : Style) :
    columns (graphics cs style) = cs.length := by
  rw [← map_drawnClusters h, columns_drawnClusters, Text.drawnWidth_of_isGraphic h]

end Line

namespace View

variable {e : Encoder} {p : KeyModifiers × String} {slot n : Nat}

/-! ### Rows -/

/-- The combinations of modifiers that have a legend, from the top. -/
def legendModifiers (e : Encoder) : List (KeyModifiers × String) :=
  legendOrder.filter fun p => functionNumbers.any fun n => (e.label? n p.1).isSome

theorem legendRows_eq (e : Encoder) : legendRows e =
    (legendModifiers e).map fun p => ⟨p.2, functionNumbers.map (e.label? · p.1)⟩ := by
  rw [legendRows, legendModifiers, List.filter_map]
  apply congrArg
  apply List.filter_congr
  intro p _
  exact List.any_map

theorem mem_functionNumbers : n ∈ functionNumbers ↔ 1 ≤ n ∧ n ≤ lastFunctionKey := by
  rw [functionNumbers, List.mem_map]
  constructor
  · rintro ⟨k, hk, rfl⟩
    exact ⟨Nat.succ_pos k, List.mem_range.mp hk⟩
  · rintro ⟨hpos, hlast⟩
    exact ⟨n - 1, List.mem_range.mpr (by omega), by omega⟩

theorem exists_functionNumbers_eq (hn : n ∈ functionNumbers) :
    ∃ after, functionNumbers = (List.range (n - 1)).map (· + 1) ++ n :: after := by
  obtain ⟨hpos, hlast⟩ := mem_functionNumbers.mp hn
  obtain ⟨k, rfl⟩ : ∃ k, n = k + 1 := ⟨n - 1, by omega⟩
  obtain ⟨rest, hrest⟩ : ∃ rest, lastFunctionKey = k + (rest + 1) :=
    ⟨lastFunctionKey - (k + 1), by omega⟩
  refine ⟨((List.range rest).map Nat.succ).map (k + · + 1), ?_⟩
  rw [functionNumbers, hrest, List.range_add, List.range_succ_eq_map, List.map_append]
  simp

theorem mem_legendModifiers : p ∈ legendModifiers e ↔
    p ∈ legendOrder ∧ ∃ n, 1 ≤ n ∧ n ≤ lastFunctionKey ∧ (e.label? n p.1).isSome = true := by
  rw [legendModifiers, List.mem_filter, List.any_eq_true]
  simp only [mem_functionNumbers, and_assoc]

/-! ### Lines -/

def numberText (n : Nat) : List Char := padLeft 2 (toString n).toList

/-- What stands behind the number: a blank, and as many characters of the legend as
the slot has columns left, padded to this number. -/
def legendText (slot : Nat) (label : Option String) : List Char :=
  ' ' :: padRight (slot - 3) ((label.getD "").toList.take (slot - 3))

theorem isGraphic_numberText (hn : n ∈ functionNumbers) :
    ∀ ch ∈ numberText n, Text.IsGraphic ch := by
  have h : ∀ n ∈ functionNumbers, (numberText n).all (Text.IsGraphic ·) = true := by
    decide +kernel
  exact Text.isGraphic_of_all (h n hn)

theorem length_numberText (hn : n ∈ functionNumbers) : (numberText n).length = 2 := by
  have h : ∀ n ∈ functionNumbers, (numberText n).length = 2 := by decide +kernel
  exact h n hn

theorem isGraphic_title (hp : p ∈ legendOrder) :
    ∀ ch ∈ padRight legendMargin p.2.toList, Text.IsGraphic ch := by
  have h : ∀ p ∈ legendOrder,
      (padRight legendMargin p.2.toList).all (Text.IsGraphic ·) = true := by
    decide +kernel
  exact Text.isGraphic_of_all (h p hp)

theorem length_title (hp : p ∈ legendOrder) :
    (padRight legendMargin p.2.toList).length = legendMargin := by
  have h : ∀ p ∈ legendOrder, (padRight legendMargin p.2.toList).length = legendMargin := by
    decide +kernel
  exact h p hp

/-- The clusters of a key's slot: its number, then its legend. -/
def slotClusters (slot n : Nat) (label : Option String) : List (List Char × Style) :=
  Line.graphics (numberText n) keyNumberStyle ++
    (Text.drawnClusters (legendText slot label)).map (·, legendStyle)

theorem clusters_legendSlot (hn : n ∈ functionNumbers) (label : Option String) :
    Line.clusters (legendSlot slot n label) = slotClusters slot n label := by
  have hslot : legendSlot slot n label =
      [⟨numberText n, keyNumberStyle⟩, ⟨legendText slot label, legendStyle⟩] := rfl
  rw [hslot, Line.clusters_cons, Line.clusters_cons,
    Line.map_drawnClusters (isGraphic_numberText hn), slotClusters]
  exact congrArg _ (List.append_nil _)

theorem columns_slotClusters (hn : n ∈ functionNumbers) (label : Option String) :
    Line.columns (slotClusters slot n label) = 2 + Text.drawnWidth (legendText slot label) := by
  rw [slotClusters, Line.columns_append, Line.columns_graphics (isGraphic_numberText hn),
    length_numberText hn, Line.columns_drawnClusters]

/-- The columns that the texts of the keys before a key take. -/
def textColumns (e : Encoder) (modifiers : KeyModifiers) (slot n : Nat) : Nat :=
  ((List.range (n - 1)).map fun k =>
    Text.drawnWidth (legendText slot (e.label? (k + 1) modifiers))).sum

/-- The column that the number of a key begins in. -/
def numberColumn (e : Encoder) (modifiers : KeyModifiers) (slot n : Nat) : Nat :=
  legendMargin + 2 * (n - 1) + textColumns e modifiers slot n

def rowLine (e : Encoder) (width : Nat) (p : KeyModifiers × String) : Line :=
  legendLine width ⟨p.2, functionNumbers.map (e.label? · p.1)⟩

theorem clusters_rowLine (hp : p ∈ legendOrder) (e : Encoder) (width : Nat) :
    Line.clusters (rowLine e width p) =
      Line.graphics (padRight legendMargin p.2.toList) legendStyle ++
        functionNumbers.flatMap fun n => slotClusters (slotWidth width) n (e.label? n p.1) := by
  have hzip : functionNumbers.zip (functionNumbers.map (e.label? · p.1)) =
      functionNumbers.map fun n => (n, e.label? n p.1) := by
    have h := List.zip_map' (f := id) (g := (e.label? · p.1)) (l := functionNumbers)
    rwa [List.map_id] at h
  rw [rowLine, legendLine, Line.clusters_cons, Line.map_drawnClusters (isGraphic_title hp),
    hzip, Line.clusters_flatMap, List.flatMap_map]
  apply congrArg
  apply List.flatMap_congr
  intro n hn
  exact clusters_legendSlot hn _

/-- The clusters before a key's slot take the columns up to its number. -/
theorem exists_clusters_rowLine (hp : p ∈ legendOrder) (hn : n ∈ functionNumbers) (e : Encoder)
    (width : Nat) : ∃ before after,
      Line.clusters (rowLine e width p) = before ++ Line.graphics (numberText n) keyNumberStyle ++
        ((Text.drawnClusters (legendText (slotWidth width) (e.label? n p.1))).map
          (·, legendStyle) ++ after) ∧
      Line.columns before = numberColumn e p.1 (slotWidth width) n := by
  obtain ⟨after, hsplit⟩ := exists_functionNumbers_eq hn
  -- Before the key's slot there are the name of the row and the slots of lower keys.
  let slots := fun n => slotClusters (slotWidth width) n (e.label? n p.1)
  refine ⟨Line.graphics (padRight legendMargin p.2.toList) legendStyle ++
    ((List.range (n - 1)).map (· + 1)).flatMap slots, after.flatMap slots, ?_, ?_⟩
  · rw [clusters_rowLine hp, hsplit, List.flatMap_append, List.flatMap_cons]
    simp only [List.append_assoc, slotClusters, slots]
  · have hslots : ∀ k ∈ List.range (n - 1), Line.columns (slots (k + 1)) =
        2 + Text.drawnWidth (legendText (slotWidth width) (e.label? (k + 1) p.1)) := by
      intro k hk
      apply columns_slotClusters
      rw [hsplit]
      exact List.mem_append_left _ (List.mem_map_of_mem hk)
    rw [Line.columns_append, Line.columns_graphics (isGraphic_title hp), length_title hp,
      List.flatMap_map, Line.columns_flatMap, List.map_congr_left hslots, List.sum_map_add,
      List.map_const', List.sum_replicate, List.length_range, smul_eq_mul, numberColumn,
      textColumns, Nat.mul_comm 2, Nat.add_assoc]

/-! ### What is seen -/

section Drawn

variable {c : Canvas} {area : Rect} {y : Nat} (hc : c.Framed) (hnarrow : c.Narrow)
  (hy : y < (area.inter c.area).height)

include hc hnarrow hy

theorem showsOver_graphics {lines : List Line} {line : Line} (hline : lines[y]? = some line)
    {before after : List (List Char × Style)} {cs : List Char} {style : Style}
    (hclusters : line.clusters = before ++ Line.graphics cs style ++ after)
    (hcs : ∀ ch ∈ cs, Text.IsGraphic ch) {i : Nat} {ch : Char} (hi : cs[i]? = some ch)
    (hfits : Line.columns before + i < (area.inter c.area).width) :
    (c.paragraph area lines).ShowsOver c (area.x + (Line.columns before + i)) (area.y + y)
      [ch] style := by
  obtain ⟨front, back, rfl, rfl⟩ : ∃ front back, cs = front ++ ch :: back ∧ front.length = i := by
    obtain ⟨hlength, rfl⟩ := List.getElem?_eq_some_iff.mp hi
    refine ⟨cs.take i, cs.drop (i + 1), ?_, List.length_take_of_le (Nat.le_of_lt hlength)⟩
    rw [List.getElem_cons_drop, List.take_append_drop]
  have hsplit : line.clusters = (before ++ Line.graphics front style) ++
      ([ch], style) :: (Line.graphics back style ++ after) := by
    rw [hclusters, Line.graphics, List.map_append, List.map_cons]
    simp [Line.graphics]
  have hfront : ∀ ch ∈ front, Text.IsGraphic ch := fun ch' h => hcs ch' (List.mem_append_left _ h)
  -- The characters in front take a column each, and so does this one.
  have hwidth : Text.clusterWidth [ch] = 1 := (hcs ch (by simp)).1.clusterWidth
  have hcolumns : Line.columns (before ++ Line.graphics front style) =
      Line.columns before + front.length := by
    rw [Line.columns_append, Line.columns_graphics hfront]
  rw [← hcolumns]
  apply hnarrow.showsOver_paragraph hc hy hline hsplit
  · rw [hwidth]
    exact Nat.one_pos
  · rw [hcolumns, hwidth]
    exact hfits

variable {lines : List Line} (hline : lines[y]? = some (rowLine e area.width p))
  (hp : p ∈ legendOrder)

include hline hp

theorem showsOver_title {i : Nat} {ch : Char}
    (hi : (padRight legendMargin p.2.toList)[i]? = some ch)
    (hfits : i < (area.inter c.area).width) :
    (c.paragraph area lines).ShowsOver c (area.x + i) (area.y + y) [ch] legendStyle := by
  have hclusters : Line.clusters (rowLine e area.width p) =
      [] ++ Line.graphics (padRight legendMargin p.2.toList) legendStyle ++ _ :=
    clusters_rowLine hp e area.width
  have hshows := showsOver_graphics hc hnarrow hy hline hclusters (isGraphic_title hp) hi
  rw [Line.columns_nil, Nat.zero_add] at hshows
  exact hshows hfits

/-- The number of a key is seen behind the slots of the keys before it. -/
theorem showsOver_number (hn : n ∈ functionNumbers) {i : Nat} {ch : Char}
    (hi : (numberText n)[i]? = some ch)
    (hfits : numberColumn e p.1 (slotWidth area.width) n + i < (area.inter c.area).width) :
    (c.paragraph area lines).ShowsOver c
      (area.x + (numberColumn e p.1 (slotWidth area.width) n + i)) (area.y + y)
      [ch] keyNumberStyle := by
  obtain ⟨before, after, hclusters, hcolumns⟩ := exists_clusters_rowLine hp hn e area.width
  rw [← hcolumns] at hfits ⊢
  exact showsOver_graphics hc hnarrow hy hline hclusters (isGraphic_numberText hn) hi hfits

theorem showsOver_legend (hn : n ∈ functionNumbers) {front back : List (List Char)}
    {symbol : List Char} (htext : Text.drawnClusters
      (legendText (slotWidth area.width) (e.label? n p.1)) = front ++ symbol :: back)
    (hpos : 0 < Text.clusterWidth symbol) {x : Nat}
    (hx : x = numberColumn e p.1 (slotWidth area.width) n + 2 + (front.map Text.clusterWidth).sum)
    (hfits : x + Text.clusterWidth symbol ≤ (area.inter c.area).width) :
    (c.paragraph area lines).ShowsOver c (area.x + x) (area.y + y) symbol legendStyle := by
  obtain ⟨before, after, hclusters, hcolumns⟩ := exists_clusters_rowLine hp hn e area.width
  have hsplit : Line.clusters (rowLine e area.width p) =
      (before ++ Line.graphics (numberText n) keyNumberStyle ++ front.map (·, legendStyle)) ++
        (symbol, legendStyle) :: (back.map (·, legendStyle) ++ after) := by
    rw [hclusters, htext]
    simp
  have hfront : Line.columns (front.map (·, legendStyle)) = (front.map Text.clusterWidth).sum := by
    rw [Line.columns, List.map_map]
    rfl
  have hleft : x = Line.columns (before ++ Line.graphics (numberText n) keyNumberStyle ++
      front.map (·, legendStyle)) := by
    rw [Line.columns_append, Line.columns_append, Line.columns_graphics (isGraphic_numberText hn),
      length_numberText hn, hcolumns, hfront, hx]
  rw [hleft] at hfits ⊢
  exact hnarrow.showsOver_paragraph hc hy hline hsplit hpos hfits

end Drawn

/-! ### Columns of the keys -/

theorem length_legendText (hslot : 3 ≤ slot) (label : Option String) :
    (legendText slot label).length = slot - 2 := by
  simp only [legendText, padRight, List.length_cons, List.length_append, List.length_replicate,
    List.length_take]
  omega

/-- A legend of characters that take one column each. -/
def HasGraphicLegend (e : Encoder) (modifiers : KeyModifiers) (n : Nat) : Prop :=
  ∀ label, e.label? n modifiers = some label → ∀ ch ∈ label.toList, Text.IsGraphic ch

variable {modifiers : KeyModifiers}

theorem HasGraphicLegend.drawnWidth (h : HasGraphicLegend e modifiers n) (hslot : 3 ≤ slot) :
    Text.drawnWidth (legendText slot (e.label? n modifiers)) = slot - 2 := by
  rw [Text.drawnWidth_of_isGraphic, length_legendText hslot]
  have hblank : Text.IsGraphic ' ' := by decide
  intro ch hch
  rcases List.mem_cons.mp hch with rfl | hch
  · exact hblank
  · rcases List.mem_append.mp hch with hch | hch
    · cases hlabel : e.label? n modifiers with
      | none => simp [hlabel] at hch
      | some label =>
        rw [hlabel, Option.getD_some] at hch
        exact h label hlabel ch (List.mem_of_mem_take hch)
    · rw [List.eq_of_mem_replicate hch]
      exact hblank

theorem textColumns_of_hasGraphicLegend (hslot : 3 ≤ slot)
    (h : ∀ k, 1 ≤ k → k < n → HasGraphicLegend e modifiers k) :
    textColumns e modifiers slot n = (n - 1) * (slot - 2) := by
  have hcolumns : ∀ k ∈ List.range (n - 1),
      Text.drawnWidth (legendText slot (e.label? (k + 1) modifiers)) = slot - 2 := by
    intro k hk
    have hlt := List.mem_range.mp hk
    exact (h (k + 1) (Nat.succ_pos k) (by omega)).drawnWidth hslot
  rw [textColumns, List.map_congr_left hcolumns, List.map_const', List.sum_replicate,
    List.length_range, smul_eq_mul]

/-- A number is in its own column exactly if the texts of the slots before it take
as many columns as they have characters. -/
theorem numberColumn_eq_iff (hslot : 3 ≤ slot) :
    numberColumn e modifiers slot n = legendMargin + (n - 1) * slot ↔
      textColumns e modifiers slot n = (n - 1) * (slot - 2) := by
  obtain ⟨room, rfl⟩ : ∃ room, slot = room + 2 := ⟨slot - 2, by omega⟩
  rw [numberColumn, Nat.add_sub_cancel, Nat.mul_add]
  omega

/-- The strip has a row for each combination of modifiers with a legend, from the top
in the order of the keyboard, and nothing else. In a row, the number of a key is seen
behind the slots of the keys before it, and its legend, cut to the columns that the
slot has left, cluster by cluster behind the number. A number is in its own column
exactly if the texts in the slots before it take as many columns together as these
slots leave for them, as they do if their legends have characters of one column only. -/
theorem legends_of_encoder (e : Encoder) (area : Rect) (c : Canvas) (hc : c.Framed)
    (hnarrow : c.Narrow) (hslot : 3 ≤ slotWidth area.width) :
    let slot := slotWidth area.width
    let visible := area.inter c.area
    let rows := legendModifiers e
    let drawn := legends (legendRows e) area c
    rows.Sublist legendOrder ∧
    (∀ p ∈ legendOrder, p ∈ rows ↔
      ∃ n, 1 ≤ n ∧ n ≤ lastFunctionKey ∧ (e.label? n p.1).isSome = true) ∧
    (∀ x y, rows.length ≤ y → drawn.shown? x (area.y + y) = c.get? x (area.y + y)) ∧
    ∀ y modifiers title, rows[y]? = some (modifiers, title) → y < visible.height →
      (∀ i ch, (padRight legendMargin title.toList)[i]? = some ch → i < visible.width →
        drawn.ShowsOver c (area.x + i) (area.y + y) [ch] legendStyle) ∧
      ∀ n, 1 ≤ n → n ≤ lastFunctionKey →
        let number := numberColumn e modifiers slot n
        let text := legendText slot (e.label? n modifiers)
        (∀ i ch, (numberText n)[i]? = some ch → number + i < visible.width →
          drawn.ShowsOver c (area.x + (number + i)) (area.y + y) [ch] keyNumberStyle) ∧
        (∀ front symbol back, Text.drawnClusters text = front ++ symbol :: back →
          0 < Text.clusterWidth symbol →
          let x := number + 2 + (front.map Text.clusterWidth).sum
          x + Text.clusterWidth symbol ≤ visible.width →
          drawn.ShowsOver c (area.x + x) (area.y + y) symbol legendStyle) ∧
        (number = legendMargin + (n - 1) * slot ↔
          textColumns e modifiers slot n = (n - 1) * (slot - 2)) ∧
        ((∀ k, 1 ≤ k → k < n → HasGraphicLegend e modifiers k) →
          number = legendMargin + (n - 1) * slot) ∧
        (HasGraphicLegend e modifiers n → Text.drawnWidth text = slot - 2) := by
  intro slot visible rows drawn
  have hdrawn : drawn = c.paragraph area (rows.map (rowLine e area.width)) := by
    show legends (legendRows e) area c = _
    rw [legends, legendRows_eq, List.map_map]
    rfl
  rw [hdrawn]
  refine ⟨List.filter_sublist, ?_, ?_, ?_⟩
  · intro p hp
    rw [mem_legendModifiers, and_iff_right hp]
  · intro x y hy
    exact hnarrow.shown?_paragraph_below hc (by rwa [List.length_map]) x
  intro y modifiers title hrow hy
  have hp : (modifiers, title) ∈ legendOrder :=
    (mem_legendModifiers.mp (List.mem_of_getElem? hrow)).1
  have hline : (rows.map (rowLine e area.width))[y]? =
      some (rowLine e area.width (modifiers, title)) := by
    rw [List.getElem?_map, hrow]
    rfl
  constructor
  · intro i ch hi hfits
    exact showsOver_title hc hnarrow hy hline hp hi hfits
  intro n hpos hlast number text
  have hn : n ∈ functionNumbers := mem_functionNumbers.mpr ⟨hpos, hlast⟩
  refine ⟨?_, ?_, numberColumn_eq_iff hslot, ?_, ?_⟩
  · intro i ch hi hfits
    exact showsOver_number hc hnarrow hy hline hp hn hi hfits
  · intro front symbol back htext hsymbol x hfits
    exact showsOver_legend hc hnarrow hy hline hp hn htext hsymbol rfl hfits
  · intro h
    exact (numberColumn_eq_iff hslot).mpr (textColumns_of_hasGraphicLegend hslot h)
  · intro h
    exact h.drawnWidth hslot

theorem legends_of_encoder_help :
    let e := Encoder.plain.bind ⟨1, ⟨false, false⟩, [1], some "Help"⟩
    let drawn := legends (legendRows e) ⟨0, 0, 79, 1⟩ (.empty 79 1)
    (Canvas.empty 79 1).Framed ∧ (Canvas.empty 79 1).Narrow ∧ 3 ≤ slotWidth 79 ∧
      drawn.ShowsOver (.empty 79 1) 10 0 ['2'] keyNumberStyle := by
  intro e drawn
  have hc := Canvas.framed_empty 79 1
  have hnarrow := Canvas.narrow_empty 79 1
  have hslot : 3 ≤ slotWidth 79 := by decide
  refine ⟨hc, hnarrow, hslot, ?_⟩
  obtain ⟨-, -, -, hrow⟩ :=
    legends_of_encoder e ⟨0, 0, 79, 1⟩ (.empty 79 1) hc hnarrow hslot
  have hplain : (legendModifiers e)[0]? = some (⟨false, false⟩, "") := by decide +kernel
  obtain ⟨-, hkeys⟩ := hrow 0 ⟨false, false⟩ "" hplain (by decide)
  obtain ⟨hnumber, -, -, haligned, -⟩ := hkeys 2 (by decide) (by decide)
  have hgraphic : ∀ k, 1 ≤ k → k < 2 → HasGraphicLegend e ⟨false, false⟩ k := by
    intro k hpos hlt label hlabel
    obtain rfl : k = 1 := by omega
    have hhelp : e.label? 1 ⟨false, false⟩ = some "Help" := by decide +kernel
    obtain rfl : "Help" = label := Option.some.inj (hhelp.symm.trans hlabel)
    exact Text.isGraphic_of_all (by decide +kernel)
  have hcolumn := haligned hgraphic
  have hshows := hnumber 1 '2' (by decide +kernel)
  rw [hcolumn] at hshows
  exact hshows (by decide)

/-- A legend two columns wide moves the next number out of its column. -/
theorem legends_wide :
    let e := Encoder.plain.bind ⟨1, ⟨false, false⟩, [1], some "日"⟩
    let drawn := legends (legendRows e) ⟨0, 0, 79, 1⟩ (.empty 79 1)
    3 ≤ slotWidth 79 ∧ (legendRows e).length = 1 ∧ legendMargin + (2 - 1) * slotWidth 79 + 1 = 10 ∧
      drawn.ShowsOver (.empty 79 1) 11 0 ['2'] keyNumberStyle ∧
      ¬drawn.ShowsOver (.empty 79 1) 10 0 ['2'] keyNumberStyle := by
  intro e drawn
  have hc := Canvas.framed_empty 79 1
  have hnarrow := Canvas.narrow_empty 79 1
  have hrow : 0 < (Rect.inter ⟨0, 0, 79, 1⟩ (Canvas.empty 79 1).area).height := by decide
  have hline : ((legendRows e).map (legendLine 79))[0]? =
      some (rowLine e 79 (⟨false, false⟩, "")) := by
    decide +kernel
  have hcolumn : numberColumn e ⟨false, false⟩ (slotWidth 79) 2 = 10 := by decide +kernel
  have hnumber : ∀ i ch, (numberText 2)[i]? = some ch → i < 2 →
      drawn.ShowsOver (.empty 79 1) (10 + i) 0 [ch] keyNumberStyle := by
    intro i ch hi hlt
    have hwidth : (Rect.inter ⟨0, 0, 79, 1⟩ (Canvas.empty 79 1).area).width = 79 := by decide
    have hfits : numberColumn e ⟨false, false⟩ (slotWidth 79) 2 + i <
        (Rect.inter ⟨0, 0, 79, 1⟩ (Canvas.empty 79 1).area).width := by
      rw [hcolumn, hwidth]
      omega
    have hshows := showsOver_number hc hnarrow hrow hline (by decide) (by decide) hi hfits
    rwa [hcolumn, Nat.zero_add] at hshows
  refine ⟨by decide, by decide +kernel, rfl, ?_, ?_⟩
  · exact hnumber 1 '2' (by decide +kernel) (by decide)
  · intro hshows
    have hblank := hnumber 0 ' ' (by decide +kernel) (by decide)
    cases hblank.symbol_eq hshows

end View

end DasherTerminal
