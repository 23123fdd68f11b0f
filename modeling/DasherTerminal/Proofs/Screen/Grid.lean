import Mathlib.Data.List.Nodup
import DasherTerminal.Screen.Grid

/-!
# Grids position by position

What every grid operation does to the value at a position, and the one table
that holds the rows of a grid one after another.
-/

namespace DasherTerminal.Grid

universe u v w

variable {α : Type u} {β : Type v} {γ : Type w}

theorem HasShape.get?_eq_none {g : Grid α} {width height x y : Nat}
    (h : g.HasShape width height) (hxy : ¬(x < width ∧ y < height)) : g.get? x y = none := by
  have hs := h.get?_isSome (x := x) (y := y)
  rw [← Bool.decide_and, decide_eq_false hxy] at hs
  simpa using hs

theorem HasShape.lt_of_get? {g : Grid α} {width height x y : Nat} {a : α}
    (h : g.HasShape width height) (hget : g.get? x y = some a) : x < width ∧ y < height := by
  by_contra hout
  rw [h.get?_eq_none hout] at hget
  cases hget

theorem HasShape.exists_get? {g : Grid α} {width height x y : Nat}
    (h : g.HasShape width height) (hx : x < width) (hy : y < height) :
    ∃ a, g.get? x y = some a := by
  apply Option.isSome_iff_exists.mp
  simp [h.get?_isSome, hx, hy]

/-- Grids of one shape that agree at every position are equal. -/
theorem HasShape.ext {g g' : Grid α} {width height : Nat} (h : g.HasShape width height)
    (h' : g'.HasShape width height) (heq : ∀ x y, g.get? x y = g'.get? x y) : g = g' := by
  obtain ⟨rows⟩ := g
  obtain ⟨rows'⟩ := g'
  congr 1
  apply Array.ext (h.1.trans h'.1.symm)
  intro y hy hy'
  have hrow := h.2 _ (Array.getElem_mem hy)
  have hrow' := h'.2 _ (Array.getElem_mem hy')
  apply Array.ext (hrow.trans hrow'.symm)
  intro x hx hx'
  have hxy := heq x y
  simpa [get?, hy, hy', hx, hx'] using hxy

theorem HasShape.eq_replicate {g : Grid α} {width height : Nat} {a : α}
    (h : g.HasShape width height)
    (hall : ∀ x y, x < width → y < height → g.get? x y = some a) :
    g = replicate width height a := by
  refine h.ext (hasShape_replicate width height a) ?_
  intro x y
  rw [get?_replicate]
  split
  · next hxy => exact hall x y hxy.1 hxy.2
  · next hxy => exact h.get?_eq_none hxy

theorem get?_fillRight {g : Grid α} {x y : Nat} {a : α} {i j : Nat} :
    (g.fillRight x y a).get? i j =
      if x ≤ i ∧ j = y then (g.get? i j).map fun _ => a else g.get? i j := by
  by_cases hj : j = y
  · subst hj
    cases hr : g.rows[j]? with
    | none => simp [fillRight, get?, Array.getElem?_modify, hr]
    | some row =>
        by_cases hi : x ≤ i
        · cases hb : row[i]? <;>
            simp [fillRight, get?, Array.getElem?_modify, hr, hi, hb]
        · cases hb : row[i]? <;>
            simp [fillRight, get?, Array.getElem?_modify, hr, hi, hb]
  · simp [fillRight, get?, Array.getElem?_modify, hj, Ne.symm hj]

theorem toList_shiftUp (g : Grid α) (width : Nat) (a : α) :
    (g.shiftUp width a).rows.toList = g.rows.toList.tail ++ [Array.replicate width a] := by
  have hkept : g.rows.toList.tail.length ≤ g.rows.size - 1 := by simp
  rw [shiftUp, Array.toList_push, Array.toList_extract, List.extract_eq_take_drop, List.drop_one,
    List.take_of_length_le hkept]

theorem get?_shiftUp {g : Grid α} {width height x y : Nat} {a : α}
    (h : g.HasShape width height) (pos : 0 < height) :
    (g.shiftUp width a).get? x y =
      if y + 1 = height ∧ x < width then some a else g.get? x (y + 1) := by
  have hsize : (g.rows.extract 1).size = height - 1 := by
    simp [h.1]
  have hnone : g.rows[height]? = none := by
    simp [h.1]
  by_cases hy : y + 1 = height
  · have hpush : ((g.rows.extract 1).push (Array.replicate width a))[y]? =
        some (Array.replicate width a) := by
      rw [Array.getElem?_push, if_pos (by omega)]
    by_cases hx : x < width
    · simp [shiftUp, get?, hpush, hy, hx]
    · simp [shiftUp, get?, hpush, hy, hx, hnone]
  · have hpush : ((g.rows.extract 1).push (Array.replicate width a))[y]? = g.rows[y + 1]? := by
      rw [Array.getElem?_push, if_neg (by omega), Array.getElem?_extract]
      split
      · rw [Nat.add_comm]
      · rw [Array.getElem?_eq_none (by omega)]
    simp [shiftUp, get?, hpush, hy]

theorem get?_zipWith {f : α → β → γ} {g : Grid α} {g' : Grid β} {x y : Nat} :
    (g.zipWith f g').get? x y =
      (g.get? x y).bind fun a => (g'.get? x y).map fun b => f a b := by
  cases hr : g.rows[y]? with
  | none => simp [zipWith, get?, Array.getElem?_zipWith, hr]
  | some row =>
      cases hr' : g'.rows[y]? with
      | none =>
          cases hb : row[x]? <;> simp [zipWith, get?, Array.getElem?_zipWith, hr, hr', hb]
      | some row' =>
          cases hb : row[x]? <;> cases hb' : row'[x]? <;>
            simp [zipWith, get?, Array.getElem?_zipWith, hr, hr', hb, hb']

theorem HasShape.zipWith {g : Grid α} {g' : Grid β} {width height : Nat}
    (h : g.HasShape width height) (h' : g'.HasShape width height) (f : α → β → γ) :
    (g.zipWith f g').HasShape width height := by
  refine ⟨by simp [Grid.zipWith, h.1, h'.1], ?_⟩
  intro row hrow
  obtain ⟨y, hy, rfl⟩ := Array.mem_iff_getElem.mp hrow
  simp only [Grid.zipWith, Array.size_zipWith, Nat.lt_min] at hy
  have hw := h.2 _ (Array.getElem_mem hy.1)
  have hw' := h'.2 _ (Array.getElem_mem hy.2)
  simp [Grid.zipWith, hw, hw']

/-! ### Positions -/

/-- The positions of a rectangle, row by row. -/
def positions (width height : Nat) : List (Nat × Nat) :=
  (List.range height).flatMap fun y => (List.range width).map fun x => (x, y)

theorem mem_positions_iff {width height : Nat} {p : Nat × Nat} :
    p ∈ positions width height ↔ p.1 < width ∧ p.2 < height := by
  obtain ⟨x, y⟩ := p
  simp [positions, and_comm]

theorem nodup_positions (width height : Nat) : (positions width height).Nodup := by
  rw [positions, List.nodup_flatMap]
  constructor
  · intro y _
    refine List.Nodup.map ?_ List.nodup_range
    intro x x' hxx
    exact (Prod.mk.inj hxx).1
  · refine List.nodup_range.imp ?_
    intro y y' hne p hp hp'
    simp only [List.mem_map] at hp hp'
    obtain ⟨_, _, rfl⟩ := hp
    obtain ⟨_, _, heq⟩ := hp'
    exact hne (Prod.mk.inj heq).2.symm

/-- The positions a grid holds values at, row by row. -/
def places (g : Grid α) : List (Nat × Nat) :=
  g.rows.toList.zipIdx.flatMap fun row => (List.range row.1.size).map fun x => (x, row.2)

theorem HasShape.lt_of_mem_places {g : Grid α} {width height : Nat} {p : Nat × Nat}
    (h : g.HasShape width height) (hp : p ∈ g.places) : p.1 < width ∧ p.2 < height := by
  obtain ⟨⟨row, y⟩, hrow, hp⟩ := List.mem_flatMap.mp hp
  obtain ⟨x, hx, rfl⟩ := List.mem_map.mp hp
  have hmem := List.fst_mem_of_mem_zipIdx hrow
  have hlt := List.snd_lt_of_mem_zipIdx hrow
  rw [List.mem_range, h.2 row (by simpa using hmem)] at hx
  rw [Array.length_toList, h.1] at hlt
  exact ⟨hx, by simpa using hlt⟩

def paint (g : Grid α) (picture : Nat → Nat → α) (places : List (Nat × Nat)) : Grid α :=
  places.foldl (fun g p => g.set p.1 p.2 (picture p.1 p.2)) g

theorem HasShape.paint {g : Grid α} {width height : Nat} (h : g.HasShape width height)
    (picture : Nat → Nat → α) (places : List (Nat × Nat)) :
    (g.paint picture places).HasShape width height := by
  induction places generalizing g with
  | nil => exact h
  | cons p places ih => exact ih (h.set ..)

theorem get?_paint {g : Grid α} {picture : Nat → Nat → α} {places : List (Nat × Nat)}
    {x y : Nat} :
    (g.paint picture places).get? x y =
      if (x, y) ∈ places then (g.get? x y).map fun _ => picture x y else g.get? x y := by
  induction places generalizing g with
  | nil => simp [paint]
  | cons p places ih =>
      obtain ⟨i, j⟩ := p
      have hstep : (g.paint picture ((i, j) :: places)).get? x y =
          ((g.set i j (picture i j)).paint picture places).get? x y := rfl
      rw [hstep, ih, get?_set]
      by_cases hhead : x = i ∧ y = j
      · obtain ⟨rfl, rfl⟩ := hhead
        cases g.get? x y <;> simp
      · have hne : (x, y) ≠ (i, j) := by simpa using hhead
        simp [hhead, hne]

theorem HasShape.paint_perm {g : Grid α} {width height : Nat} (h : g.HasShape width height)
    {picture : Nat → Nat → α} {places places' : List (Nat × Nat)}
    (hperm : places.Perm places') : g.paint picture places = g.paint picture places' := by
  refine (h.paint picture places).ext (h.paint picture places') ?_
  intro x y
  rw [get?_paint, get?_paint]
  simp only [hperm.mem_iff]

def setAll (g : Grid α) (places : List (Nat × Nat)) (a : α) : Grid α :=
  places.foldl (fun g p => g.set p.1 p.2 a) g

theorem HasShape.setAll {g : Grid α} {width height : Nat} (h : g.HasShape width height)
    (places : List (Nat × Nat)) (a : α) : (g.setAll places a).HasShape width height :=
  h.paint (fun _ _ => a) places

theorem get?_setAll {g : Grid α} {places : List (Nat × Nat)} {a : α} {x y : Nat} :
    (g.setAll places a).get? x y =
      if (x, y) ∈ places then (g.get? x y).map fun _ => a else g.get? x y := by
  have hpaint : (g.paint (fun _ _ => a) places).get? x y = _ := get?_paint
  exact hpaint

/-- Setting a position outside the grid changes nothing. -/
theorem HasShape.set_eq_self {g : Grid α} {width height x y : Nat}
    (h : g.HasShape width height) (hxy : ¬(x < width ∧ y < height)) (a : α) :
    g.set x y a = g := by
  refine (h.set x y a).ext h ?_
  intro i j
  rw [get?_set]
  split
  · next hij =>
      obtain ⟨rfl, rfl⟩ := hij
      rw [h.get?_eq_none hxy]
      rfl
  · rfl

theorem HasShape.setAll_row {g : Grid α} {width height x y : Nat}
    (h : g.HasShape width height) (a : α) :
    g.setAll ((List.range' x (width - x)).map fun i => (i, y)) a = g.fillRight x y a := by
  refine (h.setAll _ a).ext (h.fillRight x y a) ?_
  intro i j
  rw [get?_setAll, get?_fillRight]
  by_cases hi : i < width
  · have hmem : (i, j) ∈ (List.range' x (width - x)).map (fun i => (i, y)) ↔
        x ≤ i ∧ j = y := by
      simp only [List.mem_map, List.mem_range'_1, Prod.mk.injEq]
      constructor
      · rintro ⟨k, hk, rfl, rfl⟩
        exact ⟨hk.1, rfl⟩
      · rintro ⟨hle, rfl⟩
        exact ⟨i, ⟨hle, by omega⟩, rfl, rfl⟩
    simp [hmem]
  · have hnone : g.get? i j = none := h.get?_eq_none fun hij => hi hij.1
    simp [hnone]

theorem HasShape.setAll_positions {g : Grid α} {width height : Nat}
    (h : g.HasShape width height) (a : α) :
    g.setAll (positions width height) a = replicate width height a := by
  refine (h.setAll _ a).ext (hasShape_replicate width height a) ?_
  intro i j
  rw [get?_setAll, get?_replicate]
  by_cases hij : i < width ∧ j < height
  · obtain ⟨b, hb⟩ := h.exists_get? hij.1 hij.2
    simp [mem_positions_iff, hij, hb]
  · simp [h.get?_eq_none hij, hij]

/-! ### One table for all rows -/

/-- The values of a grid in one table, row after row. -/
def flat (g : Grid α) : Array α := g.rows.flatten

theorem length_flatten_of_uniform {rows : List (List α)} {width : Nat}
    (h : ∀ row ∈ rows, row.length = width) : rows.flatten.length = width * rows.length := by
  induction rows with
  | nil => rfl
  | cons row rows ih =>
      have hrow := h row List.mem_cons_self
      have hrest := ih fun r hr => h r (List.mem_cons_of_mem row hr)
      rw [List.flatten_cons, List.length_append, hrow, hrest, List.length_cons, Nat.mul_succ]
      omega

theorem getElem?_flatten_of_uniform {rows : List (List α)} {width x y : Nat}
    (h : ∀ row ∈ rows, row.length = width) (hx : x < width) :
    rows.flatten[y * width + x]? = rows[y]?.bind (·[x]?) := by
  induction rows generalizing y with
  | nil => simp
  | cons row rows ih =>
      have hrow := h row List.mem_cons_self
      cases y with
      | zero => simp [List.getElem?_append, hrow, hx]
      | succ y =>
          have hrest := ih (y := y) fun r hr => h r (List.mem_cons_of_mem row hr)
          have hle : row.length ≤ (y + 1) * width + x := by
            rw [hrow, Nat.succ_mul]
            omega
          have hsub : (y + 1) * width + x - row.length = y * width + x := by
            rw [hrow, Nat.succ_mul]
            omega
          rw [List.flatten_cons, List.getElem?_append_right hle, hsub, hrest]
          simp

theorem HasShape.length_row {g : Grid α} {width height : Nat} (h : g.HasShape width height) :
    ∀ row ∈ g.rows.toList.map Array.toList, row.length = width := by
  intro row hrow
  obtain ⟨r, hr, rfl⟩ := List.mem_map.mp hrow
  simpa using h.2 r (by simpa using hr)

theorem HasShape.size_flat {g : Grid α} {width height : Nat} (h : g.HasShape width height) :
    g.flat.size = width * height := by
  have hlen := length_flatten_of_uniform h.length_row
  rw [← Array.toList_flatten, Array.length_toList, List.length_map, Array.length_toList,
    h.1] at hlen
  exact hlen

/-- The place of column `x` of row `y` in the table. -/
theorem HasShape.getElem?_flat {g : Grid α} {width height x y : Nat}
    (h : g.HasShape width height) (hx : x < width) :
    g.flat[y * width + x]? = g.get? x y := by
  have hat := getElem?_flatten_of_uniform (y := y) h.length_row hx
  rw [← Array.toList_flatten, Array.getElem?_toList] at hat
  rw [flat, hat, get?, List.getElem?_map, Array.getElem?_toList]
  cases g.rows[y]? <;> simp

theorem HasShape.flat_set {g : Grid α} {width height x y : Nat} (h : g.HasShape width height)
    (hx : x < width) (hy : y < height) (a : α) :
    (g.set x y a).flat = g.flat.setIfInBounds (y * width + x) a := by
  apply Array.ext_getElem?
  intro i
  have hcol : i % width < width := Nat.mod_lt i (Nat.zero_lt_of_lt hx)
  have hi : i / width * width + i % width = i := Nat.div_add_mod' i width
  have hset := (h.set x y a).getElem?_flat (y := i / width) hcol
  have hold := h.getElem?_flat (y := i / width) hcol
  rw [hi] at hset hold
  rw [hset, get?_set, Array.getElem?_setIfInBounds]
  by_cases hat : i % width = x ∧ i / width = y
  · obtain ⟨b, hb⟩ := h.exists_get? hx hy
    obtain ⟨rfl, rfl⟩ := hat
    obtain ⟨hsize, -⟩ := Array.getElem?_eq_some_iff.mp (hold.trans hb)
    rw [if_pos ⟨rfl, rfl⟩, if_pos hi, hb, hi, if_pos hsize]
    rfl
  · have hne : y * width + x ≠ i := by
      rintro rfl
      have hwidth : 0 < width := Nat.zero_lt_of_lt hx
      apply hat
      constructor
      · exact Nat.mul_add_mod_of_lt hx
      · rw [Nat.add_comm, Nat.add_mul_div_right _ _ hwidth, Nat.div_eq_of_lt hx, Nat.zero_add]
    rw [if_neg hat, if_neg hne, hold]

end DasherTerminal.Grid
