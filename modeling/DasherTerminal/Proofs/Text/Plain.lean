import Mathlib.Algebra.Ring.Nat
import DasherTerminal.Text.Width

/-!
# Plain text

Characters of the seven-bit code from the blank on. Each of them is a cluster of
its own and takes one column, but the last of them is a control character and is
not drawn.
-/

namespace DasherTerminal.Text

/-- A character of the seven-bit code, from the blank to 0x7F. -/
def IsPlain (c : Char) : Prop := 0x20 ≤ c.toNat ∧ c.toNat ≤ 0x7F

instance (c : Char) : Decidable (IsPlain c) := inferInstanceAs (Decidable (_ ∧ _))

variable {c : Char} {cs : List Char}

theorem IsPlain.role (h : IsPlain c) : clusterRole c = .other ∨ clusterRole c = .control := by
  obtain ⟨hlow, hhigh⟩ := h
  by_cases hlast : c.toNat = 0x7F
  · have hc : c = '\x7f' := Char.toNat_inj.mp hlast
    subst hc
    exact .inr (by decide)
  · left
    unfold clusterRole
    rw [if_neg (by omega), if_neg (by omega), if_neg (by omega), if_pos (by omega)]

/-- Nothing that came before joins a plain character to its cluster. -/
structure ClusterState.Separate (s : ClusterState) : Prop where
  last : s.last = .other ∨ s.last = .control
  linked : s.linked = false

theorem ClusterState.Separate.joins {s : ClusterState} (hs : s.Separate) (hc : IsPlain c) :
    s.joins c = false := by
  unfold ClusterState.joins
  rcases hs.last with hlast | hlast <;> rcases hc.role with hrole | hrole <;>
    rw [hlast, hrole]
  simp [hs.linked]

theorem separate_next (s : ClusterState) (hc : IsPlain c) : (s.next c).Separate := by
  refine ⟨hc.role, ?_⟩
  rcases hc.role with hrole | hrole <;> simp [ClusterState.next, hrole]

theorem clustersFrom_of_isPlain {s : ClusterState} (hs : s.Separate) (current : List Char)
    (h : ∀ c ∈ cs, IsPlain c) :
    clustersFrom s current cs = current.reverse :: cs.map fun c => [c] := by
  induction cs generalizing s current with
  | nil => rfl
  | cons c cs ih =>
    have hc := h c List.mem_cons_self
    rw [clustersFrom, hs.joins hc,
      ih (separate_next s hc) [c] fun c' hc' => h c' (List.mem_cons_of_mem c hc')]
    rfl

theorem clusters_of_isPlain (h : ∀ c ∈ cs, IsPlain c) : clusters cs = cs.map fun c => [c] := by
  cases cs with
  | nil => rfl
  | cons c cs =>
    have hc := h c List.mem_cons_self
    exact clustersFrom_of_isPlain (separate_next _ hc) [c] fun c' hc' =>
      h c' (List.mem_cons_of_mem c hc')

/-- The control character among plain ones is dropped, the others are drawn one by
one. -/
theorem drawnClusters_of_isPlain (h : ∀ c ∈ cs, IsPlain c) :
    drawnClusters cs = (cs.filter fun c => !isControl c).map fun c => [c] := by
  rw [drawnClusters, clusters_of_isPlain h, List.filter_map]
  simp [Function.comp_def]

theorem IsPlain.clusterWidth (h : IsPlain c) : clusterWidth [c] = 1 := by
  obtain ⟨hlow, hhigh⟩ := h
  have hvoicing : isHalfwidthVoicing c = false := by
    simp only [isHalfwidthVoicing, Bool.or_eq_false_iff, beq_eq_false_iff_ne]
    omega
  have hfeed : c ≠ '\n' := by
    rintro rfl
    exact absurd hlow (by decide)
  have hwidth : (widthBefore c .none).1 = 1 := by
    simp [widthBefore, WidthContext.asks, hfeed, show c.toNat ≤ 0xA0 by omega]
  simp [Text.clusterWidth, width, widthAndContext, hwidth, hvoicing]

/-- The columns that a text takes when it is drawn. -/
def drawnWidth (cs : List Char) : Nat := ((drawnClusters cs).map clusterWidth).sum

/-- A character that takes one column wherever it stands. -/
def IsGraphic (c : Char) : Prop := IsPlain c ∧ isControl c = false

instance (c : Char) : Decidable (IsGraphic c) := inferInstanceAs (Decidable (_ ∧ _))

theorem isGraphic_of_all (h : cs.all (IsGraphic ·) = true) : ∀ c ∈ cs, IsGraphic c :=
  fun c hc => of_decide_eq_true (List.all_eq_true.mp h c hc)

theorem drawnClusters_of_isGraphic (h : ∀ c ∈ cs, IsGraphic c) :
    drawnClusters cs = cs.map fun c => [c] := by
  rw [drawnClusters_of_isPlain fun c hc => (h c hc).1, List.filter_eq_self.mpr]
  intro c hc
  rw [(h c hc).2]
  rfl

theorem drawnWidth_of_isGraphic (h : ∀ c ∈ cs, IsGraphic c) : drawnWidth cs = cs.length := by
  rw [drawnWidth, drawnClusters_of_isGraphic h]
  induction cs with
  | nil => rfl
  | cons c cs ih =>
    rw [List.map_cons, List.map_cons, List.sum_cons, (h c List.mem_cons_self).1.clusterWidth,
      ih fun c' hc' => h c' (List.mem_cons_of_mem c hc'), List.length_cons, Nat.add_comm]

end DasherTerminal.Text
