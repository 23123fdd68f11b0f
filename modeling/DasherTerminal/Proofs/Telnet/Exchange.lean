import DasherTerminal.Telnet.Filter
import Mathlib.Data.List.Infix

/-!
# Two ends that answer each other

The answers of each end are what the other end takes. What is under way is
delivered in pieces of any length, to either end, in any order. What an end has
taken is always a beginning of the same stream, so an exchange with finite
streams has a bounded number of deliveries.
-/

namespace DasherTerminal.Telnet

/-- Two ends, and what is under way to each. -/
structure Exchange where
  near : Phase
  far : Phase
  toNear : List UInt8
  toFar : List UInt8
  deriving DecidableEq, Repr

inductive Side where
  | near
  | far
  deriving DecidableEq, Repr

/-- At most so many bytes are delivered to one end. -/
structure Delivery where
  side : Side
  count : Nat
  deriving DecidableEq, Repr

/-- What the two ends take if all is delivered: some first bytes for each, and
then the answers of the other end. -/
structure Complete (firstNear firstFar near far : List UInt8) : Prop where
  near_eq : near = firstNear ++ (Phase.data.run far).replies
  far_eq : far = firstFar ++ (Phase.data.run near).replies

theorem Complete.swap {firstNear firstFar near far : List UInt8}
    (h : Complete firstNear firstFar near far) : Complete firstFar firstNear far near :=
  ⟨h.far_eq, h.near_eq⟩

namespace Phase

theorem replies_append (p : Phase) (a b : List UInt8) :
    (p.run (a ++ b)).replies = (p.run a).replies ++ ((p.run a).phase.run b).replies := by
  rw [run_append]

theorem phase_append (p : Phase) (a b : List UInt8) :
    (p.run (a ++ b)).phase = ((p.run a).phase.run b).phase := by
  rw [run_append]

/-- More input never takes an answer back. -/
theorem replies_mono (p : Phase) {a b : List UInt8} (h : a <+: b) :
    (p.run a).replies <+: (p.run b).replies := by
  obtain ⟨rest, rfl⟩ := h
  rw [replies_append]
  exact List.prefix_append _ _

end Phase

namespace Exchange

/-- Two new ends, and the first bytes on the way to the near one. -/
def begun (bytes : List UInt8) : Exchange := ⟨.data, .data, bytes, []⟩

def swap (x : Exchange) : Exchange := ⟨x.far, x.near, x.toFar, x.toNear⟩

def IsQuiet (x : Exchange) : Prop := x.toNear = [] ∧ x.toFar = []

/-- A delivery to the near end, unless nothing would be delivered. -/
def deliverNear? (x : Exchange) (count : Nat) : Option Exchange :=
  let piece := x.toNear.take count
  let outcome := x.near.run piece
  if piece = [] then none
  else
    some { x with
      near := outcome.phase
      toNear := x.toNear.drop count
      toFar := x.toFar ++ outcome.replies }

def deliver? (x : Exchange) (d : Delivery) : Option Exchange :=
  match d.side with
  | .near => x.deliverNear? d.count
  | .far => (x.swap.deliverNear? d.count).map swap

def deliverAll? (x : Exchange) : List Delivery → Option Exchange
  | [] => some x
  | d :: ds => (x.deliver? d).bind fun y => y.deliverAll? ds

/-- As long as something is under way it can be delivered. -/
theorem isQuiet_of_deliver?_eq_none {x : Exchange} (h : ∀ d, x.deliver? d = none) :
    x.IsQuiet := by
  constructor
  · have hnear := h ⟨.near, x.toNear.length⟩
    simpa [deliver?, deliverNear?] using hnear
  · have hfar := h ⟨.far, x.toFar.length⟩
    simpa [deliver?, deliverNear?, swap] using hfar

/-- What the two ends have taken so far: both are where this has brought them,
and what came in and was not taken is under way. Whichever streams are complete,
it is a beginning of them. -/
structure Taken (x : Exchange) (firstNear firstFar near far : List UInt8) : Prop where
  near_phase : x.near = (Phase.data.run near).phase
  far_phase : x.far = (Phase.data.run far).phase
  near_append : near ++ x.toNear = firstNear ++ (Phase.data.run far).replies
  far_append : far ++ x.toFar = firstFar ++ (Phase.data.run near).replies
  begins : ∀ {m n : List UInt8}, Complete firstNear firstFar m n → near <+: m ∧ far <+: n

variable {x y : Exchange} {firstNear firstFar bytes near far : List UInt8}

theorem taken_begun (bytes : List UInt8) : (begun bytes).Taken bytes [] [] [] where
  near_phase := rfl
  far_phase := rfl
  near_append := by simp [begun]
  far_append := rfl
  begins _ := ⟨List.nil_prefix, List.nil_prefix⟩

theorem Taken.swap (h : x.Taken firstNear firstFar near far) :
    x.swap.Taken firstFar firstNear far near where
  near_phase := h.far_phase
  far_phase := h.near_phase
  near_append := h.far_append
  far_append := h.near_append
  begins hcomplete := (h.begins hcomplete.swap).symm

/-- A delivery makes what the near end has taken longer. -/
theorem Taken.deliverNear? (h : x.Taken firstNear firstFar near far) {count : Nat}
    (hy : x.deliverNear? count = some y) :
    ∃ piece ≠ [], y.Taken firstNear firstFar (near ++ piece) far := by
  simp only [Exchange.deliverNear?] at hy
  split at hy
  · cases hy
  · next hpiece =>
    obtain rfl := Option.some.inj hy
    have hrest := List.take_append_drop count x.toNear
    refine ⟨x.toNear.take count, hpiece, ?_, h.far_phase, ?_, ?_, ?_⟩
    · rw [Phase.phase_append, ← h.near_phase]
    · rw [List.append_assoc, hrest]
      exact h.near_append
    · rw [Phase.replies_append, ← h.near_phase, ← List.append_assoc, h.far_append,
        List.append_assoc]
    · intro m n hcomplete
      obtain ⟨-, hfar⟩ := h.begins hcomplete
      refine ⟨?_, hfar⟩
      -- What comes in are answers to a beginning of what the far end takes.
      calc near ++ x.toNear.take count
        _ <+: near ++ x.toNear :=
          (List.prefix_append_right_inj near).mpr (List.take_prefix count x.toNear)
        _ = firstNear ++ (Phase.data.run far).replies := h.near_append
        _ <+: firstNear ++ (Phase.data.run n).replies :=
          (List.prefix_append_right_inj firstNear).mpr (Phase.data.replies_mono hfar)
        _ = m := hcomplete.near_eq.symm

theorem Taken.deliver? (h : x.Taken firstNear firstFar near far) {d : Delivery}
    (hd : x.deliver? d = some y) :
    ∃ near' far', y.Taken firstNear firstFar near' far' ∧
      near.length + far.length < near'.length + far'.length := by
  obtain ⟨side, count⟩ := d
  cases side with
  | near =>
      obtain ⟨piece, hpiece, hy⟩ := h.deliverNear? hd
      refine ⟨near ++ piece, far, hy, ?_⟩
      have hlength := List.length_pos_iff.mpr hpiece
      rw [List.length_append]
      omega
  | far =>
      obtain ⟨z, hz, rfl⟩ := Option.map_eq_some_iff.mp hd
      obtain ⟨piece, hpiece, hy⟩ := h.swap.deliverNear? hz
      refine ⟨near, far ++ piece, hy.swap, ?_⟩
      have hlength := List.length_pos_iff.mpr hpiece
      rw [List.length_append]
      omega

theorem Taken.deliverAll? (h : x.Taken firstNear firstFar near far) {ds : List Delivery}
    (hds : x.deliverAll? ds = some y) :
    ∃ near' far', y.Taken firstNear firstFar near' far' ∧
      near.length + far.length + ds.length ≤ near'.length + far'.length := by
  induction ds generalizing x near far with
  | nil =>
      obtain rfl := Option.some.inj hds
      exact ⟨near, far, h, le_rfl⟩
  | cons d ds ih =>
      obtain ⟨z, hd, hds⟩ := Option.bind_eq_some_iff.mp hds
      obtain ⟨near₁, far₁, h₁, hlength₁⟩ := h.deliver? hd
      obtain ⟨near₂, far₂, h₂, hlength₂⟩ := ih h₁ hds
      refine ⟨near₂, far₂, h₂, ?_⟩
      rw [List.length_cons]
      omega

/-- Streams that are complete bound the number of deliveries. -/
theorem length_le_of_complete {ds : List Delivery} (hcomplete : Complete bytes [] near far)
    (hds : (begun bytes).deliverAll? ds = some y) : ds.length ≤ near.length + far.length := by
  obtain ⟨near', far', htaken, hlength⟩ := (taken_begun bytes).deliverAll? hds
  obtain ⟨hnear, hfar⟩ := htaken.begins hcomplete
  have hnear_le := hnear.length_le
  have hfar_le := hfar.length_le
  rw [List.length_nil] at hlength
  omega

/-- If nothing is under way any more, what was taken is complete. -/
theorem complete_of_isQuiet {ds : List Delivery} (hds : (begun bytes).deliverAll? ds = some y)
    (hquiet : y.IsQuiet) : ∃ near far, Complete bytes [] near far := by
  obtain ⟨near, far, htaken, -⟩ := (taken_begun bytes).deliverAll? hds
  refine ⟨near, far, ?_, ?_⟩
  · rw [← htaken.near_append, hquiet.1, List.append_nil]
  · rw [← htaken.far_append, hquiet.2, List.append_nil]

end Exchange

end DasherTerminal.Telnet
