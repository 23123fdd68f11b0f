import DasherTerminal.Proofs.Session.Frame

/-!
# What readers look at

With every piece that it has read a reader looks at the flag. The looks of a run
account for all that was read in it: link by link, in order, and with a piece
that comes late as the last of its link.
-/

namespace DasherTerminal

namespace Threads

variable {m m' : Threads}

/-! ### Looks -/

/-- What is seen of the moves that happen, one after another. -/
def seen {α : Type} (see : Threads → Move → Option α) (m : Threads) : List Move → List α
  | [] => []
  | move :: moves =>
    match m.step? move with
    | some m' => (see m move).toList ++ m'.seen see moves
    | none => m.seen see moves

/-- A piece that was read, when the reader looks at the flag. -/
structure Look where
  link : Nat
  target : Option Target
  piece : List UInt8
  /-- The flag was up: the piece came after the request to stop. -/
  late : Bool
  deriving DecidableEq, Repr

def Look.isOnTime (x : Look) : Bool := !x.late

/-- The piece came from a host, and before the request to stop. -/
def Look.isOfHost (x : Look) : Bool := x.target.isSome && x.isOnTime

/-- The piece with which the reader looks at the flag. -/
def ReaderMove.looked? (move : ReaderMove) (hand : Hand) : Option (List UInt8) :=
  match move, hand with
  | .look, .unchecked piece => some piece
  | _, _ => none

def look? (m : Threads) : Move → Option Look
  | .reader move => do
    let l ← m.session.link
    let piece ← move.looked? m.hand
    some ⟨l.number, l.target, piece, l.stopping⟩
  | _ => none

/-- The piece in hand that was read and not looked at. -/
def Hand.fresh : Hand → List UInt8
  | .unchecked piece => piece
  | _ => []

theorem look?_eq_none {move : Move} (hmove : ∀ move', move ≠ .reader move') :
    m.look? move = none := by
  cases move with
  | reader move => exact absurd rfl (hmove move)
  | _ => rfl

theorem look?_reader {l : Link} (hlink : m.session.link = some l) (move : ReaderMove) :
    m.look? (.reader move) =
      (move.looked? m.hand).map fun piece => ⟨l.number, l.target, piece, l.stopping⟩ := by
  rw [look?, hlink]
  cases move.looked? m.hand with
  | none => rfl
  | some piece => rfl

/-- A piece that is read is in hand until the reader looks at the flag. -/
theorem Reading.Moves.read_eq {r r' : Reading} {move : ReaderMove} (h : r.Moves move r') :
    ∃ new, r'.account.delivered = r.account.delivered ++ new ∧
      r.hand.fresh ++ new = (move.looked? r.hand).getD [] ++ r'.hand.fresh := by
  cases h with
  | read hand => exact ⟨_, rfl, by simp [hand, ReaderMove.looked?, Hand.fresh]⟩
  | retry => exact ⟨[], by simp, by simp [ReaderMove.looked?]⟩
  | finish => exact ⟨[], by simp, by simp [ReaderMove.looked?]⟩
  | discard hand => exact ⟨[], by simp, by simp [hand, ReaderMove.looked?, Hand.fresh]⟩
  | accept hand => exact ⟨[], by simp, by simp [hand, ReaderMove.looked?, Hand.fresh]⟩
  | drop hand => exact ⟨[], by simp, by simp [hand, ReaderMove.looked?]⟩
  | take hand => exact ⟨[], by simp, by simp [hand, ReaderMove.looked?, Hand.fresh]⟩
  | copy hand => exact ⟨[], by simp, by simp [hand, ReaderMove.looked?, Hand.fresh]⟩
  | process hand => exact ⟨[], by simp, by simp [hand, ReaderMove.looked?, Hand.fresh]⟩

/-- A reader that finds the flag up with a piece in hand ends. -/
theorem Reading.Moves.finished_of_late {r r' : Reading} {move : ReaderMove} {piece : List UInt8}
    (h : r.Moves move r') (hlooked : move.looked? r.hand = some piece)
    (hflag : r.link.stopping = true) : r'.link.finished = true := by
  cases h with
  | discard => rfl
  | accept hand flag =>
      rw [hflag] at flag
      cases flag
  | drop hand => simp [hand, ReaderMove.looked?] at hlooked
  | take hand => simp [hand, ReaderMove.looked?] at hlooked
  | _ => cases hlooked

theorem Reading.Moves.target_eq {r r' : Reading} {move : ReaderMove} (h : r.Moves move r') :
    r'.link.target = r.link.target ∧ r'.account.target = r.account.target := by
  cases h <;> exact ⟨rfl, rfl⟩

/-! ### What was read -/

/-- What the reader of a link was given. -/
def delivered (m : Threads) (i : Nat) : List UInt8 :=
  (m.accounts[i]?.map Account.delivered).getD []

/-- What of that was not looked at. -/
def pending (m : Threads) (i : Nat) : List UInt8 :=
  if i = m.closed.length then m.hand.fresh else []

def lookedAt (looks : List Look) (i : Nat) : List UInt8 :=
  (looks.filter (·.link = i)).flatMap Look.piece

/-- Links are used one after another, and what comes late is the last of its
link. -/
def Look.Before (x y : Look) : Prop := x.link < y.link ∨ x.link = y.link ∧ x.late = false

instance (x y : Look) : Decidable (x.Before y) := inferInstanceAs (Decidable (_ ∨ _))

theorem lookedAt_append (a b : List Look) (i : Nat) :
    lookedAt (a ++ b) i = lookedAt a i ++ lookedAt b i := by
  simp [lookedAt]

theorem delivered_eq (m : Threads) (i : Nat) :
    m.delivered i =
      if i = m.closed.length then m.current.delivered
      else (m.closed[i]?.map Account.delivered).getD [] := by
  rw [delivered, accounts]
  split
  · next hi => simp [hi]
  · next hi =>
      rcases Nat.lt_or_gt_of_ne hi with hlt | hgt
      · rw [List.getElem?_append_left hlt]
      · have hlength : (m.closed ++ [m.current]).length ≤ i := by
          rw [List.length_append, List.length_singleton]
          exact hgt
        rw [List.getElem?_eq_none hlength, List.getElem?_eq_none (Nat.le_of_lt hgt)]

theorem delivered_startLink (m : Threads) (e : Errand) (i : Nat) :
    (m.startLink e).delivered i = m.delivered i := by
  have haccounts : (m.startLink e).accounts = m.accounts ++ [.fresh e.target?] := rfl
  rw [delivered, delivered, haccounts]
  rcases Nat.lt_or_ge i m.accounts.length with hlt | hge
  · rw [List.getElem?_append_left hlt]
  · rw [List.getElem?_eq_none hge, List.getElem?_append_right hge]
    cases i - m.accounts.length with
    | zero => rfl
    | succ k => rfl

/-- The looks of a run account for what was delivered in it. -/
structure Tally (base m : Threads) (looks : List Look) : Prop where
  aimed : ∀ l, m.session.link = some l → l.target = m.current.target
  delivered : ∀ i, ∃ new, m.delivered i = base.delivered i ++ new ∧
    base.pending i ++ new = lookedAt looks i ++ m.pending i
  target : ∀ x ∈ looks, (m.accounts.map Account.target)[x.link]? = some x.target
  ordered : looks.Pairwise Look.Before
  late : ∀ x ∈ looks, x.late = true → ∀ l, m.session.link = some l → x.link = l.number →
    l.finished = true

theorem Tally.refl (haimed : ∀ l, m.session.link = some l → l.target = m.current.target) :
    m.Tally m [] := by
  refine ⟨haimed, fun i => ⟨[], ?_, ?_⟩, ?_, .nil, ?_⟩
  · exact (List.append_nil _).symm
  · exact List.append_nil _
  · intro x hx
    cases hx
  · intro x hx
    cases hx

variable {terminal : Terminal} {base : Threads} {looks : List Look}

theorem Orderly.number_eq (h : m.Orderly terminal) {l : Link} (hlink : m.session.link = some l) :
    l.number = m.closed.length := by
  have hopened := h.opened
  have hnumber := h.number l hlink
  rw [accounts, List.length_append, List.length_singleton] at hopened
  omega

theorem Tally.startLink (h : base.Tally m looks) (horderly : m.Orderly terminal) {e : Errand}
    (htask : m.task = .starting e) : base.Tally (m.startLink e) looks := by
  have hlink : m.session.link = none := horderly.informed.starting e htask
  have hhand : m.hand = .empty := horderly.hand hlink
  have hlink' : (m.startLink e).session.link = some (.fresh m.session.opened e.target?) := rfl
  have hlength : m.accounts.length = m.session.opened := horderly.opened
  refine ⟨?_, ?_, ?_, h.ordered, ?_⟩
  · intro l hl
    obtain rfl := Option.some.inj (hlink'.symm.trans hl)
    rfl
  · intro i
    obtain ⟨new, hdelivered, hlooked⟩ := h.delivered i
    have hpending : (m.startLink e).pending i = m.pending i := by
      simp [pending, Threads.startLink, hhand, Hand.fresh]
    rw [delivered_startLink, hpending]
    exact ⟨new, hdelivered, hlooked⟩
  · intro x hx
    have htarget := h.target x hx
    have haccounts : (m.startLink e).accounts = m.accounts ++ [.fresh e.target?] := rfl
    rw [haccounts, List.map_append]
    exact List.getElem?_append_left (List.getElem?_eq_some_iff.mp htarget).1 ▸ htarget
  · -- The new link has a number that no look had.
    intro x hx hlate l hl hnumber
    obtain rfl := Option.some.inj (hlink'.symm.trans hl)
    have hbound := (List.getElem?_eq_some_iff.mp (h.target x hx)).1
    rw [List.length_map, hlength] at hbound
    exact absurd hnumber (Nat.ne_of_lt hbound)

theorem Tally.rests (h : base.Tally m looks) (horderly : m.Orderly terminal) (hrests : m.Rests m') :
    base.Tally m' looks := by
  cases hrests with
  | startLink htask => exact h.startLink horderly htask
  | keep hand closed target delivered link =>
      refine ⟨?_, ?_, ?_, h.ordered, ?_⟩
      · intro l' hl'
        obtain ⟨l, hl, -, htarget, -⟩ := link l' hl'
        rw [htarget, target]
        exact h.aimed l hl
      · intro i
        have hdelivered : m'.delivered i = m.delivered i := by
          rw [delivered_eq, delivered_eq, closed, delivered]
        have hpending : m'.pending i = m.pending i := by rw [pending, pending, closed, hand]
        rw [hdelivered, hpending]
        exact h.delivered i
      · have haccounts : m'.accounts.map Account.target = m.accounts.map Account.target := by
          simp [accounts, closed, target]
        rw [haccounts]
        exact h.target
      · intro x hx hlate l' hl' hnumber
        obtain ⟨l, hl, hsame, -, hfinished⟩ := link l' hl'
        rw [hfinished]
        exact h.late x hx hlate l hl (hnumber.trans hsame)

/-- What a move of the reader adds to what was delivered and to what was looked
at. -/
theorem Tally.delivered_reader (h : base.Tally m looks) {l : Link} {r : Reading}
    {move : ReaderMove} (hlink : m.session.link = some l) (hnumber : l.number = m.closed.length)
    (hmoves : Reading.Moves ⟨l, m.hand, m.current⟩ move r) (hhand : m'.hand = r.hand)
    (hcurrent : m'.current = r.account) (hclosed : m'.closed = m.closed) (i : Nat) :
    ∃ new, m'.delivered i = base.delivered i ++ new ∧
      base.pending i ++ new =
        lookedAt (looks ++ (m.look? (.reader move)).toList) i ++ m'.pending i := by
  obtain ⟨new, hdelivered, hlooked⟩ := h.delivered i
  obtain ⟨read, hread, hfresh⟩ := hmoves.read_eq
  have hlook : lookedAt (m.look? (.reader move)).toList i =
      if i = m.closed.length then (move.looked? m.hand).getD [] else [] := by
    rw [look?_reader hlink]
    cases move.looked? m.hand with
    | none => simp [lookedAt]
    | some piece => by_cases hi : m.closed.length = i <;> simp [lookedAt, hnumber, hi, Ne.symm]
  by_cases hi : i = m.closed.length
  · refine ⟨new ++ read, ?_, ?_⟩
    · have hbefore : m.delivered i = m.current.delivered := by rw [delivered_eq, if_pos hi]
      have hafter : m'.delivered i = r.account.delivered := by
        rw [delivered_eq, hclosed, if_pos hi, hcurrent]
      rw [hafter, hread, ← hbefore, hdelivered, List.append_assoc]
    · have hbefore : m.pending i = m.hand.fresh := by rw [pending, if_pos hi]
      have hafter : m'.pending i = r.hand.fresh := by rw [pending, hclosed, if_pos hi, hhand]
      calc base.pending i ++ (new ++ read)
          = lookedAt looks i ++ (m.hand.fresh ++ read) := by
            rw [← List.append_assoc, hlooked, hbefore, List.append_assoc]
        _ = lookedAt looks i ++ ((move.looked? m.hand).getD [] ++ r.hand.fresh) := by rw [hfresh]
        _ = lookedAt (looks ++ (m.look? (.reader move)).toList) i ++ m'.pending i := by
            rw [lookedAt_append, hlook, if_pos hi, hafter, List.append_assoc]
  · -- The link is not the one in use.
    have hsame : m'.delivered i = m.delivered i := by
      rw [delivered_eq, delivered_eq, hclosed, if_neg hi, if_neg hi]
    have hpending : m'.pending i = m.pending i := by
      rw [pending, pending, hclosed, if_neg hi, if_neg hi]
    rw [hsame, hpending, lookedAt_append, hlook, if_neg hi, List.append_nil]
    exact ⟨new, hdelivered, hlooked⟩

theorem of_mem_look? {l : Link} {r : Reading} {move : ReaderMove} {x : Look}
    (hlink : m.session.link = some l) (hmoves : Reading.Moves ⟨l, m.hand, m.current⟩ move r)
    (hx : x ∈ (m.look? (.reader move)).toList) :
    x.link = l.number ∧ x.target = l.target ∧ (x.late = true → r.link.finished = true) := by
  rw [look?_reader hlink, Option.mem_toList, Option.map_eq_some_iff] at hx
  obtain ⟨piece, hlooked, rfl⟩ := hx
  exact ⟨rfl, rfl, hmoves.finished_of_late hlooked⟩

theorem Tally.link_le (h : base.Tally m looks) {x : Look} (hx : x ∈ looks) :
    x.link ≤ m.closed.length := by
  have hbound := (List.getElem?_eq_some_iff.mp (h.target x hx)).1
  rw [List.length_map, accounts, List.length_append, List.length_singleton] at hbound
  exact Nat.le_of_lt_succ hbound

/-- No look at the link of a reader that is at work came late. -/
theorem Tally.onTime (h : base.Tally m looks) {l : Link} (hlink : m.session.link = some l)
    (hrunning : l.finished = false) {x : Look} (hx : x ∈ looks) (hxlink : x.link = l.number) :
    x.late = false := by
  refine Bool.eq_false_iff.mpr fun hlate => ?_
  have hfinished := h.late x hx hlate l hlink hxlink
  rw [hrunning] at hfinished
  cases hfinished

theorem Tally.reader (h : base.Tally m looks) (horderly : m.Orderly terminal) {move : ReaderMove}
    (hstep : m.step? (.reader move) = some m') :
    base.Tally m' (looks ++ (m.look? (.reader move)).toList) := by
  obtain ⟨l, r, hlink, hrunning, hmoves, hlink', hhand, hcurrent, hclosed⟩ := reader_of_step? hstep
  have hnumber : l.number = m.closed.length := horderly.number_eq hlink
  obtain ⟨htarget, haccount⟩ := hmoves.target_eq
  obtain ⟨hnumber', -⟩ := hmoves.frame
  have haccounts : m'.accounts.map Account.target = m.accounts.map Account.target := by
    simp [accounts, hclosed, hcurrent, haccount]
  refine ⟨?_, h.delivered_reader hlink hnumber hmoves hhand hcurrent hclosed, ?_, ?_, ?_⟩
  · intro k hk
    obtain rfl := Option.some.inj (hlink'.symm.trans hk)
    rw [htarget, hcurrent, haccount]
    exact h.aimed l hlink
  · intro x hx
    rw [haccounts]
    rcases List.mem_append.mp hx with hold | hnew
    · exact h.target x hold
    · obtain ⟨hxlink, hxtarget, -⟩ := of_mem_look? hlink hmoves hnew
      rw [hxlink, hxtarget, hnumber, h.aimed l hlink]
      simp [accounts]
  · rw [List.pairwise_append]
    refine ⟨h.ordered, ?_, ?_⟩
    · cases m.look? (.reader move) with
      | none => exact .nil
      | some x => exact List.pairwise_singleton _ x
    · intro x hx y hy
      obtain ⟨hylink, -, -⟩ := of_mem_look? hlink hmoves hy
      rw [Look.Before, hylink]
      rcases Nat.lt_or_eq_of_le (hnumber ▸ h.link_le hx) with hlt | heq
      · exact .inl hlt
      · exact .inr ⟨heq, h.onTime hlink hrunning hx heq⟩
  · intro x hx hlate k hk hxlink
    obtain rfl := Option.some.inj (hlink'.symm.trans hk)
    rcases List.mem_append.mp hx with hold | hnew
    · have hnot := h.onTime hlink hrunning hold (hxlink.trans hnumber')
      rw [hlate] at hnot
      cases hnot
    · exact (of_mem_look? hlink hmoves hnew).2.2 hlate

theorem Tally.step? (h : base.Tally m looks) (horderly : m.Orderly terminal) {move : Move}
    (hstep : m.step? move = some m') : base.Tally m' (looks ++ (m.look? move).toList) := by
  by_cases hmove : ∃ move', move = .reader move'
  · obtain ⟨move', rfl⟩ := hmove
    exact h.reader horderly hstep
  · have hother : ∀ move', move ≠ .reader move' := fun move' he => hmove ⟨move', he⟩
    rw [look?_eq_none hother, Option.toList_none, List.append_nil]
    exact h.rests horderly (rests_step? hstep hother)

theorem Tally.run (h : base.Tally m looks) (horderly : m.Orderly terminal) (moves : List Move) :
    base.Tally (m.run moves) (looks ++ m.seen look? moves) := by
  induction moves generalizing m looks with
  | nil => exact (List.append_nil looks).symm ▸ h
  | cons move moves ih =>
      rw [run_cons, next, seen]
      cases hstep : m.step? move with
      | none => exact ih h horderly
      | some m' =>
          have horderly' := (horderly.steps (steps_step? hstep)).orderly
          have h' := ih (h.step? horderly hstep) horderly'
          rw [List.append_assoc] at h'
          exact h'

theorem tally_start (terminal : Terminal) (encoder : Encoder) (files : Files) :
    (start terminal encoder files).Tally (start terminal encoder files) [] := by
  refine .refl ?_
  intro l hl
  obtain rfl : Link.fresh 0 none = l := Option.some.inj hl
  rfl

end Threads

end DasherTerminal
