import Mathlib.Data.List.Forall2
import DasherTerminal.Telnet.Reader
import DasherTerminal.Proofs.Terminal.Feed

/-!
# Delivery of a telnet host's data

However the socket cuts the host's stream, and however much is read at a time,
the reads give the data of one run of the filter over the whole stream, and its
answers are written. A read gives nothing only when nothing is left to give.
-/

namespace DasherTerminal.Telnet

namespace Reader

/-- What the filter will make of all that the socket has still to bring. -/
def rest (r : Reader) : Outcome := r.phase.run (r.arrivals.flatMap Arrival.raw)

/-- The data that reads have still to give. -/
def owed (r : Reader) : List UInt8 := r.pending ++ r.rest.data

/-- The host takes answers whenever there are any. -/
def Answerable (r : Reader) : Prop := ∀ a ∈ r.arrivals, a.answerable = true

/-- Reads with buffers of the given sizes, one after another. -/
def reads (r : Reader) : List Nat → List (Option (List UInt8)) × Reader
  | [] => ([], r)
  | n :: sizes =>
    let (piece, r) := r.read n
    let (pieces, r) := r.reads sizes
    (piece :: pieces, r)

variable {r : Reader}

theorem receive_of_answerable {a : Arrival} (ha : a.answerable = true) (rest : List Arrival) :
    r.receive a rest =
      (true, ⟨(r.phase.run a.raw).phase, (r.phase.run a.raw).data, rest,
        r.answered ++ (r.phase.run a.raw).replies⟩) := by
  unfold receive
  by_cases hnone : (r.phase.run a.raw).replies = []
  · simp [hnone]
  · simp [hnone, ha]

/-- What a reader becomes without a loss when it gives some data. -/
structure Continues (r r' : Reader) (given : List UInt8) : Prop where
  owed : r.owed = given ++ r'.owed
  /-- What was answered and what will be answered are the same in sum. -/
  answered : r.answered ++ r.rest.replies = r'.answered ++ r'.rest.replies
  arrivals : r'.arrivals <:+ r.arrivals

theorem Continues.trans {r' r'' : Reader} {a b : List UInt8} (h : r.Continues r' a)
    (h' : r'.Continues r'' b) : r.Continues r'' (a ++ b) := by
  refine ⟨?_, h.answered.trans h'.answered, h'.arrivals.trans h.arrivals⟩
  rw [h.owed, h'.owed, List.append_assoc]

theorem Answerable.continues {r' : Reader} {given : List UInt8} (hanswerable : r.Answerable)
    (h : r.Continues r' given) : r'.Answerable :=
  fun a ha => hanswerable a (h.arrivals.subset ha)

/-- Nothing is left, neither in the reader nor in the socket. -/
def Exhausted (r : Reader) : Prop := r.arrivals = [] ∧ r.pending = []

theorem Exhausted.owed_eq_nil (h : r.Exhausted) : r.owed = [] := by
  simp [Reader.owed, Reader.rest, h.1, h.2]

theorem Exhausted.continues {r' : Reader} {given : List UInt8} (h : r.Exhausted)
    (hcontinues : r.Continues r' given) : r'.Exhausted := by
  have harrivals : r'.arrivals = [] := List.suffix_nil.mp (h.1 ▸ hcontinues.arrivals)
  have hsum : [] = given ++ r'.owed := h.owed_eq_nil ▸ hcontinues.owed
  have howed : r'.pending ++ r'.rest.data = [] := (List.append_eq_nil_iff.mp hsum.symm).2
  exact ⟨harrivals, (List.append_eq_nil_iff.mp howed).1⟩

/-- Arrivals that hold nothing but commands are read over. -/
theorem continues_fill (hpending : r.pending = []) {arrivals : List Arrival}
    (hr : r.arrivals = arrivals) (hanswerable : r.Answerable) :
    ∃ r', r.fill arrivals = (true, r') ∧ r.Continues r' [] ∧
      (r'.pending = [] → r'.arrivals = []) := by
  -- The reader only goes on to the next arrival with nothing pending, so that is kept.
  induction arrivals generalizing r with
  | nil =>
      refine ⟨{ r with arrivals := [] }, rfl, ⟨?_, ?_, List.nil_suffix⟩, fun _ => rfl⟩
      · simp [Reader.owed, Reader.rest, hr]
      · simp [Reader.rest, hr]
  | cons a arrivals ih =>
      have ha : a.answerable = true := hanswerable a (by simp [hr])
      obtain ⟨next, hreceive, hnext⟩ : ∃ next, r.receive a arrivals = (true, next) ∧
          next = ⟨(r.phase.run a.raw).phase, (r.phase.run a.raw).data, arrivals,
            r.answered ++ (r.phase.run a.raw).replies⟩ :=
        ⟨_, receive_of_answerable ha arrivals, rfl⟩
      have harrivals : next.arrivals = arrivals := by rw [hnext]
      have hcontinues : r.Continues next [] := by
        refine ⟨?_, ?_, ?_⟩
        · simp [Reader.owed, Reader.rest, hr, hpending, hnext, Phase.run_append]
        · simp [Reader.rest, hr, hnext, Phase.run_append]
        · rw [harrivals, hr]
          exact List.suffix_cons a arrivals
      rw [fill, hreceive]
      by_cases hempty : next.pending = []
      · obtain ⟨r', hfill, hcontinues', hlast⟩ :=
          ih hempty harrivals (hanswerable.continues hcontinues)
        refine ⟨r', ?_, hcontinues.trans hcontinues', hlast⟩
        simp only [hempty, List.isEmpty_nil, if_true, hfill]
      · refine ⟨next, ?_, hcontinues, fun h => absurd h hempty⟩
        simp [hempty]

/-- A read gives the next data, and gives nothing only when all was given. -/
theorem continues_read (hanswerable : r.Answerable) {n : Nat} (hn : 0 < n) :
    ∃ piece r', r.read n = (some piece, r') ∧ r.Continues r' piece ∧ piece.length ≤ n ∧
      (piece = [] → r'.Exhausted) := by
  have hn0 : n ≠ 0 := Nat.pos_iff_ne_zero.mp hn
  obtain ⟨s, hs, hcontinues, hlast⟩ :
      ∃ s, (if r.pending.isEmpty then r.fill r.arrivals else (true, r)) = (true, s) ∧
        r.Continues s [] ∧ (s.pending = [] → s.arrivals = []) := by
    by_cases hpending : r.pending = []
    · obtain ⟨s, hs, hcontinues, hlast⟩ := continues_fill hpending rfl hanswerable
      exact ⟨s, by simp [hpending, hs], hcontinues, hlast⟩
    · exact ⟨r, by simp [hpending], ⟨rfl, rfl, List.suffix_rfl⟩, fun h => absurd h hpending⟩
  have htake : s.Continues { s with pending := s.pending.drop n } (s.pending.take n) := by
    refine ⟨?_, rfl, List.suffix_rfl⟩
    simp [Reader.owed, Reader.rest, ← List.append_assoc]
  refine ⟨s.pending.take n, { s with pending := s.pending.drop n }, ?_, hcontinues.trans htake,
    List.length_take_le n s.pending, ?_⟩
  · rw [read, if_neg hn0, hs]
  · intro hnone
    have hpending : s.pending = [] := (List.take_eq_nil_iff.mp hnone).resolve_left hn0
    exact ⟨hlast hpending, by simp [hpending]⟩

/-- Any number of reads: none fails, nothing is lost, and one that gives nothing
has nothing after it. -/
theorem continues_reads (hanswerable : r.Answerable) {sizes : List Nat}
    (hsizes : ∀ n ∈ sizes, 0 < n) :
    ∃ pieces r', r.reads sizes = (pieces.map some, r') ∧ r.Continues r' pieces.flatten ∧
      List.Forall₂ (fun piece n => piece.length ≤ n) pieces sizes ∧
      (∀ before after, pieces = before ++ [] :: after →
        before.flatten = r.owed ∧ r'.Exhausted) ∧
      (r.owed.length < sizes.length → [] ∈ pieces) := by
  induction sizes generalizing r with
  | nil =>
      refine ⟨[], r, rfl, ⟨rfl, rfl, List.suffix_rfl⟩, .nil, ?_, fun h => absurd h (by simp)⟩
      intro before after h
      simp at h
  | cons n sizes ih =>
      obtain ⟨piece, next, hread, hnext, hlength, hnone⟩ :=
        continues_read hanswerable (hsizes n List.mem_cons_self)
      obtain ⟨pieces, r', hreads, hrest, hlengths, hlast, hprogress⟩ :=
        ih (hanswerable.continues hnext) fun m hm => hsizes m (List.mem_cons_of_mem n hm)
      refine ⟨piece :: pieces, r', ?_, hnext.trans hrest, .cons hlength hlengths, ?_, ?_⟩
      · simp [reads, hread, hreads]
      · intro before after hsplit
        cases before with
        | nil =>
            obtain ⟨rfl, -⟩ := List.cons.inj hsplit
            have hexhausted : next.Exhausted := hnone rfl
            refine ⟨?_, hexhausted.continues hrest⟩
            rw [hnext.owed, hexhausted.owed_eq_nil]
            rfl
        | cons first before =>
            obtain ⟨rfl, hrestSplit⟩ := List.cons.inj hsplit
            obtain ⟨hflatten, hexhausted⟩ := hlast before after hrestSplit
            refine ⟨?_, hexhausted⟩
            rw [List.flatten_cons, hflatten, hnext.owed]
      · intro hlong
        cases piece with
        | nil => exact List.mem_cons_self
        | cons b piece =>
            refine List.mem_cons_of_mem _ (hprogress ?_)
            have howed := congrArg List.length hnext.owed
            simp only [List.length_append, List.length_cons] at howed hlong
            omega

/-- Reads of any sizes give the data of one run of the filter, and its answers
are written. The one that gives nothing comes when all data was given, and not
later than after as many reads as there are bytes. A terminal that is fed what
was read is in the state that all the data brings it to at once. -/
theorem reads_eq_run (arrivals : List Arrival)
    (harrivals : ∀ a ∈ arrivals,
      1 ≤ a.raw.length ∧ a.raw.length ≤ socketRead ∧ a.answerable = true)
    (sizes : List Nat) (hsizes : ∀ n ∈ sizes, 0 < n) (t : Terminal) :
    let whole := Phase.data.run (arrivals.flatMap Arrival.raw)
    ∃ (pieces : List (List UInt8)) (r : Reader),
      (Reader.fresh arrivals).reads sizes = (pieces.map some, r) ∧
      List.Forall₂ (fun piece n => piece.length ≤ n) pieces sizes ∧
      pieces.flatten <+: whole.data ∧ r.answered <+: whole.replies ∧
      (∀ before after, pieces = before ++ [] :: after →
        before.flatten = whole.data ∧ pieces.flatten = whole.data ∧
          r.answered = whole.replies ∧ r.arrivals = [] ∧ r.pending = [] ∧
          pieces.foldl (Terminal.feed false) t = t.process whole.data) ∧
      (whole.data.length < sizes.length → [] ∈ pieces) ∧
      pieces.foldl (Terminal.feed false) t = t.process pieces.flatten := by
  intro whole
  have hanswerable : (Reader.fresh arrivals).Answerable := fun a ha => (harrivals a ha).2.2
  have howed : (Reader.fresh arrivals).owed = whole.data := rfl
  obtain ⟨pieces, r, hreads, hcontinues, hlengths, hlast, hprogress⟩ :=
    continues_reads hanswerable hsizes
  have hdata : whole.data = pieces.flatten ++ r.owed := howed ▸ hcontinues.owed
  have hreplies : whole.replies = r.answered ++ r.rest.replies := hcontinues.answered
  refine ⟨pieces, r, hreads, hlengths, ⟨r.owed, hdata.symm⟩, ⟨r.rest.replies, hreplies.symm⟩,
    ?_, hprogress, t.foldl_feed pieces⟩
  intro before after hsplit
  obtain ⟨hbefore, hexhausted⟩ := hlast before after hsplit
  have hnodata : r.owed = [] := hexhausted.owed_eq_nil
  have hnoreplies : r.rest.replies = [] := by simp [Reader.rest, hexhausted.1]
  rw [hnodata, List.append_nil] at hdata
  rw [hnoreplies, List.append_nil] at hreplies
  refine ⟨hbefore, hdata.symm, hreplies.symm, hexhausted.1, hexhausted.2, ?_⟩
  rw [t.foldl_feed, hdata]

/-- The socket brings a request alone, then a command cut in two; the reads take
two bytes each. -/
theorem reads_eq_run_cut :
    let arrivals : List Arrival :=
      [⟨[255, 251, 1], true⟩, ⟨[0x41, 0x42, 0x43, 255], true⟩, ⟨[255], true⟩]
    ∃ (pieces : List (List UInt8)) (r : Reader),
      (Reader.fresh arrivals).reads [2, 2, 2, 2, 2] = (pieces.map some, r) ∧
      pieces.flatten = [0x41, 0x42, 0x43, 255] ∧ r.answered = [255, 253, 1] := by
  intro arrivals
  have harrivals : ∀ a ∈ arrivals,
      1 ≤ a.raw.length ∧ a.raw.length ≤ socketRead ∧ a.answerable = true := by decide
  obtain ⟨pieces, r, hreads, _, _, _, hlast, hprogress, _⟩ :=
    reads_eq_run arrivals harrivals [2, 2, 2, 2, 2] (by decide) (.fresh .default)
  obtain ⟨before, after, hsplit⟩ := List.append_of_mem (hprogress (by decide))
  obtain ⟨_, hdata, hreplies, _⟩ := hlast before after hsplit
  refine ⟨pieces, r, hreads, ?_, ?_⟩
  · rw [hdata]
    decide
  · rw [hreplies]
    decide

end Reader

end DasherTerminal.Telnet
