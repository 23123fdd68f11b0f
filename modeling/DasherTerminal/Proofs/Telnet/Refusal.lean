import DasherTerminal.Proofs.Telnet.Delivery

/-!
# When a host takes no answers

A host that has gone still takes no answers, and a read fails if one of its
requests cannot be answered. Then everything that came before with other
arrivals has been given, but the data that came with that request has not: it
stays in the reader, and who reads no further never gets it.
-/

namespace DasherTerminal.Telnet

/-- What the filter makes of arrivals one after another. -/
def outcome (arrivals : List Arrival) : Outcome := Phase.data.run (arrivals.flatMap Arrival.raw)

/-- What the filter makes of an arrival that comes after others. -/
def outcomeAfter (earlier : List Arrival) (a : Arrival) : Outcome :=
  (outcome earlier).phase.run a.raw

theorem outcome_concat (earlier : List Arrival) (a : Arrival) :
    outcome (earlier ++ [a]) =
      ⟨(outcomeAfter earlier a).phase, (outcome earlier).data ++ (outcomeAfter earlier a).data,
        (outcome earlier).replies ++ (outcomeAfter earlier a).replies⟩ := by
  simp [outcome, outcomeAfter, Phase.run_append]

theorem data_outcome_prefix (a b : List Arrival) :
    (outcome a).data <+: (outcome (a ++ b)).data := by
  rw [outcome, outcome, List.flatMap_append, Phase.run_append]
  exact List.prefix_append _ _

/-- An arrival asks for an answer that the host does not take. -/
def Refused (earlier : List Arrival) (a : Arrival) : Prop :=
  (outcomeAfter earlier a).replies ≠ [] ∧ a.answerable = false

/-- Whatever answers arrivals asked for were taken. -/
def Answered (taken : List Arrival) : Prop :=
  ∀ before a after, taken = before ++ a :: after → ¬Refused before a

theorem answered_nil : Answered [] := by
  intro before a after h
  simp at h

theorem Answered.concat {taken : List Arrival} (h : Answered taken) {a : Arrival}
    (ha : ¬Refused taken a) : Answered (taken ++ [a]) := by
  intro before b after hsplit
  rcases List.eq_nil_or_concat after with rfl | ⟨rest, last, rfl⟩
  · obtain ⟨rfl, hlast⟩ := List.append_inj' hsplit rfl
    obtain rfl := List.singleton_inj.mp hlast
    exact ha
  · rw [List.concat_eq_append, ← List.cons_append, ← List.append_assoc] at hsplit
    exact h before b rest (List.append_inj' hsplit rfl).1

namespace Reader

/-- Reads with buffers of the given sizes up to the first that fails: what they
gave, and whether none did. -/
def readsUntil (r : Reader) : List Nat → List (List UInt8) × Bool × Reader
  | [] => ([], true, r)
  | n :: sizes =>
    match r.read n with
    | (none, r) => ([], false, r)
    | (some piece, r) =>
      let (pieces, ok, r) := r.readsUntil sizes
      (piece :: pieces, ok, r)

/-- No read has failed: the reader has taken arrivals from the socket and given
data. -/
structure Stands (taken : List Arrival) (given : List UInt8) (r : Reader) : Prop where
  answered : Answered taken
  phase : r.phase = (outcome taken).phase
  data : (outcome taken).data = given ++ r.pending

/-- The last of the arrivals was refused an answer, and its data is still there. -/
def Stopped (taken : List Arrival) (given : List UInt8) (r : Reader) : Prop :=
  ∃ before a, taken = before ++ [a] ∧ Answered before ∧ Refused before a ∧
    given = (outcome before).data ∧ r.pending = (outcomeAfter before a).data

/-- How a reader is after a call that went well or failed. -/
def Reached (taken : List Arrival) (given : List UInt8) : Bool → Reader → Prop
  | true => Stands taken given
  | false => Stopped taken given

variable {taken : List Arrival} {given : List UInt8} {r : Reader}

theorem stands_fresh (arrivals : List Arrival) : Stands [] [] (fresh arrivals) :=
  ⟨answered_nil, rfl, rfl⟩

theorem Stopped.data (h : Stopped taken given r) :
    (outcome taken).data = given ++ r.pending := by
  obtain ⟨before, a, rfl, -, -, rfl, hpending⟩ := h
  rw [outcome_concat, hpending]

theorem Reached.data {ok : Bool} (h : Reached taken given ok r) :
    (outcome taken).data = given ++ r.pending := by
  cases ok with
  | true => exact Stands.data h
  | false => exact Stopped.data h

theorem Stands.receive (h : Stands taken given r) (hpending : r.pending = []) (a : Arrival)
    (rest : List Arrival) :
    ∃ ok r', r.receive a rest = (ok, r') ∧ r'.arrivals = rest ∧
      Reached (taken ++ [a]) given ok r' := by
  have hgiven : (outcome taken).data = given := by
    rw [h.data, hpending, List.append_nil]
  have hstands : ∀ answered, ¬Refused taken a → Stands (taken ++ [a]) given
      ⟨(outcomeAfter taken a).phase, (outcomeAfter taken a).data, rest, answered⟩ := by
    intro answered hnot
    refine ⟨h.answered.concat hnot, ?_, ?_⟩
    · rw [outcome_concat]
    · rw [outcome_concat, hgiven]
  unfold Reader.receive
  rw [h.phase]
  change ∃ ok r', (if (outcomeAfter taken a).replies.isEmpty then _ else _) = _ ∧ _
  split
  · next hsilent =>
      exact ⟨true, _, rfl, rfl, hstands _ fun hrefused => hrefused.1 (List.isEmpty_iff.mp hsilent)⟩
  · next hasked =>
      split
      · next htaken =>
          refine ⟨true, _, rfl, rfl, hstands _ fun hrefused => ?_⟩
          rw [hrefused.2] at htaken
          cases htaken
      · next hnot =>
          have hrefused : Refused taken a :=
            ⟨mt List.isEmpty_iff.mpr hasked, Bool.eq_false_iff.mpr hnot⟩
          exact ⟨false, _, rfl, rfl, taken, a, rfl, h.answered, hrefused, hgiven.symm, rfl⟩

/-- The socket is read until there is data, an answer is refused or the end comes. -/
theorem Stands.fill (h : Stands taken given r) (hpending : r.pending = [])
    (arrivals : List Arrival) :
    ∃ ok r' more, r.fill arrivals = (ok, r') ∧ arrivals = more ++ r'.arrivals ∧
      Reached (taken ++ more) given ok r' ∧
      (ok = true → r'.pending = [] → r'.arrivals = []) := by
  induction arrivals generalizing taken r with
  | nil =>
      refine ⟨true, { r with arrivals := [] }, [], rfl, rfl, ?_, fun _ _ => rfl⟩
      rw [List.append_nil]
      exact ⟨h.answered, h.phase, h.data⟩
  | cons a arrivals ih =>
      obtain ⟨ok, next, hreceive, harrivals, hnext⟩ := h.receive hpending a arrivals
      rw [Reader.fill, hreceive]
      cases ok with
      | false =>
          refine ⟨false, next, [a], rfl, by rw [harrivals]; rfl, hnext, ?_⟩
          intro hok
          cases hok
      | true =>
          by_cases hempty : next.pending = []
          -- The arrival held nothing but commands, so the next one is taken.
          · obtain ⟨ok, r', more, hfill, hmore, hreached, hlast⟩ := ih hnext hempty
            refine ⟨ok, r', a :: more, ?_, congrArg (a :: ·) hmore, ?_, hlast⟩
            · simp only [hempty, List.isEmpty_nil, if_true, hfill]
            · rw [List.append_cons]
              exact hreached
          · refine ⟨true, next, [a], ?_, by rw [harrivals]; rfl, hnext,
              fun _ hnone => absurd hnone hempty⟩
            simp [hempty]

/-- A read gives the next data, or it stops at an arrival that was refused an
answer. It gives nothing only at the end. -/
theorem Stands.read (h : Stands taken given r) {n : Nat} (hn : 0 < n) :
    ∃ piece r' more, r.read n = (piece, r') ∧ r.arrivals = more ++ r'.arrivals ∧
      Reached (taken ++ more) (given ++ piece.getD []) piece.isSome r' ∧
      (piece = some [] → r'.Exhausted) := by
  have hn0 : n ≠ 0 := Nat.pos_iff_ne_zero.mp hn
  obtain ⟨ok, s, more, hs, hmore, hreached, hlast⟩ :
      ∃ ok s more, (if r.pending.isEmpty then r.fill r.arrivals else (true, r)) = (ok, s) ∧
        r.arrivals = more ++ s.arrivals ∧ Reached (taken ++ more) given ok s ∧
        (ok = true → s.pending = [] → s.arrivals = []) := by
    by_cases hpending : r.pending = []
    · obtain ⟨ok, s, more, hfill, hrest⟩ := h.fill hpending r.arrivals
      exact ⟨ok, s, more, by simp [hpending, hfill], hrest⟩
    · refine ⟨true, r, [], by simp [hpending], rfl, ?_, fun _ hnone => absurd hnone hpending⟩
      rw [List.append_nil]
      exact h
  rw [Reader.read, if_neg hn0, hs]
  cases ok with
  | false =>
      refine ⟨none, s, more, rfl, hmore, ?_, ?_⟩
      · simpa [Reached] using hreached
      · intro hnone
        cases hnone
  | true =>
      refine ⟨some (s.pending.take n), { s with pending := s.pending.drop n }, more, rfl, hmore,
        ⟨hreached.answered, hreached.phase, ?_⟩, ?_⟩
      · rw [Option.getD_some, List.append_assoc, List.take_append_drop]
        exact hreached.data
      · intro hnone
        have hempty : s.pending = [] :=
          (List.take_eq_nil_iff.mp (Option.some.inj hnone)).resolve_left hn0
        exact ⟨hlast rfl hempty, by simp [hempty]⟩

theorem Exhausted.readsUntil (h : r.Exhausted) {sizes : List Nat}
    (hsizes : ∀ n ∈ sizes, 0 < n) :
    ∃ pieces r', r.readsUntil sizes = (pieces, true, r') ∧ r'.Exhausted := by
  induction sizes generalizing r with
  | nil => exact ⟨[], r, rfl, h⟩
  | cons n sizes ih =>
      have hanswerable : r.Answerable := by simp [Reader.Answerable, h.1]
      obtain ⟨piece, next, hread, hnext, -, -⟩ :=
        continues_read hanswerable (hsizes n List.mem_cons_self)
      obtain ⟨pieces, r', hreads, hexhausted⟩ :=
        ih (h.continues hnext) fun m hm => hsizes m (List.mem_cons_of_mem n hm)
      exact ⟨piece :: pieces, r', by simp only [Reader.readsUntil, hread, hreads], hexhausted⟩

/-- The reads of a caller that stops at a failure; with as many reads as there
are bytes and one more it comes to the end. -/
theorem Stands.readsUntil (h : Stands taken given r) {sizes : List Nat}
    (hsizes : ∀ n ∈ sizes, 0 < n) :
    ∃ pieces ok r' more, r.readsUntil sizes = (pieces, ok, r') ∧
      r.arrivals = more ++ r'.arrivals ∧
      Reached (taken ++ more) (given ++ pieces.flatten) ok r' ∧
      (ok = true → r'.Exhausted ∨ sizes.length ≤ pieces.flatten.length) := by
  induction sizes generalizing taken given r with
  | nil =>
      refine ⟨[], true, r, [], rfl, rfl, ?_, fun _ => .inr (Nat.le_refl _)⟩
      simpa [Reached] using h
  | cons n sizes ih =>
      have htail : ∀ m ∈ sizes, 0 < m := fun m hm => hsizes m (List.mem_cons_of_mem n hm)
      obtain ⟨piece, next, more, hread, hmore, hnext, hnone⟩ :=
        h.read (hsizes n List.mem_cons_self)
      rw [Reader.readsUntil, hread]
      cases piece with
      | none =>
          refine ⟨[], false, next, more, rfl, hmore, hnext, ?_⟩
          intro hok
          cases hok
      | some piece =>
          have hstands : Stands (taken ++ more) (given ++ piece) next := hnext
          obtain ⟨pieces, ok, r', later, hreads, hlater, hreached, hprogress⟩ :=
            ih hstands htail
          refine ⟨piece :: pieces, ok, r', more ++ later, by simp only [hreads], ?_, ?_, ?_⟩
          · rw [hmore, hlater, List.append_assoc]
          · rw [List.flatten_cons, ← List.append_assoc, ← List.append_assoc]
            exact hreached
          · intro hok
            cases piece with
            | nil =>
                obtain ⟨_, last, hlast, hexhausted⟩ := (hnone rfl).readsUntil htail
                have hsame : last = r' := congrArg (·.2.2) (hlast.symm.trans hreads)
                exact .inl (hsame ▸ hexhausted)
            | cons b piece =>
                refine (hprogress hok).imp_right fun hlong => ?_
                simp only [List.flatten_cons, List.length_append, List.length_cons]
                omega

/-- Whatever the socket brings, wherever the host stops taking answers and
however much is read at a time, what the filter made of the arrivals that were
taken is what the reads gave and what is left in the reader. While no read
fails, every answer was taken, and enough reads come to the end of everything.
The first read to fail does so at the first arrival that was refused an answer;
all data from before it was given by then and none of its own, so a caller that
stops has been given all that arrived only if that one held no data. -/
theorem given_until_refusal (arrivals : List Arrival) (sizes : List Nat)
    (hsizes : ∀ n ∈ sizes, 0 < n) :
    ∃ pieces ok r taken, (fresh arrivals).readsUntil sizes = (pieces, ok, r) ∧
      arrivals = taken ++ r.arrivals ∧
      (outcome taken).data = pieces.flatten ++ r.pending ∧
      (ok = true → Answered taken ∧
        ((outcome arrivals).data.length < sizes.length → r.arrivals = [] ∧ r.pending = [])) ∧
      (ok = false → ∃ before a, taken = before ++ [a] ∧ Answered before ∧ Refused before a ∧
        pieces.flatten = (outcome before).data ∧ r.pending = (outcomeAfter before a).data ∧
        (pieces.flatten = (outcome taken).data ↔ (outcomeAfter before a).data = [])) := by
  obtain ⟨pieces, ok, r, taken, hreads, htaken, hreached, hprogress⟩ :=
    (stands_fresh arrivals).readsUntil hsizes
  have htaken : arrivals = taken ++ r.arrivals := htaken
  have hdata : (outcome taken).data = pieces.flatten ++ r.pending := hreached.data
  refine ⟨pieces, ok, r, taken, hreads, htaken, hdata, ?_, ?_⟩
  · rintro rfl
    refine ⟨Stands.answered hreached, fun hlong => ?_⟩
    refine (hprogress rfl).resolve_right fun hshort => ?_
    have hle : (outcome taken).data.length ≤ (outcome arrivals).data.length :=
      (htaken ▸ data_outcome_prefix taken r.arrivals).length_le
    rw [hdata, List.length_append] at hle
    omega
  · rintro rfl
    obtain ⟨before, a, rfl, hanswered, hrefused, hgiven, hpending⟩ := hreached
    refine ⟨before, a, rfl, hanswered, hrefused, hgiven, hpending, ?_⟩
    rw [hdata, hpending, List.self_eq_append_right]

/-- Data is read; then a request comes between data, and the host is gone. -/
theorem given_until_refusal_late :
    (∀ n ∈ [1, 1, 1], 0 < n) ∧
      ∃ pieces ok r taken,
        (fresh [⟨[0x41], true⟩, ⟨[255, 253, 24, 0x42], false⟩]).readsUntil [1, 1, 1] =
            (pieces, ok, r) ∧
          pieces.flatten = [0x41] ∧ (outcome taken).data = [0x41, 0x42] := by
  have hsizes : ∀ n ∈ [1, 1, 1], 0 < n := by decide
  obtain ⟨pieces, ok, r, taken, hreads, -, hdata, -, -⟩ :=
    given_until_refusal [⟨[0x41], true⟩, ⟨[255, 253, 24, 0x42], false⟩] [1, 1, 1] hsizes
  have hrun : (fresh [⟨[0x41], true⟩, ⟨[255, 253, 24, 0x42], false⟩]).readsUntil [1, 1, 1] =
      ([[0x41]], false, ⟨.data, [0x42], [], []⟩) := by decide
  have hsame := hreads.symm.trans hrun
  obtain ⟨rfl, rfl, rfl⟩ : pieces = [[0x41]] ∧ ok = false ∧ r = ⟨.data, [0x42], [], []⟩ := by
    simpa using hsame
  exact ⟨hsizes, _, _, _, taken, hreads, rfl, hdata⟩

/-- Text that came with a request is not given if the answer is refused. -/
theorem readsUntil_text_refused :
    let arrivals : List Arrival := [⟨[255, 253, 24, 0x48, 0x69], false⟩]
    (fresh arrivals).readsUntil [4096] = ([], false, ⟨.data, [0x48, 0x69], [], []⟩) ∧
      (outcome arrivals).data = [0x48, 0x69] := by
  decide

end Reader

end DasherTerminal.Telnet
