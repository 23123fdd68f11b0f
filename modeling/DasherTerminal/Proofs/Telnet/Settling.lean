import DasherTerminal.Proofs.Telnet.Exchange
import DasherTerminal.Telnet.Item

/-!
# Whether a negotiation dies out

A request to leave out go-aheads is answered with another such request, also
when it only answers one. So two ends answer each other for ever as soon as one
of these requests is among the answers that come back, and otherwise nothing is
under way after a number of deliveries that the first bytes bound.
-/

namespace DasherTerminal.Telnet

/-- One turn of a negotiation. -/
structure Turn where
  verb : Verb
  option : UInt8
  deriving DecidableEq, Repr

namespace Turn

def wire (t : Turn) : List UInt8 := (Item.request t.verb t.option).wire

@[simp] theorem length_wire (t : Turn) : t.wire.length = 3 := rfl

def answer? (t : Turn) : Option Turn := (Telnet.answer? t.verb t.option).map (⟨·, t.option⟩)

def again? (t : Turn) : Option Turn := t.answer?.bind answer?

/-- A turn that asks to leave out go-aheads, or offers it. -/
def Renews (t : Turn) : Prop :=
  t.option = suppressGoAhead ∧ (t.verb = .will ∨ t.verb = .doIt)

instance (t : Turn) : Decidable t.Renews := inferInstanceAs (Decidable (_ ∧ _))

variable {t u : Turn}

/-- These turns, and no others, are answered by one of their own kind. -/
theorem renews_answer (h : t.answer? = some u) : u.Renews ↔ t.Renews := by
  obtain ⟨verb, option⟩ := t
  cases verb with
  | will =>
      obtain rfl := Option.some.inj h
      by_cases hoption : option = suppressGoAhead <;> simp [Renews, hoption]
  | doIt =>
      obtain rfl := Option.some.inj h
      by_cases hoption : option = suppressGoAhead <;> simp [Renews, hoption]
  | wont => cases h
  | dont => cases h

theorem option_answer (h : t.answer? = some u) : u.option = t.option := by
  obtain ⟨v, -, rfl⟩ := Option.map_eq_some_iff.mp h
  rfl

theorem renews_of_answer (h : t.answer? = some u) (hoption : u.option = suppressGoAhead) :
    u.Renews := by
  obtain ⟨verb, option⟩ := t
  obtain rfl : option = suppressGoAhead := (option_answer h).symm.trans hoption
  cases verb with
  | will => exact Option.some.inj h ▸ ⟨rfl, .inr rfl⟩
  | doIt => exact Option.some.inj h ▸ ⟨rfl, .inl rfl⟩
  | wont => cases h
  | dont => cases h

theorem not_renews_of_answer_eq_none (h : t.answer? = none) : ¬t.Renews := by
  rintro ⟨-, hverb⟩
  obtain ⟨verb, option⟩ := t
  obtain rfl | rfl := hverb <;> cases h

/-- Two answers later a request to leave out go-aheads is back where it was. The
only other thing that is answered twice is an echo that is offered. -/
theorem again?_eq (t : Turn) :
    t.again? = if t.Renews then some t
      else if t = ⟨.will, echoOption⟩ then some ⟨.wont, echoOption⟩ else none := by
  obtain ⟨verb, option⟩ := t
  cases verb with
  | will =>
      by_cases hgoAhead : option = suppressGoAhead
      · subst hgoAhead
        rfl
      · by_cases hecho : option = echoOption
        · subst hecho
          rfl
        · simp [again?, answer?, Telnet.answer?, Renews, hgoAhead, hecho]
  | doIt =>
      by_cases hgoAhead : option = suppressGoAhead
      · subst hgoAhead
        rfl
      · simp [again?, answer?, Telnet.answer?, Renews, hgoAhead]
  | wont => simp [again?, answer?, Telnet.answer?, Renews]
  | dont => simp [again?, answer?, Telnet.answer?, Renews]

theorem again?_cases (h : t.again? = some u) : u.Renews ∨ u = ⟨.wont, echoOption⟩ := by
  rw [again?_eq] at h
  split at h
  · next hrenews => exact .inl (Option.some.inj h ▸ hrenews)
  · split at h
    · exact .inr (Option.some.inj h).symm
    · cases h

end Turn

namespace Phase

/-- The turn that a byte ends. -/
def turn? (p : Phase) (b : UInt8) : Option Turn :=
  match p with
  | .option verb => some ⟨verb, b⟩
  | _ => none

/-- The turns that end in a stream. -/
def turns (p : Phase) : List UInt8 → List Turn
  | [] => []
  | b :: bs => (p.turn? b).toList ++ (p.step b).phase.turns bs

theorem turns_append (p : Phase) (a b : List UInt8) :
    p.turns (a ++ b) = p.turns a ++ (p.run a).phase.turns b := by
  induction a generalizing p with
  | nil => rfl
  | cons c a ih => simp [turns, run, ih]

theorem replies_step (p : Phase) (b : UInt8) :
    (p.step b).replies = ((p.turn? b).toList.filterMap Turn.answer?).flatMap Turn.wire := by
  cases p with
  | option verb =>
      simp only [step, turn?, Option.toList, List.filterMap, Turn.answer?]
      cases answer? verb b <;> simp [Turn.wire, Item.wire]
  | command =>
      simp only [step, turn?]
      split
      · rfl
      · split
        · rfl
        · split <;> rfl
  | data => simp only [step]; split <;> rfl
  | subnegotiation => rfl
  | subcommand => rfl

/-- The replies of the filter are the answers to the turns of the stream. -/
theorem replies_run (p : Phase) (bytes : List UInt8) :
    (p.run bytes).replies = ((p.turns bytes).filterMap Turn.answer?).flatMap Turn.wire := by
  induction bytes generalizing p with
  | nil => rfl
  | cons b bytes ih =>
      rw [turns, List.filterMap_append, List.flatMap_append, ← replies_step, ← ih]
      rfl

theorem turns_wire (t : Turn) : Phase.data.turns t.wire = [t] := by
  obtain ⟨verb, option⟩ := t
  cases verb <;> rfl

theorem phase_wire (t : Turn) : (Phase.data.run t.wire).phase = .data := by
  obtain ⟨verb, option⟩ := t
  cases verb <;> rfl

theorem phase_wires (ts : List Turn) : (Phase.data.run (ts.flatMap Turn.wire)).phase = .data := by
  induction ts with
  | nil => rfl
  | cons t ts ih => rw [List.flatMap_cons, phase_append, phase_wire, ih]

/-- Turns are read as they were written. -/
theorem turns_wires (ts : List Turn) : Phase.data.turns (ts.flatMap Turn.wire) = ts := by
  induction ts with
  | nil => rfl
  | cons t ts ih =>
      rw [List.flatMap_cons, turns_append, turns_wire, phase_wire, ih, List.singleton_append]

/-- In the middle of something else at most the first byte of a turn is taken
for an option. -/
theorem turns_wire_of_ne {p : Phase} (hp : p ≠ .data) (t : Turn) :
    p.turns t.wire = [] ∨ ∃ verb, p.turns t.wire = [⟨verb, iac⟩] := by
  obtain ⟨verb, option⟩ := t
  cases p with
  | data => exact absurd rfl hp
  | option before => exact .inr ⟨before, by cases verb <;> rfl⟩
  | command => exact .inl (by cases verb <;> rfl)
  | subnegotiation => exact .inl (by cases verb <;> rfl)
  | subcommand => exact .inl (by cases verb <;> rfl)

theorem mem_turns_wires (p : Phase) {ts : List Turn} {t : Turn}
    (ht : t ∈ p.turns (ts.flatMap Turn.wire)) : t ∈ ts ∨ t.option = iac := by
  induction ts generalizing p with
  | nil => cases ht
  | cons u ts ih =>
      rw [List.flatMap_cons, turns_append] at ht
      obtain hfirst | hrest := List.mem_append.mp ht
      · by_cases hp : p = .data
        · rw [hp, turns_wire] at hfirst
          exact .inl (List.mem_cons.mpr (.inl (List.mem_singleton.mp hfirst)))
        · obtain hnone | ⟨verb, hone⟩ := turns_wire_of_ne hp u
          · rw [hnone] at hfirst
            cases hfirst
          · rw [hone] at hfirst
            exact .inr (List.mem_singleton.mp hfirst ▸ rfl)
      · exact (ih _ hrest).imp_left (List.mem_cons_of_mem u)

/-- After a turn about an option of its own kind the filter is back at the data,
or it is in a subnegotiation and sees no turn at all. -/
theorem phase_wire_or_turns_eq_nil (p : Phase) {t : Turn} (ht : t.option ≠ iac) :
    (p.run t.wire).phase = .data ∨ p.turns t.wire = [] := by
  obtain ⟨verb, option⟩ := t
  have hdata : (Phase.data.step option).phase = .data := by
    rw [step, if_neg ht]
  cases p with
  | data => exact .inl (phase_wire _)
  | command => exact .inl (by cases verb <;> exact hdata)
  | option before => exact .inl (by cases verb <;> exact hdata)
  | subnegotiation => exact .inr (by cases verb <;> rfl)
  | subcommand => exact .inr (by cases verb <;> rfl)

theorem phase_wires_or_turns_eq_nil (p : Phase) {ts : List Turn} (hts : ∀ t ∈ ts, t.option ≠ iac) :
    (p.run (ts.flatMap Turn.wire)).phase = .data ∨ p.turns (ts.flatMap Turn.wire) = [] := by
  induction ts generalizing p with
  | nil => exact .inr rfl
  | cons t ts ih =>
      obtain ⟨ht, hts⟩ := List.forall_mem_cons.mp hts
      rw [List.flatMap_cons, phase_append, turns_append]
      obtain hdata | hnone := p.phase_wire_or_turns_eq_nil ht
      · rw [hdata]
        exact .inl (phase_wires ts)
      · rw [hnone, List.nil_append]
        exact ih (p.run t.wire).phase hts

/-- How many bytes of a turn have come. -/
def turnBytes : Phase → Nat
  | command => 1
  | option _ => 2
  | _ => 0

theorem turnBytes_le (p : Phase) : p.turnBytes ≤ 2 := by
  cases p <;> simp [turnBytes]

theorem turnBytes_step_le (p : Phase) (b : UInt8) :
    3 * (p.turn? b).toList.length + (p.step b).phase.turnBytes ≤ 1 + p.turnBytes := by
  cases p with
  | data =>
      simp only [step]
      split <;> simp [turn?, turnBytes]
  | command =>
      simp only [step]
      split
      · simp [turn?, turnBytes]
      · split
        · exact le_rfl
        · split <;> simp [turn?, turnBytes]
  | option verb => exact le_rfl
  | subnegotiation =>
      simp only [step]
      split <;> simp [turn?, turnBytes]
  | subcommand =>
      simp only [step]
      split <;> simp [turn?, turnBytes]

/-- Every turn takes three bytes. -/
theorem length_turns_le (p : Phase) (bytes : List UInt8) :
    3 * (p.turns bytes).length ≤ bytes.length + p.turnBytes := by
  induction bytes generalizing p with
  | nil => exact Nat.zero_le _
  | cons b bytes ih =>
      have hrest := ih (p.step b).phase
      have hstep := p.turnBytes_step_le b
      rw [turns, List.length_append, List.length_cons]
      omega

end Phase

/-! ### What comes back -/

/-- The turns that come back to the near end as answers to its first answers. -/
def returned (bytes : List UInt8) : List Turn :=
  (Phase.data.run bytes).phase.turns
    (((Phase.data.turns bytes).filterMap Turn.again?).flatMap Turn.wire)

/-- What the near end says to those. -/
def secondAnswers (bytes : List UInt8) : List UInt8 :=
  let first := Phase.data.run bytes
  (first.phase.run (Phase.data.run first.replies).replies).replies

theorem filterMap_answer_answer (ts : List Turn) :
    (ts.filterMap Turn.answer?).filterMap Turn.answer? = ts.filterMap Turn.again? :=
  List.filterMap_filterMap

/-- The answers to answers. -/
theorem replies_answers (ts : List Turn) :
    (Phase.data.run ((ts.filterMap Turn.answer?).flatMap Turn.wire)).replies =
      (ts.filterMap Turn.again?).flatMap Turn.wire := by
  rw [Phase.replies_run, Phase.turns_wires, filterMap_answer_answer]

theorem secondAnswers_eq (bytes : List UInt8) :
    secondAnswers bytes = ((returned bytes).filterMap Turn.answer?).flatMap Turn.wire := by
  rw [secondAnswers, Phase.replies_run Phase.data bytes, replies_answers, Phase.replies_run]
  rfl

/-- Among answers to turns are some about go-aheads exactly if there is a turn
that renews itself. -/
theorem mem_answers_iff (ts : List Turn) :
    suppressGoAhead ∈ (ts.filterMap Turn.answer?).flatMap Turn.wire ↔ ∃ t ∈ ts, t.Renews := by
  constructor
  · intro h
    obtain ⟨u, hu, hmem⟩ := List.mem_flatMap.mp h
    obtain ⟨t, ht, hanswer⟩ := List.mem_filterMap.mp hu
    have hverb : suppressGoAhead ≠ u.verb.byte := by cases u.verb <;> decide
    have hiac : suppressGoAhead ≠ iac := by decide
    have hoption : u.option = suppressGoAhead := by
      simpa [Turn.wire, Item.wire, hverb, hiac, eq_comm] using hmem
    exact ⟨t, ht, (Turn.renews_answer hanswer).mp (Turn.renews_of_answer hanswer hoption)⟩
  · rintro ⟨t, ht, hrenews⟩
    cases hanswer : t.answer? with
    | none => exact absurd hrenews (Turn.not_renews_of_answer_eq_none hanswer)
    | some u =>
        have hu : u ∈ ts.filterMap Turn.answer? := List.mem_filterMap.mpr ⟨t, ht, hanswer⟩
        refine List.mem_flatMap.mpr ⟨u, hu, ?_⟩
        rw [Turn.wire, ((Turn.renews_answer hanswer).mpr hrenews).1]
        simp [Item.wire]

theorem countP_again (ts : List Turn) :
    (ts.filterMap Turn.again?).countP (·.Renews) = ts.countP (·.Renews) := by
  rw [List.countP_filterMap]
  refine List.countP_congr fun t _ => ?_
  rw [Turn.again?_eq]
  by_cases hrenews : t.Renews
  · simp [hrenews]
  · by_cases hecho : t = ⟨.will, echoOption⟩
    · subst hecho
      decide
    · simp [hrenews, hecho]

theorem option_ne_iac_of_mem (ts : List Turn) :
    ∀ u ∈ ts.filterMap Turn.again?, u.option ≠ iac := by
  intro u hu
  obtain ⟨t, -, ht⟩ := List.mem_filterMap.mp hu
  obtain ⟨hoption, -⟩ | rfl := Turn.again?_cases ht
  · rw [hoption]
    decide
  · decide

/-- All turns that reach the near end, if all is delivered: those of the first
bytes, and those that come back. -/
theorem Complete.turns_near {bytes near far : List UInt8} (h : Complete bytes [] near far) :
    let turns := Phase.data.turns near
    turns = Phase.data.turns bytes ++
      (Phase.data.run bytes).phase.turns ((turns.filterMap Turn.again?).flatMap Turn.wire) := by
  have hfar : Phase.data.turns far = (Phase.data.turns near).filterMap Turn.answer? := by
    rw [h.far_eq, List.nil_append, Phase.replies_run, Phase.turns_wires]
  have hnear : near =
      bytes ++ ((Phase.data.turns near).filterMap Turn.again?).flatMap Turn.wire := by
    rw [← filterMap_answer_answer, ← hfar, ← Phase.replies_run]
    exact h.near_eq
  dsimp only
  rw [← Phase.turns_append, ← hnear]

/-- If all is delivered, nothing has come back that renews itself: it would come
back once more, so that there would be more of it than there is. -/
theorem Complete.not_renews {bytes near far : List UInt8} (h : Complete bytes [] near far) :
    ∀ t ∈ returned bytes, ¬t.Renews := by
  have hturns := h.turns_near
  set turns := Phase.data.turns near
  set first := Phase.data.turns bytes
  set p := (Phase.data.run bytes).phase
  set later := p.turns ((turns.filterMap Turn.again?).flatMap Turn.wire)
  have hlater : later = returned bytes ++
      (p.run ((first.filterMap Turn.again?).flatMap Turn.wire)).phase.turns
        ((later.filterMap Turn.again?).flatMap Turn.wire) := by
    rw [returned, ← Phase.turns_append, ← List.flatMap_append, ← List.filterMap_append, ← hturns]
  obtain hdata | hnone := p.phase_wires_or_turns_eq_nil (option_ne_iac_of_mem first)
  · rw [hdata, Phase.turns_wires] at hlater
    -- All that comes back is what came back at first, and all of it once more.
    have hcount := congrArg (List.countP (·.Renews)) hlater
    rw [List.countP_append, countP_again] at hcount
    have hzero : (returned bytes).countP (·.Renews) = 0 := by omega
    simpa using List.countP_eq_zero.mp hzero
  · intro t ht
    rw [returned, hnone] at ht
    cases ht

/-- If nothing comes back that renews itself, the near end takes the first bytes
and the answers to its first answers, and the far end these first answers and
the ones to what came back. -/
theorem complete_of_not_renews {bytes : List UInt8} (h : ∀ t ∈ returned bytes, ¬t.Renews) :
    Complete bytes []
      (bytes ++ ((Phase.data.turns bytes).filterMap Turn.again?).flatMap Turn.wire)
      (((Phase.data.turns bytes ++ returned bytes).filterMap Turn.answer?).flatMap Turn.wire) := by
  have hdone : (returned bytes).filterMap Turn.again? = [] := by
    refine List.filterMap_eq_nil_iff.mpr fun t ht => ?_
    -- An offer of echo would be answered twice, but it is not an answer itself.
    have hoffer : t ≠ ⟨.will, echoOption⟩ := by
      rintro rfl
      obtain hmem | hoption := Phase.mem_turns_wires _ ht
      · obtain ⟨u, -, hu⟩ := List.mem_filterMap.mp hmem
        obtain hrenews | hwont := Turn.again?_cases hu
        · exact h _ ht hrenews
        · cases hwont
      · cases hoption
    rw [Turn.again?_eq, if_neg (h t ht), if_neg hoffer]
  constructor
  · rw [replies_answers, List.filterMap_append, hdone, List.append_nil]
  · rw [Phase.replies_run, Phase.turns_append]
    rfl

theorem length_wires (ts : List Turn) : (ts.flatMap Turn.wire).length = 3 * ts.length := by
  induction ts with
  | nil => rfl
  | cons t ts ih =>
      rw [List.flatMap_cons, List.length_append, ih, Turn.length_wire, List.length_cons]
      omega

theorem length_returned_le (bytes : List UInt8) :
    (returned bytes).length ≤ (Phase.data.turns bytes).length := by
  have hagain := List.length_filterMap_le Turn.again? (Phase.data.turns bytes)
  have hlength := (Phase.data.run bytes).phase.length_turns_le
    (((Phase.data.turns bytes).filterMap Turn.again?).flatMap Turn.wire)
  have hbegun : (Phase.data.run bytes).phase.turnBytes ≤ 2 := Phase.turnBytes_le _
  rw [length_wires] at hlength
  rw [returned]
  omega

theorem length_le_of_not_renews {bytes : List UInt8} (h : ∀ t ∈ returned bytes, ¬t.Renews)
    {ds : List Delivery} {y : Exchange} (hds : (Exchange.begun bytes).deliverAll? ds = some y) :
    ds.length ≤ 4 * bytes.length := by
  have hbound := Exchange.length_le_of_complete (complete_of_not_renews h) hds
  have hfirst := Phase.data.length_turns_le bytes
  have hreturned := length_returned_le bytes
  have hagain := List.length_filterMap_le Turn.again? (Phase.data.turns bytes)
  have hanswer := List.length_filterMap_le Turn.answer? (Phase.data.turns bytes ++ returned bytes)
  rw [List.length_append, length_wires, length_wires] at hbound
  rw [List.length_append] at hanswer
  have hbegun : Phase.data.turnBytes = 0 := rfl
  omega

theorem not_isQuiet_of_renews {bytes : List UInt8} (h : ∃ t ∈ returned bytes, t.Renews)
    {ds : List Delivery} {y : Exchange} (hds : (Exchange.begun bytes).deliverAll? ds = some y) :
    ¬y.IsQuiet := by
  intro hquiet
  obtain ⟨t, ht, hrenews⟩ := h
  obtain ⟨near, far, hcomplete⟩ := Exchange.complete_of_isQuiet hds hquiet
  exact hcomplete.not_renews t ht hrenews

/-- If the first bytes do not end inside a command, something that renews itself
comes back exactly if it is among them. -/
theorem exists_renews_returned_iff {bytes : List UInt8}
    (hdata : (Phase.data.run bytes).phase = .data) :
    (∃ t ∈ returned bytes, t.Renews) ↔ ∃ t ∈ Phase.data.turns bytes, t.Renews := by
  have hpos (ts : List Turn) : (∃ t ∈ ts, t.Renews) ↔ 0 < ts.countP (·.Renews) := by
    rw [List.countP_pos_iff]
    simp
  rw [hpos, hpos, returned, hdata, Phase.turns_wires, countP_again]

/-- A negotiation dies out unless the near end's second answers are about
go-aheads, and then something is under way for ever. As long as the first bytes
do not end inside a command, the second answers are about them exactly if the
first ones are. -/
theorem dies_out_unless (bytes : List UInt8) :
    (suppressGoAhead ∉ secondAnswers bytes →
      ∀ (ds : List Delivery) (y : Exchange), (Exchange.begun bytes).deliverAll? ds = some y →
        ds.length ≤ 4 * bytes.length ∧ ((∀ d, y.deliver? d = none) → y.IsQuiet)) ∧
    (suppressGoAhead ∈ secondAnswers bytes →
      ∀ (ds : List Delivery) (y : Exchange), (Exchange.begun bytes).deliverAll? ds = some y →
        ¬y.IsQuiet) ∧
    ((Phase.data.run bytes).phase = .data →
      (suppressGoAhead ∈ secondAnswers bytes ↔
        suppressGoAhead ∈ (Phase.data.run bytes).replies)) := by
  have hsecond : suppressGoAhead ∈ secondAnswers bytes ↔ ∃ t ∈ returned bytes, t.Renews := by
    rw [secondAnswers_eq, mem_answers_iff]
  refine ⟨?_, ?_, ?_⟩
  · intro hnot ds y hds
    have hend : ∀ t ∈ returned bytes, ¬t.Renews := fun t ht hrenews =>
      hnot (hsecond.mpr ⟨t, ht, hrenews⟩)
    exact ⟨length_le_of_not_renews hend hds, Exchange.isQuiet_of_deliver?_eq_none⟩
  · intro hmem ds y hds
    exact not_isQuiet_of_renews (hsecond.mp hmem) hds
  · intro hdata
    rw [hsecond, exists_renews_returned_iff hdata, Phase.replies_run, mem_answers_iff]

/-- An offer of echo is settled after at most twelve deliveries, a request to
leave out go-aheads never is. -/
theorem dies_out_unless_echo :
    (suppressGoAhead ∉ secondAnswers (Turn.wire ⟨.will, echoOption⟩) ∧
      ∀ (ds : List Delivery) (y : Exchange),
        (Exchange.begun (Turn.wire ⟨.will, echoOption⟩)).deliverAll? ds = some y →
          ds.length ≤ 4 * 3 ∧ ((∀ d, y.deliver? d = none) → y.IsQuiet)) ∧
    ((Phase.data.run (Turn.wire ⟨.doIt, suppressGoAhead⟩)).phase = .data ∧
      suppressGoAhead ∈ secondAnswers (Turn.wire ⟨.doIt, suppressGoAhead⟩) ∧
      ∀ (ds : List Delivery) (y : Exchange),
        (Exchange.begun (Turn.wire ⟨.doIt, suppressGoAhead⟩)).deliverAll? ds = some y →
          ¬y.IsQuiet) := by
  have hnot : suppressGoAhead ∉ secondAnswers (Turn.wire ⟨.will, echoOption⟩) := by decide
  have hdata : (Phase.data.run (Turn.wire ⟨.doIt, suppressGoAhead⟩)).phase = .data := rfl
  obtain ⟨hends, -, -⟩ := dies_out_unless (Turn.wire ⟨.will, echoOption⟩)
  obtain ⟨-, hnever, hfirst⟩ := dies_out_unless (Turn.wire ⟨.doIt, suppressGoAhead⟩)
  have hmem : suppressGoAhead ∈ secondAnswers (Turn.wire ⟨.doIt, suppressGoAhead⟩) :=
    (hfirst hdata).mpr (by decide)
  exact ⟨⟨hnot, hends hnot⟩, hdata, hmem, hnever hmem⟩

/-- A single request to leave out go-aheads is answered again and again. -/
theorem goAhead_never_quiet :
    ¬∃ (ds : List Delivery) (y : Exchange),
      (Exchange.begun (Turn.wire ⟨.doIt, suppressGoAhead⟩)).deliverAll? ds = some y ∧
        y.IsQuiet := by
  rintro ⟨ds, y, hds, hquiet⟩
  have hreturned : (⟨.doIt, suppressGoAhead⟩ : Turn) ∈
      returned (Turn.wire ⟨.doIt, suppressGoAhead⟩) := by decide
  exact not_isQuiet_of_renews ⟨_, hreturned, by decide⟩ hds hquiet

end DasherTerminal.Telnet
