import DasherTerminal.Proofs.Session.Moves

/-!
# The reader of a link

As long as the flag is down a reader loses nothing: what it processed, followed
by what it has in hand, is what it read. When the flag is up it lets go of what
it has in hand, and what it processed is a prefix of that.
-/

namespace DasherTerminal

namespace Threads

/-- What the reader holds and is sure to process unless it finds the flag up. -/
def Hand.waiting (h : Hand) (held : List UInt8) : List UInt8 :=
  match h with
  | .empty => held
  | .unchecked piece => piece
  | .uncopied piece => piece
  | .byte b => b :: held

/-- The same, but without a piece that was read and not looked at again: if the
flag is up that piece does not follow on what was processed. -/
def Hand.checked (h : Hand) (held : List UInt8) : List UInt8 :=
  match h with
  | .unchecked _ => []
  | h => h.waiting held

/-- The record of a link that fed the terminal a prefix of what came in. -/
structure Account.Sound (a : Account) : Prop where
  processed : a.processed <+: a.delivered
  delivered : a.delivered <+: a.inbound
  hungUp : a.hungUp = true → a.processed = a.delivered

/-- A reader that lost nothing as long as the flag was down. -/
structure Reading.Sound (r : Reading) : Prop where
  inbound : r.account.inbound = r.account.delivered ++ r.link.unread
  checked : r.account.processed ++ r.hand.checked r.link.held <+: r.account.delivered
  whole : r.link.stopping = false →
    r.account.processed ++ r.hand.waiting r.link.held = r.account.delivered
  /-- A new piece is read when the one before it was used up. -/
  alone : ∀ piece, r.hand = .unchecked piece ∨ r.hand = .uncopied piece → r.link.held = []
  ended : r.link.finished = true → r.hand = .empty ∧ r.link.held = []
  inUse : r.account.hungUp = false

namespace Reading

variable {r r' : Reading}

theorem Sound.account (h : r.Sound) : r.account.Sound := by
  refine ⟨(List.prefix_append _ _).trans h.checked, ?_, ?_⟩
  · rw [h.inbound]
    exact List.prefix_append _ _
  · intro hhungUp
    rw [h.inUse] at hhungUp
    exact absurd hhungUp Bool.false_ne_true

inductive Moves (r : Reading) : ReaderMove → Reading → Prop
  | read {n : Nat} {bytes : List UInt8} {rest : List Arrival} (hand : r.hand = .empty)
      (held : r.link.held = []) (inbound : r.link.inbound = .bytes bytes :: rest) :
      r.Moves (.read n) {
        link := { r.link with inbound := leave n bytes rest }
        hand := .unchecked (bytes.take n)
        account := { r.account with delivered := r.account.delivered ++ bytes.take n } }
  | retry {inbound : List Arrival} (hinbound : r.link.inbound = .interrupted :: inbound) :
      r.Moves .retry { r with link := { r.link with inbound } }
  | finish {inbound : List Arrival} (hand : r.hand = .empty) (held : r.link.held = [])
      (hinbound : inbound.flatMap Arrival.content = r.link.unread) :
      r.Moves .finish { r with link := { r.link with inbound, finished := true } }
  | discard {piece : List UInt8} (hand : r.hand = .unchecked piece)
      (flag : r.link.stopping = true) :
      r.Moves .look { r with link := { r.link with finished := true }, hand := .empty }
  | accept {piece : List UInt8} (hand : r.hand = .unchecked piece)
      (flag : r.link.stopping = false) : r.Moves .look { r with hand := .uncopied piece }
  | drop (hand : r.hand = .empty) (flag : r.link.stopping = true) :
      r.Moves .look { r with link := { r.link with held := [] } }
  | take {b : UInt8} {held : List UInt8} (hand : r.hand = .empty) (hheld : r.link.held = b :: held)
      (flag : r.link.stopping = false) :
      r.Moves .look { r with link := { r.link with held }, hand := .byte b }
  | copy {piece : List UInt8} (hand : r.hand = .uncopied piece) :
      r.Moves .copy { r with link := { r.link with held := piece }, hand := .empty }
  | process {b : UInt8} (hand : r.hand = .byte b) :
      r.Moves .process { r with
        hand := .empty
        account := { r.account with processed := r.account.processed ++ [b] } }

theorem moves_of_step? {move : ReaderMove} (h : r.step? move = some r') : r.Moves move r' := by
  cases move with
  | read n =>
      rw [step?, read?] at h
      split at h
      · next bytes rest hand held inbound =>
          split at h
          · cases h
            exact .read hand held inbound
          · cases h
      · cases h
  | retry =>
      rw [step?, retry?] at h
      split at h
      · next inbound _ _ hinbound =>
          cases h
          exact .retry hinbound
      · cases h
  | finish =>
      rw [step?, finish?] at h
      split at h
      · next inbound hand held hinbound =>
          cases h
          refine .finish hand held ?_
          simp [Link.unread, hinbound, Arrival.content]
      · next hand held _ =>
          cases h
          exact .finish hand held rfl
      · cases h
  | look =>
      rw [step?, look?] at h
      split at h
      · next piece hand =>
          split at h
          · next flag =>
              cases h
              exact .discard hand flag
          · next flag =>
              cases h
              exact .accept hand (Bool.eq_false_iff.mpr flag)
      · next b held hand hheld =>
          split at h
          · next flag =>
              cases h
              exact .drop hand flag
          · next flag =>
              cases h
              exact .take hand hheld (Bool.eq_false_iff.mpr flag)
      · cases h
  | copy =>
      rw [step?, copy?] at h
      split at h
      · next piece hand =>
          cases h
          exact .copy hand
      · cases h
  | process =>
      rw [step?, process?] at h
      split at h
      · next b hand =>
          cases h
          exact .process hand
      · cases h

theorem content_leave (n : Nat) (bytes : List UInt8) (rest : List Arrival) :
    bytes.take n ++ (leave n bytes rest).flatMap Arrival.content =
      (Arrival.bytes bytes :: rest).flatMap Arrival.content := by
  unfold leave
  split
  · simp [Arrival.content, ← List.append_assoc]
  · next h =>
      have hlength : bytes.length ≤ n := Nat.le_of_not_lt h
      simp [Arrival.content, List.take_of_length_le hlength]

/-- What every move of a reader leaves as it is. -/
theorem Moves.frame {move : ReaderMove} (h : r.Moves move r') :
    r'.link.number = r.link.number ∧ r'.link.stopping = r.link.stopping := by
  cases h <;> exact ⟨rfl, rfl⟩

theorem Moves.fed {move : ReaderMove} (h : r.Moves move r') :
    r'.account.processed =
      r.account.processed ++ (move.operations r.hand).flatMap Terminal.Operation.fed := by
  cases h with
  | @process b hand =>
      rw [hand]
      rfl
  | _ => exact (List.append_nil _).symm

theorem Sound.processed_prefix (h : r.Sound) : r.account.processed <+: r.account.delivered :=
  (List.prefix_append _ _).trans h.checked

theorem Sound.moves (h : r.Sound) (hrunning : r.link.finished = false) {move : ReaderMove}
    (hmove : r.Moves move r') : r'.Sound := by
  have hnotEnded : ∀ {P : Prop}, r.link.finished = true → P := by
    intro P hfinished
    rw [hrunning] at hfinished
    exact absurd hfinished Bool.false_ne_true
  cases hmove with
  | @read n bytes rest hand held inbound =>
      refine ⟨?_, ?_, ?_, fun _ _ => held, hnotEnded, h.inUse⟩
      · have hunread : r.link.unread =
            bytes.take n ++ (leave n bytes rest).flatMap Arrival.content := by
          rw [content_leave, Link.unread, inbound]
        rw [h.inbound, hunread, ← List.append_assoc]
        rfl
      · rw [Hand.checked, List.append_nil]
        exact h.processed_prefix.trans (List.prefix_append _ _)
      · intro hflag
        have hwhole := h.whole hflag
        rw [hand, held, Hand.waiting, List.append_nil] at hwhole
        rw [Hand.waiting, hwhole]
  | @retry inbound hinbound =>
      refine ⟨?_, h.checked, h.whole, h.alone, hnotEnded, h.inUse⟩
      have hunread : r.link.unread = inbound.flatMap Arrival.content := by
        rw [Link.unread, hinbound]
        rfl
      rw [h.inbound, hunread]
      rfl
  | @finish inbound hand held hinbound =>
      refine ⟨?_, h.checked, h.whole, h.alone, fun _ => ⟨hand, held⟩, h.inUse⟩
      rw [h.inbound, ← hinbound]
      rfl
  | @discard piece hand flag =>
      -- The piece is lost here, but with the flag up nothing is promised of the whole.
      have held : r.link.held = [] := h.alone piece (.inl hand)
      refine ⟨h.inbound, ?_, ?_, fun _ _ => held, fun _ => ⟨rfl, held⟩, h.inUse⟩
      · rw [Hand.checked, Hand.waiting, held, List.append_nil]
        · exact h.processed_prefix
        · simp
      · intro hflag
        rw [flag] at hflag
        exact absurd hflag Bool.true_eq_false.mp
  | @accept piece hand flag =>
      have held : r.link.held = [] := h.alone piece (.inl hand)
      have hwhole := h.whole flag
      rw [hand] at hwhole
      refine ⟨h.inbound, ?_, fun _ => hwhole, fun _ _ => held, hnotEnded, h.inUse⟩
      exact hwhole ▸ List.prefix_rfl
  | drop hand flag =>
      refine ⟨h.inbound, ?_, ?_, fun _ _ => rfl, hnotEnded, h.inUse⟩
      · rw [hand]
        exact (List.append_nil _).symm ▸ h.processed_prefix
      · intro hflag
        rw [flag] at hflag
        exact absurd hflag Bool.true_eq_false.mp
  | @take b held hand hheld flag =>
      have hwhole := h.whole flag
      rw [hand, hheld] at hwhole
      refine ⟨h.inbound, hwhole ▸ List.prefix_rfl, fun _ => hwhole, ?_, hnotEnded, h.inUse⟩
      intro piece hpiece
      simp at hpiece
  | @copy piece hand =>
      have hchecked := h.checked
      rw [hand] at hchecked
      refine ⟨h.inbound, hchecked, ?_, ?_, hnotEnded, h.inUse⟩
      · intro hflag
        have hwhole := h.whole hflag
        rw [hand] at hwhole
        exact hwhole
      · intro piece hpiece
        simp at hpiece
  | @process b hand =>
      have hchecked : r.account.processed ++ b :: r.link.held <+: r.account.delivered := by
        simpa [hand, Hand.checked, Hand.waiting] using h.checked
      rw [List.append_cons] at hchecked
      refine ⟨h.inbound, hchecked, ?_, ?_, hnotEnded, h.inUse⟩
      · intro hflag
        have hwhole := h.whole hflag
        rw [hand, Hand.waiting, List.append_cons] at hwhole
        exact hwhole
      · intro piece hpiece
        simp at hpiece

/-- Arrivals and a raised flag do not disturb the reader. -/
theorem Sound.of_link (h : r.Sound) {l : Link} {inbound : List UInt8}
    (hheld : l.held = r.link.held) (hfinished : l.finished = r.link.finished)
    (hflag : l.stopping = false → r.link.stopping = false)
    (hunread : inbound = r.account.delivered ++ l.unread) :
    Sound ⟨l, r.hand, { r.account with inbound }⟩ := by
  refine ⟨hunread, ?_, ?_, ?_, ?_, h.inUse⟩
  · rw [hheld]
    exact h.checked
  · intro hdown
    rw [hheld]
    exact h.whole (hflag hdown)
  · rw [hheld]
    exact h.alone
  · rw [hheld, hfinished]
    exact h.ended

theorem sound_fresh (number : Nat) (target : Option Target) :
    Sound ⟨.fresh number target, .empty, .fresh target⟩ := by
  refine ⟨rfl, List.prefix_rfl, fun _ => rfl, fun _ _ => rfl, ?_, rfl⟩
  intro hfinished
  exact absurd hfinished Bool.false_ne_true

end Reading

end Threads

end DasherTerminal
