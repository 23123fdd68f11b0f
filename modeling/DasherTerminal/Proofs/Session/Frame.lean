import DasherTerminal.Proofs.Session.Order

/-!
# What moves leave alone

Only a request that sets a sink and a reader that copies touch the files, and
only the reader touches what it has in hand and what was read from its link.
-/

namespace DasherTerminal

namespace Session

/-- Nothing is written, and no sink is set. -/
structure Spares (s s' : Session) : Prop where
  files : s'.files = s.files
  capture : s'.capture = s.capture ∨ s'.capture = none

variable {s s' : Session}

theorem Spares.refl (s : Session) : s.Spares s := ⟨rfl, .inl rfl⟩

theorem spares_arrive? {a : Arrival} (h : s.arrive? a = some s') : s.Spares s' := by
  obtain ⟨l, _, rfl⟩ := arrive?_eq h
  exact ⟨rfl, .inl rfl⟩

theorem spares_send (s : Session) (out : Outside) (bytes : List UInt8) :
    s.Spares (s.send out bytes).2 := by
  obtain hsame | ⟨l, l', _, _, hsent⟩ := send_eq (Prod.eta (s.send out bytes)).symm
  · rw [hsame]
    exact .refl s
  · rw [hsent]
    exact ⟨rfl, .inl rfl⟩

/-- A request that is neither about links nor sets a sink. -/
theorem spares_perform (s : Session) (out : Outside) (r : Request) (hr : r.changesLink = false)
    (hsink : ∀ path, r = .startCapture path →
      ∃ cause, s.files.openForWriting path false = .error cause) :
    s.Spares (s.perform out r).2 := by
  cases r with
  | connect => cases hr
  | reconnect => cases hr
  | disconnect => cases hr
  | poll => cases hr
  | sendBytes bytes => exact s.spares_send out bytes
  | sendKey key =>
      rw [perform, sendKey]
      split
      · exact s.spares_send out _
      · exact .refl s
  | sendFile path =>
      rw [perform, sendFile]
      split
      · exact s.spares_send out _
      · exact .refl s
  | resize size =>
      rw [perform, resize]
      dsimp only
      split
      · split
        · exact ⟨rfl, .inl rfl⟩
        · exact ⟨rfl, .inl rfl⟩
      · exact ⟨rfl, .inl rfl⟩
  | selfTest =>
      rw [perform, selfTest]
      exact ⟨rfl, .inl rfl⟩
  | cycleModel => exact ⟨rfl, .inl rfl⟩
  | toggleBlink => exact ⟨rfl, .inl rfl⟩
  | stopCapture => exact ⟨rfl, .inr rfl⟩
  | startCapture path =>
      obtain ⟨cause, hcause⟩ := hsink path rfl
      rw [perform, startCapture, hcause]
      exact .refl s
  | loadTemplate path =>
      rw [perform, loadTemplate]
      split
      · exact ⟨rfl, .inl rfl⟩
      · exact .refl s

end Session

namespace Threads

variable {m m' : Threads}

/-- What the network and the user's thread leave to the reader. -/
inductive Rests (m : Threads) : Threads → Prop
  | keep {m' : Threads} (hand : m'.hand = m.hand) (closed : m'.closed = m.closed)
      (target : m'.current.target = m.current.target)
      (delivered : m'.current.delivered = m.current.delivered)
      (link : ∀ l', m'.session.link = some l' → ∃ l, m.session.link = some l ∧
        l'.number = l.number ∧ l'.target = l.target ∧ l'.finished = l.finished) : m.Rests m'
  | startLink {e : Errand} (htask : m.task = .starting e) : m.Rests (m.startLink e)

theorem Rests.of_link {f : Link → Link} (hand : m'.hand = m.hand) (closed : m'.closed = m.closed)
    (target : m'.current.target = m.current.target)
    (delivered : m'.current.delivered = m.current.delivered)
    (hlink : m'.session.link = m.session.link.map f)
    (hf : ∀ l, (f l).number = l.number ∧ (f l).target = l.target ∧ (f l).finished = l.finished) :
    m.Rests m' := by
  refine .keep hand closed target delivered ?_
  intro l' hl'
  rw [hlink] at hl'
  obtain ⟨l, hl, rfl⟩ := Option.map_eq_some_iff.mp hl'
  exact ⟨l, hl, hf l⟩

theorem Rests.of_same (hand : m'.hand = m.hand) (closed : m'.closed = m.closed)
    (current : m'.current = m.current) (hlink : m'.session.link = m.session.link) : m.Rests m' := by
  refine .keep hand closed (congrArg _ current) (congrArg _ current) ?_
  intro l hl
  exact ⟨l, hlink ▸ hl, rfl, rfl, rfl⟩

theorem Rests.of_undergoes {ops : List Terminal.Operation} (hand : m'.hand = m.hand)
    (closed : m'.closed = m.closed) (target : m'.current.target = m.current.target)
    (delivered : m'.current.delivered = m.current.delivered)
    (h : m.session.Undergoes m'.session ops) : m.Rests m' := by
  refine .keep hand closed target delivered ?_
  intro l' hl'
  rcases h.link with hsame | ⟨l, a, hl, harrived⟩
  · exact ⟨l', hsame ▸ hl', rfl, rfl, rfl⟩
  · obtain rfl : l.arrive a = l' := Option.some.inj (harrived.symm.trans hl')
    exact ⟨l, hl, rfl, rfl, rfl⟩

theorem rests_undergo {s : Session} {ops : List Terminal.Operation}
    (h : m.session.Undergoes s ops) : m.Rests (m.undergo s ops) :=
  .of_undergoes rfl rfl rfl rfl h

theorem spares_rests_proceed? {out : Outside} (h : m.proceed? out = some m') :
    m.session.Spares m'.session ∧ m.Rests m' := by
  unfold proceed? at h
  split at h
  case h_1 => cases h
  case h_2 e htask =>
    cases h
    exact ⟨⟨rfl, .inl rfl⟩, .of_same rfl rfl rfl rfl⟩
  case h_3 e htask =>
    cases h
    rw [m.session.raiseFlag_eq]
    exact ⟨⟨rfl, .inl rfl⟩, .of_link rfl rfl rfl rfl rfl fun _ => ⟨rfl, rfl, rfl⟩⟩
  case h_4 e htask =>
    obtain ⟨calls, hclose, -⟩ := m.session.closeLink_eq
    cases h
    rw [hclose]
    exact ⟨⟨rfl, .inl rfl⟩, .of_link rfl rfl rfl rfl rfl fun _ => ⟨rfl, rfl, rfl⟩⟩
  case h_5 e htask =>
    split at h
    · cases h
      refine ⟨⟨rfl, .inl rfl⟩, .keep rfl rfl rfl rfl ?_⟩
      intro l hl
      cases hl
    · cases h
  case h_6 e htask =>
    cases h
    split
    · exact ⟨.refl _, .of_same rfl rfl rfl rfl⟩
    · exact ⟨⟨rfl, .inl rfl⟩, .startLink htask⟩
  case h_7 htask =>
    cases h
    exact ⟨⟨rfl, .inl rfl⟩, .of_same rfl rfl rfl rfl⟩
  case h_8 news htask =>
    cases h
    exact ⟨⟨rfl, .inl rfl⟩, .of_same rfl rfl rfl rfl⟩
  case h_9 question bytes answers news htask =>
    cases h
    rw [answer]
    split
    · next l s hlink hsend =>
        have hspares := m.session.spares_send out bytes
        rw [hsend] at hspares
        exact ⟨hspares, .of_undergoes rfl rfl rfl rfl (Session.undergoes_send hsend)⟩
    · exact ⟨.refl _, .of_same rfl rfl rfl rfl⟩

theorem rests_request (m : Threads) (out : Outside) (r : Request) : m.Rests (m.request out r) := by
  cases r with
  | connect target => exact .of_same rfl rfl rfl rfl
  | reconnect =>
      rw [request]
      split
      · exact .of_same rfl rfl rfl rfl
      · exact .of_same rfl rfl rfl rfl
  | disconnect => exact .of_same rfl rfl rfl rfl
  | poll => exact .of_same rfl rfl rfl rfl
  | _ =>
      rw [m.request_eq_undergo out rfl]
      exact rests_undergo (m.session.undergoes_perform out _ rfl)

theorem spares_request (m : Threads) {out : Outside} {r : Request}
    (hsink : ∀ path, r = .startCapture path →
      ∃ cause, m.session.files.openForWriting path false = .error cause) :
    m.session.Spares (m.request out r).session := by
  cases r with
  | connect target => exact .refl _
  | reconnect =>
      rw [request]
      split
      · exact .refl _
      · exact .refl _
  | disconnect => exact .refl _
  | poll => exact .refl _
  | _ =>
      rw [m.request_eq_undergo out rfl]
      exact m.session.spares_perform out _ rfl hsink

/-- All moves but those of the reader. -/
theorem rests_step? {move : Move} (h : m.step? move = some m')
    (hmove : ∀ move', move ≠ .reader move') : m.Rests m' := by
  cases move with
  | arrival a =>
      obtain ⟨s, hs, rfl⟩ := Option.map_eq_some_iff.mp h
      exact rests_undergo (Session.undergoes_arrive hs)
  | merge =>
      obtain ⟨l, hlink, rfl⟩ := Option.map_eq_some_iff.mp h
      refine .keep rfl rfl rfl rfl ?_
      intro l' hl'
      obtain rfl := Option.some.inj hl'
      exact ⟨l, hlink, rfl, rfl, rfl⟩
  | reader move => exact absurd rfl (hmove move)
  | request out r =>
      rw [step?] at h
      split at h
      · cases h
        exact m.rests_request out r
      · cases h
  | proceed out => exact (spares_rests_proceed? h).2
  | blinkTimer =>
      cases h
      exact rests_undergo (m.session.undergoes_mapScreen _ .toggleBlinkPhase rfl)

/-- What a move of the reader leaves, beside what it does to its own link. -/
theorem reader_of_step? {move : ReaderMove} (h : m.step? (.reader move) = some m') :
    ∃ l r, m.session.link = some l ∧ l.finished = false ∧
      Reading.Moves ⟨l, m.hand, m.current⟩ move r ∧ m'.session.link = some r.link ∧
      m'.hand = r.hand ∧ m'.current = r.account ∧ m'.closed = m.closed := by
  rw [step?, readerStep?] at h
  split at h
  · next l hlink =>
      split at h
      · cases h
      · next hrunning =>
          obtain ⟨r, hr, rfl⟩ := Option.map_eq_some_iff.mp h
          obtain ⟨files, capture, asked, heffect⟩ :=
            effect_eq { m.setLink r.link with hand := r.hand, current := r.account } l.number move
              m.hand
          rw [heffect]
          exact ⟨l, r, hlink, Bool.eq_false_iff.mpr hrunning, Reading.moves_of_step? hr, rfl, rfl,
            rfl, rfl⟩
  · cases h

theorem Rests.hand_eq (h : m.Rests m') : m'.hand = m.hand := by
  cases h with
  | keep hand => exact hand
  | startLink => rfl

end Threads

end DasherTerminal
