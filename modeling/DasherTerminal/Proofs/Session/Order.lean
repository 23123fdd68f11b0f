import DasherTerminal.Proofs.Session.Reading
import DasherTerminal.Proofs.Session.Schedule

/-!
# One link at a time, and in order

Whatever the moves and their order, the terminal is fed a prefix of what came in
on the first link, then one of what came in on the second, and so on. A link
that is not in use any more feeds nothing, and one that poll left behind has fed
everything that was read from it.
-/

namespace DasherTerminal

namespace Threads

/-- The errand on which the old link is still there. -/
def Task.errand? : Task → Option Errand
  | .opening e => some e
  | .raising e => some e
  | .closing e => some e
  | .joining e => some e
  | _ => none

/-- The flag has been raised, and the link not been let go. -/
def Task.isStopping : Task → Bool
  | .closing _ => true
  | .joining _ => true
  | _ => false

/-- The task can be taken up without a look at the link. -/
def Task.isUnconditional : Task → Bool
  | .starting _ => false
  | task => task.errand? ≠ some .leaveHungUp

theorem Task.errand?_ne {task : Task} (h : task.isUnconditional = true) :
    task.errand? ≠ some .leaveHungUp := by
  cases task with
  | starting e => cases h
  | _ => exact of_decide_eq_true h

/-- What the user's thread knows about the link. -/
structure Informed (m : Threads) : Prop where
  flag : ∀ l, m.session.link = some l → l.stopping = true → m.task.isStopping = true
  /-- Poll leaves a link only when its reader has fed all that it read. -/
  hungUp : m.task.errand? = some .leaveHungUp →
    (∃ l, m.session.link = some l ∧ l.finished = true) ∧
      m.current.processed = m.current.delivered
  starting : ∀ e, m.task = .starting e → m.session.link = none

/-- The invariant of all moves, from a terminal on. -/
structure Orderly (terminal : Terminal) (m : Threads) : Prop where
  terminal : m.session.terminal = terminal.performAll m.past
  fed : m.past.flatMap Terminal.Operation.fed = (m.accounts.map Account.processed).flatten
  opened : m.accounts.length = m.session.opened
  number : ∀ l, m.session.link = some l → l.number + 1 = m.session.opened
  earlier : ∀ a ∈ m.earlier, a.Sound
  reading : ∀ l, m.session.link = some l → Reading.Sound ⟨l, m.hand, m.current⟩
  hand : m.session.link = none → m.hand = .empty
  informed : m.Informed

/-- What a move keeps: the invariant, and the records of links that are not in
use any more. -/
structure Keeps (terminal : Terminal) (m m' : Threads) : Prop where
  orderly : m'.Orderly terminal
  earlier : m.earlier <+: m'.earlier

theorem Keeps.trans {terminal : Terminal} {m₁ m₂ m₃ : Threads} (h₁ : Keeps terminal m₁ m₂)
    (h₂ : Keeps terminal m₂ m₃) : Keeps terminal m₁ m₃ :=
  ⟨h₂.orderly, h₁.earlier.trans h₂.earlier⟩

theorem orderly_start (terminal : Terminal) (encoder : Encoder) (files : Files) :
    (start terminal encoder files).Orderly terminal where
  terminal := rfl
  fed := rfl
  opened := rfl
  number := by
    intro l hl
    obtain rfl : Link.fresh 0 none = l := Option.some.inj hl
    rfl
  earlier := by
    intro a ha
    simp [Threads.earlier, start] at ha
  reading := by
    intro l hl
    obtain rfl : Link.fresh 0 none = l := Option.some.inj hl
    exact Reading.sound_fresh 0 none
  hand := fun _ => rfl
  informed := by
    refine ⟨?_, ?_, ?_⟩
    · intro l hl hstopping
      obtain rfl : Link.fresh 0 none = l := Option.some.inj hl
      cases hstopping
    · intro herrand
      cases herrand
    · intro e he
      cases he

variable {terminal : Terminal} {m m' : Threads}

theorem earlier_of_some {l : Link} (h : m.session.link = some l) : m.earlier = m.closed := by
  rw [Threads.earlier, h]
  rfl

theorem earlier_of_none (h : m.session.link = none) : m.earlier = m.accounts := by
  rw [Threads.earlier, h]
  rfl

/-- The user's thread may change its task where the link has not changed. -/
theorem Informed.of_task (h : m.Informed) (hlink : m'.session.link = m.session.link)
    (hcurrent : m'.current = m.current)
    (hflag : m.task.isStopping = true → m'.task.isStopping = true)
    (herrand : m'.task.errand? = some .leaveHungUp → m.task.errand? = some .leaveHungUp)
    (hstarting : ∀ e, m'.task = .starting e → m.task = .starting e) : m'.Informed where
  flag := by
    intro l hl hstopping
    exact hflag (h.flag l (hlink ▸ hl) hstopping)
  hungUp := by
    rw [hlink, hcurrent]
    exact fun hhungUp => h.hungUp (herrand hhungUp)
  starting := by
    intro e he
    rw [hlink]
    exact h.starting e (hstarting e he)

/-- The link changes, but neither its flag goes up nor its reader ends. -/
theorem Informed.of_link (h : m.Informed) {l l' : Link} (hlink : m.session.link = some l)
    (hlink' : m'.session.link = some l') (hflag : l'.stopping = l.stopping)
    (htask : m'.task = m.task)
    (hended : l.finished = true → l'.finished = true ∧
      m'.current.processed = m.current.processed ∧ m'.current.delivered = m.current.delivered) :
    m'.Informed where
  flag := by
    intro k hk
    obtain rfl : l' = k := Option.some.inj (hlink'.symm.trans hk)
    rw [hflag, htask]
    exact h.flag l hlink
  hungUp := by
    rw [htask]
    intro herrand
    obtain ⟨⟨k, hk, hfinished⟩, hprocessed⟩ := h.hungUp herrand
    obtain rfl : l = k := Option.some.inj (hlink.symm.trans hk)
    obtain ⟨hfinished', hprocessed', hdelivered'⟩ := hended hfinished
    exact ⟨⟨l', hlink', hfinished'⟩, hprocessed'.trans (hprocessed.trans hdelivered'.symm)⟩
  starting := by
    rw [htask]
    intro e he
    exact absurd (h.starting e he) (by simp [hlink])

/-- While a link is in use, moves add to what it has fed. -/
theorem Orderly.advance (h : m.Orderly terminal) {l l' : Link} {ops : List Terminal.Operation}
    (hlink : m.session.link = some l) (hlink' : m'.session.link = some l')
    (hclosed : m'.closed = m.closed) (hopened : m'.session.opened = m.session.opened)
    (hnumber : l'.number = l.number) (hpast : m'.past = m.past ++ ops)
    (hterminal : m'.session.terminal = m.session.terminal.performAll ops)
    (hprocessed : m'.current.processed =
      m.current.processed ++ ops.flatMap Terminal.Operation.fed)
    (hreading : Reading.Sound ⟨l', m'.hand, m'.current⟩) (hinformed : m'.Informed) :
    Keeps terminal m m' := by
  have hearlier : m'.earlier = m.earlier := by
    rw [earlier_of_some hlink, earlier_of_some hlink', hclosed]
  refine ⟨⟨?_, ?_, ?_, ?_, ?_, ?_, ?_, hinformed⟩, hearlier ▸ List.prefix_rfl⟩
  · rw [hterminal, hpast, Terminal.performAll_append, h.terminal]
  · have hfed := h.fed
    simp only [accounts, List.map_append, List.map_cons, List.map_nil, List.flatten_append,
      List.flatten_cons, List.flatten_nil, List.append_nil] at hfed ⊢
    rw [hpast, hclosed, hprocessed, List.flatMap_append, hfed, List.append_assoc]
  · have hcount := h.opened
    simp only [accounts, List.length_append, List.length_cons, List.length_nil] at hcount ⊢
    rw [hclosed, hopened, hcount]
  · intro k hk
    obtain rfl : l' = k := Option.some.inj (hlink'.symm.trans hk)
    rw [hnumber, hopened]
    exact h.number l hlink
  · rw [hearlier]
    exact h.earlier
  · intro k hk
    obtain rfl : l' = k := Option.some.inj (hlink'.symm.trans hk)
    exact hreading
  · intro hnone
    rw [hlink'] at hnone
    cases hnone

/-- Without a link nothing is fed. -/
theorem Orderly.idle (h : m.Orderly terminal) {ops : List Terminal.Operation}
    (hlink : m.session.link = none) (hlink' : m'.session.link = none)
    (hclosed : m'.closed = m.closed) (hcurrent : m'.current = m.current)
    (hopened : m'.session.opened = m.session.opened) (hhand : m'.hand = m.hand)
    (hpast : m'.past = m.past ++ ops)
    (hterminal : m'.session.terminal = m.session.terminal.performAll ops)
    (hfed : ops.flatMap Terminal.Operation.fed = []) (hinformed : m'.Informed) :
    Keeps terminal m m' := by
  have haccounts : m'.accounts = m.accounts := by rw [accounts, accounts, hclosed, hcurrent]
  have hearlier : m'.earlier = m.earlier := by
    rw [earlier_of_none hlink, earlier_of_none hlink', haccounts]
  have hnever : ∀ {P : Prop} (l : Link), m'.session.link = some l → P := by
    intro P l hl
    rw [hlink'] at hl
    cases hl
  refine ⟨⟨?_, ?_, ?_, fun l hl => hnever l hl, ?_, fun l hl => hnever l hl, ?_, hinformed⟩,
    hearlier ▸ List.prefix_rfl⟩
  · rw [hterminal, hpast, Terminal.performAll_append, h.terminal]
  · rw [hpast, List.flatMap_append, hfed, List.append_nil, haccounts]
    exact h.fed
  · rw [haccounts, hopened]
    exact h.opened
  · rw [hearlier]
    exact h.earlier
  · intro _
    rw [hhand]
    exact h.hand hlink

/-- Neither does anything come in nor does the reader move. -/
theorem Orderly.turn (h : m.Orderly terminal) {ops : List Terminal.Operation}
    (hpast : m'.past = m.past ++ ops)
    (hterminal : m'.session.terminal = m.session.terminal.performAll ops)
    (hfed : ops.flatMap Terminal.Operation.fed = []) (hlink : m'.session.link = m.session.link)
    (hopened : m'.session.opened = m.session.opened) (hhand : m'.hand = m.hand)
    (hclosed : m'.closed = m.closed) (hcurrent : m'.current = m.current)
    (hinformed : m'.Informed) : Keeps terminal m m' := by
  cases hl : m.session.link with
  | none =>
      have hl' : m'.session.link = none := hlink.trans hl
      exact h.idle hl hl' hclosed hcurrent hopened hhand hpast hterminal hfed hinformed
  | some l =>
      have hl' : m'.session.link = some l := hlink.trans hl
      refine h.advance hl hl' hclosed hopened rfl hpast hterminal ?_ ?_ hinformed
      · rw [hcurrent, hfed, List.append_nil]
      · rw [hhand, hcurrent]
        exact h.reading l hl

/-- The user's thread goes on to another task, and nothing else happens that the
records of links show. -/
theorem Orderly.goOn (h : m.Orderly terminal) {s : Session} {task : Task} {asked : List Question}
    {answered : List Delivery} (hterminal : s.terminal = m.session.terminal)
    (hlink : s.link = m.session.link) (hopened : s.opened = m.session.opened)
    (hinformed : Informed { m with session := s, task, asked, answered }) :
    Keeps terminal m { m with session := s, task, asked, answered } :=
  h.turn (List.append_nil _).symm hterminal rfl hlink hopened rfl rfl rfl hinformed

/-- Any errand but that on a hung-up link begins without a look at the link. -/
theorem Orderly.goOnTo (h : m.Orderly terminal) {s : Session} {task : Task} {asked : List Question}
    {answered : List Delivery} (hterminal : s.terminal = m.session.terminal)
    (hlink : s.link = m.session.link) (hopened : s.opened = m.session.opened)
    (hbefore : m.task.isStopping = false) (htask : task.isUnconditional = true) :
    Keeps terminal m { m with session := s, task, asked, answered } := by
  refine h.goOn hterminal hlink hopened (h.informed.of_task hlink rfl ?_ ?_ ?_)
  · intro hstopping
    rw [hbefore] at hstopping
    cases hstopping
  · exact fun herrand => absurd herrand (Task.errand?_ne htask)
  · rintro e rfl
    cases htask

/-! ### What comes in -/

theorem unread_arrive (l : Link) (a : Arrival) : (l.arrive a).unread = l.unread ++ a.content := by
  simp [Link.unread, Link.arrive]

theorem unread_merged (inbound : List Arrival) :
    (merged inbound).flatMap Arrival.content = inbound.flatMap Arrival.content := by
  unfold merged
  split
  · simp [Arrival.content]
  · rfl

theorem Orderly.undergo (h : m.Orderly terminal) {s : Session} {ops : List Terminal.Operation}
    (hs : m.session.Undergoes s ops) (hfed : ops.flatMap Terminal.Operation.fed = []) :
    Keeps terminal m (m.undergo s ops) := by
  obtain hsame | ⟨l, a, hlink, hlink'⟩ := hs.link
  · have hcurrent : (m.undergo s ops).current = m.current := by
      have hunread : s.unread = m.session.unread := by rw [Session.unread, Session.unread, hsame]
      rw [Threads.undergo, hunread, List.drop_length, List.append_nil]
    have hinformed : (m.undergo s ops).Informed :=
      h.informed.of_task hsame hcurrent id id fun _ => id
    exact h.turn rfl hs.terminal hfed hsame hs.opened rfl rfl hcurrent hinformed
  · have hsound := h.reading l hlink
    have hinformed : (m.undergo s ops).Informed :=
      h.informed.of_link hlink hlink' rfl rfl fun hfinished => ⟨hfinished, rfl, rfl⟩
    refine h.advance hlink hlink' rfl hs.opened rfl rfl hs.terminal ?_ ?_ hinformed
    · rw [hfed, List.append_nil]
      rfl
    · refine hsound.of_link rfl rfl id ?_
      have hold : m.session.unread = l.unread := by
        rw [Session.unread, hlink]
        rfl
      have hnew : s.unread = l.unread ++ a.content := by
        rw [Session.unread, hlink', Option.map_some, Option.getD_some, unread_arrive]
      rw [hold, hnew, List.drop_left, hsound.inbound, List.append_assoc, unread_arrive]

theorem Orderly.merge (h : m.Orderly terminal) {l : Link} (hlink : m.session.link = some l) :
    Keeps terminal m (m.setLink { l with inbound := merged l.inbound }) := by
  have hsound := h.reading l hlink
  have hinformed : (m.setLink { l with inbound := merged l.inbound }).Informed :=
    h.informed.of_link hlink rfl rfl rfl fun hfinished => ⟨hfinished, rfl, rfl⟩
  refine h.advance hlink rfl rfl rfl rfl (List.append_nil _).symm rfl (List.append_nil _).symm ?_
    hinformed
  refine hsound.of_link rfl rfl id ?_
  rw [hsound.inbound, Link.unread, Link.unread, unread_merged]

/-! ### The reader's moves -/

theorem Orderly.reader (h : m.Orderly terminal) {l : Link} {r : Reading} {move : ReaderMove}
    (hlink : m.session.link = some l) (hrunning : l.finished = false)
    (hstep : Reading.step? ⟨l, m.hand, m.current⟩ move = some r) :
    Keeps terminal m ({ m.setLink r.link with hand := r.hand, current := r.account }.effect l.number
      move m.hand) := by
  have hmoves := Reading.moves_of_step? hstep
  have hsound := (h.reading l hlink).moves hrunning hmoves
  obtain ⟨hnumber, hstopping⟩ := hmoves.frame
  obtain ⟨files, capture, asked, heffect⟩ :=
    effect_eq { m.setLink r.link with hand := r.hand, current := r.account } l.number move m.hand
  rw [heffect]
  refine h.advance hlink rfl rfl rfl hnumber rfl rfl hmoves.fed hsound ?_
  refine h.informed.of_link hlink rfl hstopping rfl ?_
  intro hfinished
  rw [hrunning] at hfinished
  cases hfinished

/-! ### The user's thread -/

/-- A reader that has ended though nobody asked it to has fed all that it read. -/
theorem Orderly.processed_of_isHungUp (h : m.Orderly terminal) (hfree : m.task = .free)
    (hhungUp : m.session.isHungUp = true) :
    (∃ l, m.session.link = some l ∧ l.finished = true) ∧
      m.current.processed = m.current.delivered := by
  obtain ⟨l, hlink, hended⟩ := (Option.any_eq_true _ _).mp hhungUp
  have hfinished : l.finished = true := (Bool.and_eq_true_iff.mp hended).1
  have hsound := h.reading l hlink
  obtain ⟨hhand, hheld⟩ := hsound.ended hfinished
  have hflag : l.stopping = false := by
    refine Bool.eq_false_iff.mpr fun hstopping => ?_
    have htask := h.informed.flag l hlink hstopping
    rw [hfree] at htask
    cases htask
  have hwhole := hsound.whole hflag
  rw [hhand, hheld, Hand.waiting, List.append_nil] at hwhole
  exact ⟨⟨l, hlink, hfinished⟩, hwhole⟩

theorem Orderly.begin (h : m.Orderly terminal) {e : Errand} (hfree : m.task = .free)
    (hhungUp : e = .leaveHungUp → m.session.isHungUp = true) :
    Keeps terminal m { m with task := .opening e } := by
  refine h.goOn rfl rfl rfl ⟨?_, ?_, ?_⟩
  · intro l hl hstopping
    have htask := h.informed.flag l hl hstopping
    rw [hfree] at htask
    cases htask
  · intro herrand
    exact h.processed_of_isHungUp hfree (hhungUp (Option.some.inj herrand))
  · intro k hk
    cases hk

theorem Orderly.openNext (h : m.Orderly terminal) {e : Errand} (htask : m.task = .opening e)
    (call : Call) :
    Keeps terminal m { m with session := m.session.log call, task := .raising e } := by
  refine h.goOn rfl rfl rfl (h.informed.of_task rfl rfl ?_ ?_ ?_)
  · intro hstopping
    rw [htask] at hstopping
    cases hstopping
  · intro herrand
    rw [htask]
    exact herrand
  · intro k hk
    cases hk

/-- On the way to stop the reader only the link changes, and not so that the
reader would notice that from what it holds. -/
theorem Orderly.stopping (h : m.Orderly terminal) {e : Errand} {task : Task} {s : Session}
    {f : Link → Link} (herrand : m.task.errand? = some e) (herrand' : task.errand? = some e)
    (hstopping : task.isStopping = true) (hterminal : s.terminal = m.session.terminal)
    (hopened : s.opened = m.session.opened) (hlink : s.link = m.session.link.map f)
    (hkept : ∀ l, (f l).number = l.number ∧ (f l).held = l.held ∧ (f l).finished = l.finished ∧
      (f l).unread = l.unread)
    (hflag : ∀ l, (f l).stopping = false → l.stopping = false) :
    Keeps terminal m { m with session := s, task } := by
  have hinformed : Informed { m with session := s, task } := by
    refine ⟨fun _ _ _ => hstopping, ?_, ?_⟩
    · intro hhungUp
      have hleave : e = .leaveHungUp := Option.some.inj (herrand'.symm.trans hhungUp)
      obtain ⟨⟨l, hl, hfinished⟩, hprocessed⟩ := h.informed.hungUp (hleave ▸ herrand)
      have hsome : s.link = some (f l) := by rw [hlink, hl, Option.map_some]
      exact ⟨⟨f l, hsome, (hkept l).2.2.1.trans hfinished⟩, hprocessed⟩
    · rintro k rfl
      cases herrand'
  have hnothing : m.past = m.past ++ [] := (List.append_nil _).symm
  cases hl : m.session.link with
  | none =>
      have hnone : s.link = none := by rw [hlink, hl, Option.map_none]
      exact h.goOn hterminal (hnone.trans hl.symm) hopened hinformed
  | some l =>
      obtain ⟨hnumber, hheld, hfinished, hunread⟩ := hkept l
      have hsome : s.link = some (f l) := by rw [hlink, hl, Option.map_some]
      refine h.advance hl hsome rfl hopened hnumber hnothing hterminal (List.append_nil _).symm ?_
        hinformed
      refine (h.reading l hl).of_link hheld hfinished (hflag l) ?_
      rw [hunread]
      exact (h.reading l hl).inbound

theorem Orderly.raise (h : m.Orderly terminal) {e : Errand} (htask : m.task = .raising e) :
    Keeps terminal m { m with session := m.session.raiseFlag, task := .closing e } := by
  have herrand : m.task.errand? = some e := by rw [htask, Task.errand?]
  rw [m.session.raiseFlag_eq]
  refine h.stopping herrand rfl rfl rfl rfl rfl ?_ ?_
  · exact fun l => ⟨rfl, rfl, rfl, rfl⟩
  · intro l hdown
    cases hdown

theorem Orderly.close (h : m.Orderly terminal) {e : Errand} (htask : m.task = .closing e) :
    Keeps terminal m { m with session := m.session.closeLink, task := .joining e } := by
  have herrand : m.task.errand? = some e := by rw [htask, Task.errand?]
  obtain ⟨calls, hclose, -⟩ := m.session.closeLink_eq
  rw [hclose]
  refine h.stopping herrand rfl rfl rfl rfl rfl ?_ ?_
  · intro l
    have hcontent : Arrival.ending.content = [] := rfl
    refine ⟨rfl, rfl, rfl, ?_⟩
    rw [unread_arrive, hcontent, List.append_nil]
  · exact fun l => id

/-- The reader has ended when its link is let go, so the record of that is
complete. -/
theorem Orderly.release (h : m.Orderly terminal) {e : Errand} (htask : m.task = .joining e)
    (hended : m.session.link.all Link.finished = true) : Keeps terminal m (m.release e) := by
  have hnever : ∀ {P : Prop} (l : Link), (m.release e).session.link = some l → P := by
    intro P l hl
    cases hl
  have hinformed : (m.release e).Informed := by
    refine ⟨fun l hl => hnever l hl, ?_, fun _ _ => rfl⟩
    intro herrand
    cases herrand
  have hleft : e = .leaveHungUp → m.session.link ≠ none ∧
      m.current.processed = m.current.delivered := by
    rintro rfl
    obtain ⟨⟨l, hl, -⟩, hprocessed⟩ := h.informed.hungUp (by rw [htask, Task.errand?])
    exact ⟨by simp [hl], hprocessed⟩
  cases hlink : m.session.link with
  | none =>
      have hcurrent : (m.release e).current = m.current := by
        have hne : e ≠ .leaveHungUp := fun he => (hleft he).1 hlink
        simp [Threads.release, hne]
      exact h.turn (List.append_nil _).symm rfl rfl hlink.symm rfl rfl rfl hcurrent hinformed
  | some l =>
      have hfinished : l.finished = true := by
        rw [hlink] at hended
        exact hended
      have hreading := h.reading l hlink
      have haccount : (m.release e).current.Sound := by
        refine ⟨hreading.processed_prefix, hreading.account.delivered, ?_⟩
        intro hhungUp
        rw [Threads.release, Bool.or_eq_true, decide_eq_true_iff] at hhungUp
        exact hhungUp.elim hreading.account.hungUp fun he => (hleft he).2
      have hearlier : (m.release e).earlier = m.earlier ++ [(m.release e).current] := by
        rw [earlier_of_some hlink]
        exact earlier_of_none rfl
      -- The record moves to the earlier ones, where only its own soundness is asked for.
      refine ⟨⟨h.terminal, ?_, ?_, fun l hl => hnever l hl, ?_, fun l hl => hnever l hl, ?_,
        hinformed⟩, ?_⟩
      · have hfed := h.fed
        rw [Threads.accounts, List.map_append] at hfed ⊢
        exact hfed
      · have hcount := h.opened
        rw [Threads.accounts, List.length_append] at hcount ⊢
        exact hcount
      · rw [hearlier]
        intro a ha
        obtain ha | ha := List.mem_append.mp ha
        · exact h.earlier a ha
        · exact List.mem_singleton.mp ha ▸ haccount
      · exact fun _ => (hreading.ended hfinished).1
      · rw [hearlier]
        exact List.prefix_append _ _

theorem Orderly.startLink (h : m.Orderly terminal) {e : Errand} (htask : m.task = .starting e) :
    Keeps terminal m (m.startLink e) := by
  have hlink : m.session.link = none := h.informed.starting e htask
  have hlink' : (m.startLink e).session.link = some (.fresh m.session.opened e.target?) := rfl
  have hclosed : (m.startLink e).closed = m.accounts := rfl
  have hearlier : (m.startLink e).earlier = m.earlier := by
    rw [earlier_of_none hlink, earlier_of_some hlink', hclosed]
  have haccounts : (m.startLink e).accounts = m.accounts ++ [.fresh e.target?] := rfl
  refine ⟨⟨h.terminal, ?_, ?_, ?_, ?_, ?_, ?_, ?_, ?_, ?_⟩, hearlier ▸ List.prefix_rfl⟩
  · rw [haccounts, List.map_append, List.flatten_append, ← h.fed]
    exact (List.append_nil _).symm
  · rw [haccounts, List.length_append, h.opened]
    rfl
  · intro l hl
    obtain rfl := Option.some.inj (hlink'.symm.trans hl)
    rfl
  · rw [hearlier]
    exact h.earlier
  · intro l hl
    obtain rfl := Option.some.inj (hlink'.symm.trans hl)
    have hhand : (m.startLink e).hand = .empty := h.hand hlink
    rw [hhand]
    exact Reading.sound_fresh _ _
  · intro hnone
    rw [hlink'] at hnone
    cases hnone
  · intro l hl hstopping
    obtain rfl := Option.some.inj (hlink'.symm.trans hl)
    cases hstopping
  · intro herrand
    rw [Threads.startLink] at herrand
    split at herrand <;> cases herrand
  · intro k hk
    rw [Threads.startLink] at hk
    split at hk <;> cases hk

theorem Orderly.drain (h : m.Orderly terminal) (htask : m.task = .draining) :
    Keeps terminal m m.drain := by
  refine h.turn rfl rfl rfl rfl rfl rfl rfl rfl (h.informed.of_task rfl rfl ?_ ?_ ?_)
  · intro hstopping
    rw [htask] at hstopping
    cases hstopping
  · intro herrand
    cases herrand
  · intro e he
    cases he

theorem Orderly.steps (h : m.Orderly terminal) (hstep : m.Steps m') : Keeps terminal m m' := by
  -- Where the task before is known, so is that it does not stop the reader.
  have hbefore : ∀ {task}, m.task = task → task.isStopping = false → m.task.isStopping = false := by
    intro task htask hnot
    rw [htask]
    exact hnot
  cases hstep with
  | stay => exact ⟨h, List.prefix_rfl⟩
  | undergo hs hfed => exact h.undergo hs hfed
  | merge hlink => exact h.merge hlink
  | reader hlink hrunning hmove => exact h.reader hlink hrunning hmove
  | begin hfree hhungUp => exact h.begin hfree hhungUp
  | look hfree => exact h.goOnTo rfl rfl rfl (hbefore hfree rfl) rfl
  | fail htask => exact h.goOnTo rfl rfl rfl (hbefore htask rfl) rfl
  | openNext htask => exact h.openNext htask _
  | raise htask => exact h.raise htask
  | close htask => exact h.close htask
  | release htask hended => exact h.release htask hended
  | giveUp htask => exact h.goOnTo rfl rfl rfl (hbefore htask rfl) rfl
  | startLink htask => exact h.startLink htask
  | drain htask => exact h.drain htask
  | answer htask hlink hsend =>
      have hundergo := h.undergo (Session.undergoes_send hsend) rfl
      exact hundergo.trans (hundergo.orderly.goOnTo rfl rfl rfl (hbefore htask rfl) rfl)
  | lose htask => exact h.goOnTo rfl rfl rfl (hbefore htask rfl) rfl
  | notify htask => exact h.goOnTo rfl rfl rfl (hbefore htask rfl) rfl

theorem Orderly.run (h : m.Orderly terminal) (moves : List Move) :
    Keeps terminal m (m.run moves) := by
  refine run_induction (P := Keeps terminal m) ?_ ⟨h, List.prefix_rfl⟩ moves
  intro m₁ m₂ hkeeps hstep
  exact hkeeps.trans (hkeeps.orderly.steps hstep)

theorem Orderly.sound (h : m.Orderly terminal) {a : Account} (ha : a ∈ m.accounts) : a.Sound := by
  cases hlink : m.session.link with
  | none => exact h.earlier a (earlier_of_none hlink ▸ ha)
  | some l =>
      obtain hclosed | hcurrent := List.mem_append.mp ha
      · exact h.earlier a (earlier_of_some hlink ▸ hclosed)
      · rw [List.mem_singleton.mp hcurrent]
        exact (h.reading l hlink).account

theorem earlier_prefix_accounts (m : Threads) : m.earlier <+: m.accounts := by
  cases hlink : m.session.link with
  | none => exact earlier_of_none hlink ▸ List.prefix_rfl
  | some l => exact earlier_of_some hlink ▸ List.prefix_append _ _

/-- The links before the one in use are those with smaller numbers. -/
theorem Orderly.earlier_eq_take (h : m.Orderly terminal) :
    m.earlier = m.accounts.take ((m.session.link.map Link.number).getD m.session.opened) := by
  have hopened := h.opened
  cases hlink : m.session.link with
  | none =>
      rw [earlier_of_none hlink, Option.map_none, Option.getD_none, ← hopened, List.take_length]
  | some l =>
      have hnumber := h.number l hlink
      rw [accounts, List.length_append, List.length_singleton] at hopened
      have hcount : l.number = m.closed.length := by omega
      rw [earlier_of_some hlink, Option.map_some, Option.getD_some, hcount, accounts,
        List.take_left]

/-- One link at a time feeds the terminal, and each with a prefix of what came
in. What is on record of the links before does not change any more. Runs of a
session are among the runs of its threads. -/
theorem fed_in_order (setup : Terminal.Setup) (encoder : Encoder) (files : Files) :
    (∀ moves,
      let m := (start (.fresh setup) encoder files).run moves
      m.session.terminal = (Terminal.fresh setup).performAll m.past ∧
      m.past.flatMap Terminal.Operation.fed = (m.accounts.map Account.processed).flatten ∧
      m.accounts.length = m.session.opened ∧
      (∀ a ∈ m.accounts, a.processed <+: a.delivered ∧ a.delivered <+: a.inbound ∧
        (a.hungUp = true → a.processed = a.delivered)) ∧
      m.earlier = m.accounts.take ((m.session.link.map Link.number).getD m.session.opened) ∧
      ∀ more, m.earlier <+: (m.run more).accounts) ∧
    ∀ events, ∃ moves, ((start (.fresh setup) encoder files).run moves).session =
      (start (.fresh setup) encoder files).session.run events := by
  refine ⟨?_, exists_run_eq setup encoder files⟩
  intro moves m
  have h : m.Orderly (.fresh setup) := ((orderly_start _ encoder files).run moves).orderly
  refine ⟨h.terminal, h.fed, h.opened, ?_, h.earlier_eq_take, ?_⟩
  · intro a ha
    have hsound := h.sound ha
    exact ⟨hsound.processed, hsound.delivered, hsound.hungUp⟩
  · intro more
    exact (h.run more).earlier.trans (m.run more).earlier_prefix_accounts

/-- Two of three bytes are processed when the user leaves the host. -/
example :
    let m := (start (.fresh default) default .empty).run
      [.request .fair (.connect (.telnet "mv" 23)), .proceed .fair, .proceed .fair, .proceed .fair,
        .reader .finish, .proceed .fair, .proceed .fair,
        .arrival (.bytes [0x41, 0x42, 0x43]), .reader (.read 3), .reader .look, .reader .copy,
        .reader .look, .reader .process, .request .fair .disconnect, .reader .look,
        .proceed .fair, .reader .process, .proceed .fair, .reader .look,
        .proceed .fair, .reader .finish, .proceed .fair, .proceed .fair]
    m.accounts.map Account.processed = [[], [0x41, 0x42], []] ∧ m.earlier.length = 2 ∧
      m.task = .free := by
  decide +kernel

end Threads

end DasherTerminal
