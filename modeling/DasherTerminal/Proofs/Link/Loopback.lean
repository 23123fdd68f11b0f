import DasherTerminal.Link.Loopback

/-!
# What is written to a loopback is read from it

Whatever is done with a loopback and with its reader, the reads give what was
written, in order and without a gap, however the pieces were cut and whatever
sizes the reads have. A read gives nothing only when the loopback is closed and
everything was read.
-/

namespace DasherTerminal.Loopback

/-! ### Operations -/

/-- What is done with a loopback or with its reader. -/
inductive Operation where
  | write (bytes : List UInt8)
  | takeReader
  | read (n : Nat)
  | dropReader
  | close
  deriving DecidableEq, Repr

inductive Outcome where
  | done
  | refused (fault : Fault)
  /-- What a read gives. -/
  | gave (bytes : List UInt8)
  /-- It is not performed: the read would wait, or nobody has the reader. -/
  | withheld
  deriving DecidableEq, Repr

structure Event where
  operation : Operation
  outcome : Outcome
  deriving DecidableEq, Repr

/-- A fault leaves the loopback as it was. -/
def attempt (l : Loopback) : Except Fault Loopback → Outcome × Loopback
  | .ok l' => (.done, l')
  | .error fault => (.refused fault, l)

def perform (l : Loopback) : Operation → Outcome × Loopback
  | .write bytes => l.attempt (l.write bytes)
  | .takeReader => l.attempt l.takeReader
  | .read n =>
    if l.holder = .taken then
      match l.read n with
      | some (bytes, l') => (.gave bytes, l')
      | none => (.withheld, l)
    else (.withheld, l)
  | .dropReader => if l.holder = .taken then (.done, l.dropReader) else (.withheld, l)
  | .close => (.done, l.close)

/-- The log of operations one after another, and the loopback after them. -/
def run (l : Loopback) : List Operation → List Event × Loopback
  | [] => ([], l)
  | op :: ops =>
    let (outcome, l) := l.perform op
    let (log, l) := l.run ops
    (⟨op, outcome⟩ :: log, l)

/-! ### What a log says -/

/-- A write that is refused adds nothing. -/
def Event.written : Event → List UInt8
  | ⟨.write bytes, .done⟩ => bytes
  | _ => []

def Event.given : Event → List UInt8
  | ⟨.read _, .gave bytes⟩ => bytes
  | _ => []

def written (log : List Event) : List UInt8 := log.flatMap Event.written

def given (log : List Event) : List UInt8 := log.flatMap Event.given

def Closed (log : List Event) : Prop := ⟨.close, .done⟩ ∈ log

def Claimed (log : List Event) : Prop := ⟨.takeReader, .done⟩ ∈ log

def Dropped (log : List Event) : Prop := ⟨.dropReader, .done⟩ ∈ log

def HasReader (log : List Event) : Prop := Claimed log ∧ ¬Dropped log

instance (log : List Event) : Decidable (Closed log) := inferInstanceAs (Decidable (_ ∈ log))

instance (log : List Event) : Decidable (Claimed log) := inferInstanceAs (Decidable (_ ∈ log))

instance (log : List Event) : Decidable (Dropped log) := inferInstanceAs (Decidable (_ ∈ log))

/-- What an operation comes to after what is on the log. -/
def Lawful (log : List Event) : Event → Prop
  | ⟨.write _, outcome⟩ =>
    (outcome = .done ∨ outcome = .refused .notConnected) ∧
      (outcome = .done ↔ ¬Closed log ∧ ¬Dropped log)
  | ⟨.takeReader, outcome⟩ =>
    (outcome = .done ∨ outcome = .refused .notConnected) ∧ (outcome = .done ↔ ¬Claimed log)
  | ⟨.read n, .gave bytes⟩ =>
    HasReader log ∧ bytes.length ≤ n ∧ given log ++ bytes <+: written log ∧
      (bytes = [] ↔ n = 0 ∨ Closed log ∧ given log = written log)
  | ⟨.read n, outcome⟩ =>
    outcome = .withheld ∧ (HasReader log → 0 < n ∧ ¬Closed log ∧ given log = written log)
  | ⟨.dropReader, outcome⟩ =>
    (outcome = .done ∨ outcome = .withheld) ∧ (outcome = .done ↔ HasReader log)
  | ⟨.close, outcome⟩ => outcome = .done

/-- The loopback is closed, or its reader taken or dropped. -/
def Event.isSwitch : Event → Bool
  | ⟨.close, .done⟩ => true
  | ⟨.takeReader, .done⟩ => true
  | ⟨.dropReader, .done⟩ => true
  | _ => false

variable {log : List Event} {l : Loopback}

@[simp] theorem written_concat (log : List Event) (e : Event) :
    written (log ++ [e]) = written log ++ e.written := by
  simp [written]

@[simp] theorem given_concat (log : List Event) (e : Event) :
    given (log ++ [e]) = given log ++ e.given := by
  simp [given]

/-! ### One read -/

theorem readQueue_of_flatten_eq_nil {n : Nat} {queue : List (List UInt8)}
    (h : queue.flatten = []) : readQueue n queue = none := by
  induction queue with
  | nil => rfl
  | cons piece rest ih =>
      obtain ⟨rfl, hrest⟩ := List.append_eq_nil_iff.mp h
      exact ih hrest

/-- Pieces that are empty are read over. -/
theorem exists_readQueue {n : Nat} (hn : 0 < n) {queue : List (List UInt8)}
    (h : queue.flatten ≠ []) :
    ∃ bytes rest, readQueue n queue = some (bytes, rest) ∧
      queue.flatten = bytes ++ rest.flatten ∧ bytes ≠ [] ∧ bytes.length ≤ n := by
  induction queue with
  | nil => exact absurd rfl h
  | cons piece rest ih =>
      cases piece with
      | nil => exact ih h
      | cons b piece =>
          refine ⟨(b :: piece).take n, (b :: piece).drop n :: rest, rfl, ?_, ?_, ?_⟩
          · rw [List.flatten_cons, List.flatten_cons, ← List.append_assoc, List.take_append_drop]
          · simp [Nat.pos_iff_ne_zero.mp hn]
          · exact List.length_take_le n _

/-- All that an operation can come to. -/
inductive Performs (l : Loopback) : Operation → Outcome → Loopback → Prop
  | write {bytes : List UInt8} (isOpen : l.isOpen = true) (kept : l.holder ≠ .dropped) :
      l.Performs (.write bytes) .done { l with queue := l.queue ++ [bytes] }
  | refuse {bytes : List UInt8} (shut : l.isOpen = true → l.holder = .dropped) :
      l.Performs (.write bytes) (.refused .notConnected) l
  | take (unclaimed : l.holder = .unclaimed) :
      l.Performs .takeReader .done { l with holder := .taken }
  | takeAgain (claimed : l.holder ≠ .unclaimed) :
      l.Performs .takeReader (.refused .notConnected) l
  | readNothing {n : Nat} (taken : l.holder = .taken) (zero : n = 0) :
      l.Performs (.read n) (.gave []) l
  | read {n : Nat} {bytes : List UInt8} {queue : List (List UInt8)} (taken : l.holder = .taken)
      (pos : 0 < n) (contents : l.queue.flatten = bytes ++ queue.flatten) (ne_nil : bytes ≠ [])
      (length_le : bytes.length ≤ n) : l.Performs (.read n) (.gave bytes) { l with queue }
  | readEnd {n : Nat} (taken : l.holder = .taken) (empty : l.queue.flatten = [])
      (shut : l.isOpen = false) : l.Performs (.read n) (.gave []) { l with queue := [] }
  | wait {n : Nat} (taken : l.holder = .taken) (pos : 0 < n) (empty : l.queue.flatten = [])
      (isOpen : l.isOpen = true) : l.Performs (.read n) .withheld l
  | readNobody {n : Nat} (missing : l.holder ≠ .taken) : l.Performs (.read n) .withheld l
  | drop (taken : l.holder = .taken) :
      l.Performs .dropReader .done { l with holder := .dropped, queue := [] }
  | dropNobody (missing : l.holder ≠ .taken) : l.Performs .dropReader .withheld l
  | close : l.Performs .close .done { l with isOpen := false }

theorem performs_read (n : Nat) (taken : l.holder = .taken) :
    l.Performs (.read n) (l.perform (.read n)).1 (l.perform (.read n)).2 := by
  rw [perform, if_pos taken, Loopback.read]
  rcases Nat.eq_zero_or_pos n with hn | hn
  · rw [if_pos hn]
    exact .readNothing taken hn
  · rw [if_neg (Nat.pos_iff_ne_zero.mp hn)]
    by_cases hempty : l.queue.flatten = []
    · rw [readQueue_of_flatten_eq_nil hempty]
      by_cases hopen : l.isOpen = true
      · simp only [if_pos hopen]
        exact .wait taken hn hempty hopen
      · simp only [if_neg hopen]
        exact .readEnd taken hempty (Bool.eq_false_iff.mpr hopen)
    · obtain ⟨bytes, rest, hread, hqueue, hbytes, hlength⟩ := exists_readQueue hn hempty
      rw [hread]
      exact .read taken hn hqueue hbytes hlength

theorem performs_perform (l : Loopback) (op : Operation) :
    l.Performs op (l.perform op).1 (l.perform op).2 := by
  cases op with
  | write bytes =>
      rw [perform, Loopback.write]
      split
      · next hok =>
          obtain ⟨hopen, hkept⟩ : l.isOpen = true ∧ l.holder ≠ .dropped := by simpa using hok
          exact .write hopen hkept
      · next hnot => exact .refuse (by simpa using hnot)
  | takeReader =>
      rw [perform, takeReader]
      split
      · next hunclaimed => exact .take hunclaimed
      · next hclaimed => exact .takeAgain hclaimed
  | read n =>
      by_cases htaken : l.holder = .taken
      · exact performs_read n htaken
      · rw [perform, if_neg htaken]
        exact .readNobody htaken
  | dropReader =>
      rw [perform, dropReader]
      split
      · next htaken => exact .drop htaken
      · next hmissing => exact .dropNobody hmissing
  | close => exact .close

/-! ### Logs and states -/

/-- The log agrees with the state of the loopback. -/
structure Books (log : List Event) (l : Loopback) : Prop where
  unread : l.holder ≠ .dropped → written log = given log ++ l.queue.flatten
  given_prefix : given log <+: written log
  isOpen_iff : l.isOpen = true ↔ ¬Closed log
  unclaimed_iff : l.holder = .unclaimed ↔ ¬Claimed log
  dropped_iff : l.holder = .dropped ↔ Dropped log

theorem books_fresh : Books [] fresh := by
  refine ⟨fun _ => rfl, List.prefix_rfl, ?_, ?_, ?_⟩
  · simp [fresh, Closed]
  · simp [fresh, Claimed]
  · simp [fresh, Dropped]

variable {op : Operation} {outcome : Outcome} {l' : Loopback}

theorem Books.hasReader_iff (h : Books log l) : HasReader log ↔ l.holder = .taken := by
  have hclaimed : Claimed log ↔ l.holder ≠ .unclaimed := by
    rw [ne_eq, h.unclaimed_iff, Decidable.not_not]
  rw [HasReader, hclaimed, ← h.dropped_iff]
  cases l.holder <;> simp

theorem Books.closed_iff (h : Books log l) : Closed log ↔ l.isOpen = false := by
  rw [← Bool.not_eq_true, h.isOpen_iff, Decidable.not_not]

/-- As long as the reader is there, what was not read is what is left to read. -/
theorem Books.given_eq_written (h : Books log l) (taken : l.holder = .taken)
    (empty : l.queue.flatten = []) : given log = written log := by
  have hunread := h.unread (by simp [taken])
  rw [hunread, empty, List.append_nil]

theorem Books.lawful (h : Books log l) (hp : l.Performs op outcome l') :
    Lawful log ⟨op, outcome⟩ := by
  cases hp with
  | write isOpen kept =>
      exact ⟨.inl rfl, iff_of_true rfl
        ⟨h.isOpen_iff.mp isOpen, (not_congr h.dropped_iff).mp kept⟩⟩
  | refuse shut =>
      refine ⟨.inr rfl, iff_of_false nofun ?_⟩
      rintro ⟨hopen, hkept⟩
      exact hkept (h.dropped_iff.mp (shut (h.isOpen_iff.mpr hopen)))
  | take unclaimed => exact ⟨.inl rfl, iff_of_true rfl (h.unclaimed_iff.mp unclaimed)⟩
  | takeAgain claimed =>
      exact ⟨.inr rfl, iff_of_false nofun fun hnot => claimed (h.unclaimed_iff.mpr hnot)⟩
  | readNothing taken zero =>
      refine ⟨h.hasReader_iff.mpr taken, Nat.zero_le _, ?_, iff_of_true rfl (.inl zero)⟩
      rw [List.append_nil]
      exact h.given_prefix
  | @read n bytes queue taken pos contents ne_nil length_le =>
      have hunread := h.unread (by simp [taken])
      rw [contents, ← List.append_assoc] at hunread
      refine ⟨h.hasReader_iff.mpr taken, length_le, ⟨_, hunread.symm⟩, iff_of_false ne_nil ?_⟩
      rintro (hzero | ⟨-, hall⟩)
      · omega
      · rw [← hall, List.append_assoc, List.self_eq_append_right] at hunread
        exact ne_nil (List.append_eq_nil_iff.mp hunread).1
  | readEnd taken empty shut =>
      refine ⟨h.hasReader_iff.mpr taken, Nat.zero_le _, ?_,
        iff_of_true rfl (.inr ⟨h.closed_iff.mpr shut, h.given_eq_written taken empty⟩)⟩
      rw [List.append_nil]
      exact h.given_prefix
  | wait taken pos empty isOpen =>
      exact ⟨rfl, fun _ => ⟨pos, h.isOpen_iff.mp isOpen, h.given_eq_written taken empty⟩⟩
  | readNobody missing =>
      exact ⟨rfl, fun hreader => absurd (h.hasReader_iff.mp hreader) missing⟩
  | drop taken => exact ⟨.inl rfl, iff_of_true rfl (h.hasReader_iff.mpr taken)⟩
  | dropNobody missing =>
      exact ⟨.inr rfl, iff_of_false nofun fun hreader => missing (h.hasReader_iff.mp hreader)⟩
  | close => exact rfl

/-- Nothing happens but that a piece is written or read. -/
theorem Books.transfer (h : Books log l) {e : Event} (he : e.isSwitch = false)
    {queue : List (List UInt8)}
    (hunread : l.holder ≠ .dropped →
      written log ++ e.written = given log ++ e.given ++ queue.flatten)
    (hgiven : given log ++ e.given <+: written log ++ e.written) :
    Books (log ++ [e]) { l with queue } := by
  have hother : ∀ e', e'.isSwitch = true → (e' ∈ log ++ [e] ↔ e' ∈ log) := by
    intro e' he'
    have hne : e' ≠ e := by
      rintro rfl
      rw [he] at he'
      cases he'
    simp [hne]
  refine ⟨?_, ?_, ?_, ?_, ?_⟩
  · rw [written_concat, given_concat]
    exact hunread
  · rw [written_concat, given_concat]
    exact hgiven
  · rw [Closed, hother _ rfl]
    exact h.isOpen_iff
  · rw [Claimed, hother _ rfl]
    exact h.unclaimed_iff
  · rw [Dropped, hother _ rfl]
    exact h.dropped_iff

/-- An operation that does nothing. -/
theorem Books.idle (h : Books log l) {e : Event} (he : e.isSwitch = false)
    (hwritten : e.written = []) (hgiven : e.given = []) : Books (log ++ [e]) l := by
  refine h.transfer he ?_ ?_
  · rw [hwritten, hgiven, List.append_nil, List.append_nil]
    exact h.unread
  · rw [hwritten, hgiven, List.append_nil, List.append_nil]
    exact h.given_prefix

theorem Books.performs (h : Books log l) (hp : l.Performs op outcome l') :
    Books (log ++ [⟨op, outcome⟩]) l' := by
  cases hp with
  | write isOpen kept =>
      refine h.transfer rfl ?_ ?_
      · intro _
        simp [Event.written, Event.given, h.unread kept]
      · simpa [Event.given] using h.given_prefix.trans (List.prefix_append _ _)
  | refuse shut => exact h.idle rfl rfl rfl
  | take unclaimed =>
      have hkept : l.holder ≠ .dropped := by simp [unclaimed]
      refine ⟨?_, ?_, ?_, ?_, ?_⟩
      · intro _
        simpa [Event.written, Event.given] using h.unread hkept
      · simpa [Event.written, Event.given] using h.given_prefix
      · simpa [Closed] using h.isOpen_iff
      · simp [Claimed]
      · simpa [Dropped] using (not_congr h.dropped_iff).mp hkept
  | takeAgain claimed => exact h.idle rfl rfl rfl
  | readNothing taken zero => exact h.idle rfl rfl rfl
  | @read n bytes queue taken pos contents ne_nil length_le =>
      have hunread := h.unread (by simp [taken])
      rw [contents, ← List.append_assoc] at hunread
      refine h.transfer rfl ?_ ?_
      · intro _
        simpa [Event.written, Event.given] using hunread
      · simpa [Event.written, Event.given] using ⟨queue.flatten, hunread.symm⟩
  | readEnd taken empty shut =>
      refine h.transfer rfl ?_ ?_
      · intro _
        simpa [Event.written, Event.given] using (h.given_eq_written taken empty).symm
      · simpa [Event.written, Event.given] using h.given_prefix
  | wait taken pos empty isOpen => exact h.idle rfl rfl rfl
  | readNobody missing => exact h.idle rfl rfl rfl
  | drop taken =>
      have hclaimed : Claimed log := (h.hasReader_iff.mpr taken).1
      refine ⟨fun hkept => absurd rfl hkept, ?_, ?_, ?_, ?_⟩
      · simpa [Event.written, Event.given] using h.given_prefix
      · simpa [Closed] using h.isOpen_iff
      · simpa [Claimed] using hclaimed
      · simp [Dropped]
  | dropNobody missing => exact h.idle rfl rfl rfl
  | close =>
      refine ⟨?_, ?_, ?_, ?_, ?_⟩
      · simpa [Event.written, Event.given] using h.unread
      · simpa [Event.written, Event.given] using h.given_prefix
      · simp [Closed]
      · simpa [Claimed] using h.unclaimed_iff
      · simpa [Dropped] using h.dropped_iff

/-! ### Runs -/

theorem Books.run (h : Books log l) (ops : List Operation) :
    Books (log ++ (l.run ops).1) (l.run ops).2 := by
  induction ops generalizing log l with
  | nil =>
      rw [Loopback.run, List.append_nil]
      exact h
  | cons op ops ih =>
      have hrest := ih (h.performs (l.performs_perform op))
      rw [List.append_assoc] at hrest
      exact hrest

/-- Every operation of a run is lawful after what was before it. -/
theorem Books.lawful_run (h : Books log l) {ops : List Operation} {before after : List Event}
    {e : Event} (hsplit : (l.run ops).1 = before ++ e :: after) : Lawful (log ++ before) e := by
  induction ops generalizing log l before with
  | nil => simp [Loopback.run] at hsplit
  | cons op ops ih =>
      have hp := l.performs_perform op
      cases before with
      | nil =>
          obtain ⟨rfl, -⟩ := List.cons.inj hsplit
          rw [List.append_nil]
          exact h.lawful hp
      | cons first before =>
          obtain ⟨rfl, hrest⟩ := List.cons.inj hsplit
          have hlawful := ih (h.performs hp) hrest
          rw [List.append_assoc] at hlawful
          exact hlawful

/-- The reader is given away once. -/
theorem Performs.takes (hp : l.Performs op outcome l') :
    ([⟨op, outcome⟩] : List Event).count ⟨.takeReader, .done⟩ =
        (if l.holder = .unclaimed ∧ op = .takeReader then 1 else 0) ∧
      (l'.holder = .unclaimed ↔ l.holder = .unclaimed ∧ op ≠ .takeReader) := by
  cases hp <;> simp_all

theorem count_takes_run (l : Loopback) (ops : List Operation) :
    (l.run ops).1.count ⟨.takeReader, .done⟩ =
      if l.holder = .unclaimed then min 1 (ops.count .takeReader) else 0 := by
  induction ops generalizing l with
  | nil => simp [Loopback.run]
  | cons op ops ih =>
      obtain ⟨hcount, hholder⟩ := (l.performs_perform op).takes
      have hrun : (l.run (op :: ops)).1 =
          [⟨op, (l.perform op).1⟩] ++ ((l.perform op).2.run ops).1 := rfl
      rw [hrun, List.count_append, hcount, ih]
      by_cases hop : op = .takeReader
      · by_cases hunclaimed : l.holder = .unclaimed <;> simp_all
      · simp_all

theorem map_operation_run (l : Loopback) (ops : List Operation) :
    (l.run ops).1.map Event.operation = ops := by
  induction ops generalizing l with
  | nil => rfl
  | cons op ops ih => exact congrArg (op :: ·) (ih _)

/-- A loopback is a lossless queue. All that the reads gave is a beginning of
what was written, and the rest is in the queue as long as the reader is there;
the reader is given away once; and every operation comes to what its past asks
for. -/
theorem run_lossless (ops : List Operation) :
    let log := (fresh.run ops).1
    let l := (fresh.run ops).2
    log.map Event.operation = ops ∧ given log <+: written log ∧
      (¬Dropped log → written log = given log ++ l.queue.flatten) ∧
      log.count ⟨.takeReader, .done⟩ = min 1 (ops.count .takeReader) ∧
      ∀ before e after, log = before ++ e :: after → Lawful before e := by
  intro log l
  have hbooks : Books log l := books_fresh.run ops
  refine ⟨fresh.map_operation_run ops, hbooks.given_prefix, ?_, fresh.count_takes_run ops, ?_⟩
  · exact fun hkept => hbooks.unread (mt hbooks.dropped_iff.mp hkept)
  · exact fun before e after hsplit => books_fresh.lawful_run hsplit

/-- Two pieces, one of them empty, are cut anew; the end comes after them. -/
def recut : List Operation :=
  [.write [], .takeReader, .write [0x68, 0x69, 0x21], .read 0, .read 2, .close, .read 2, .read 2,
    .takeReader, .write [0x3f]]

theorem run_lossless_recut :
    let log := (fresh.run recut).1
    log.map Event.outcome =
        [.done, .done, .done, .gave [], .gave [0x68, 0x69], .done, .gave [0x21], .gave [],
          .refused .notConnected, .refused .notConnected] ∧
      log = log.take 7 ++ ⟨.read 2, .gave []⟩ :: log.drop 8 ∧
      Closed (log.take 7) ∧ given (log.take 7) = written (log.take 7) := by
  intro log
  have hend : log = log.take 7 ++ ⟨.read 2, .gave []⟩ :: log.drop 8 := by decide
  obtain ⟨-, -, -, -, hlawful⟩ := run_lossless recut
  obtain ⟨-, -, -, hnothing⟩ := hlawful _ _ _ hend
  refine ⟨by decide, hend, ?_⟩
  rcases hnothing.mp rfl with hzero | hall
  · cases hzero
  · exact hall

end DasherTerminal.Loopback
