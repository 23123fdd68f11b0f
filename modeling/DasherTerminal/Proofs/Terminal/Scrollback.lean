import DasherTerminal.Proofs.Terminal.Footprint

/-!
# The scrollback of a run

The history is the end of one long list: the top rows, in the order in which the
screen scrolled them off. Only the bytes of the host and of the self-test add to
that list, and nothing but a full history takes from it.
-/

namespace DasherTerminal

namespace Screen

/-- `t` has the history of `s` and these lines after it, as far as they fit. -/
structure Gains (s t : Screen) (lines : List String) : Prop where
  capacity : t.history.capacity = s.history.capacity
  lines : t.history.lines.toList = (s.history.lines.toList ++ lines).rtake s.history.capacity

variable {s t u : Screen}

theorem Sound.gains_nil (hs : s.Sound) (h : t.history = s.history) : s.Gains t [] := by
  have hfits : s.history.lines.toList.length - s.history.capacity = 0 := by
    have := hs.history_fits
    simp
    omega
  constructor
  · rw [h]
  · rw [h, List.append_nil, List.rtake, hfits, List.drop_zero]

theorem rtake_rtake_append (n : Nat) (xs ys : List String) :
    (xs.rtake n ++ ys).rtake n = (xs ++ ys).rtake n := by
  simp [List.rtake_eq_reverse_take_reverse, List.take_append, List.take_take]

theorem Gains.trans {a b : List String} (h : s.Gains t a) (h' : t.Gains u b) :
    s.Gains u (a ++ b) := by
  constructor
  · rw [h'.capacity, h.capacity]
  · rw [h'.lines, h.lines, h.capacity, rtake_rtake_append, List.append_assoc]

theorem ScrollsTo.gains (h : s.ScrollsTo t) : ∃ line, s.rowText? 0 = some line ∧ s.Gains t [line] := by
  obtain ⟨line, htop, hcapacity, hlines⟩ := h.history
  exact ⟨line, htop, hcapacity, hlines⟩

theorem WellFormed.length_of_rowText? (hs : s.WellFormed) {y : Nat} {line : String}
    (h : s.rowText? y = some line) : line.length = s.size.cols := by
  obtain ⟨row, hrow, rfl⟩ := Option.map_eq_some_iff.mp h
  have hwidth := hs.cells_shape.2 row (Array.mem_of_getElem? hrow)
  simpa [textOfCells] using hwidth

end Screen

namespace Terminal

/-- A row that scrolled off, and how many columns the screen had at that moment. -/
structure Departure where
  cols : Nat
  line : String
  deriving DecidableEq, Repr

/-- Whether the byte makes the screen scroll: in roll mode, a new line on the last
line or a code at the bottom right corner. -/
def Scrolls (t : Terminal) (byte : UInt8) : Prop :=
  t.decoder.wait = .idle ∧ t.screen.roll = true ∧
    t.screen.cursor.row + 1 = t.screen.size.lines ∧
    (byte = 0o12 ∨ Decoder.isPrintable byte = true ∧ t.screen.cursor.col + 1 = t.screen.size.cols)

instance (t : Terminal) (byte : UInt8) : Decidable (t.Scrolls byte) :=
  inferInstanceAs (Decidable (_ ∧ _ ∧ _ ∧ (_ ∨ _ ∧ _)))

/-- The top row, if the byte makes it scroll off. -/
def departure? (t : Terminal) (byte : UInt8) : Option Departure :=
  if t.Scrolls byte then (t.screen.rowText? 0).map (⟨t.screen.size.cols, ·⟩) else none

def departuresOn (t : Terminal) : List UInt8 → List Departure
  | [] => []
  | byte :: bytes => (t.departure? byte).toList ++ (t.process [byte]).departuresOn bytes

def departuresIn (t : Terminal) : Operation → List Departure
  | .process bytes => t.departuresOn bytes
  | .selfTest =>
    { t with decoder := t.decoder.reset : Terminal }.departuresOn
      (SelfTest.stream t.screen.size t.screen.model)
  | _ => []

/-- All rows that scroll off while the operations are performed, in order. -/
def departures (t : Terminal) : List Operation → List Departure
  | [] => []
  | op :: ops => t.departuresIn op ++ (t.perform op).departures ops

variable {t : Terminal} {byte : UInt8}

theorem process_of_writesCells (hidle : t.decoder.wait = .idle)
    (h : Decoder.writesCells byte = true) :
    (t.process [byte]).screen = Decoder.effect t.decoder.policy byte t.screen :=
  Decoder.step_of_writesCells hidle h

theorem process_of_isPrintable (hidle : t.decoder.wait = .idle)
    (h : Decoder.isPrintable byte = true) : (t.process [byte]).screen = t.screen.put byte := by
  have hwrites : Decoder.writesCells byte = true := by simp [Decoder.writesCells, h]
  rw [process_of_writesCells hidle hwrites, Decoder.effect_of_isPrintable _ h]

/-- What scrolls is the screen as it was, but for the code in its last row. -/
theorem Scrolls.scrollsTo (h : t.Scrolls byte) (hs : t.screen.Sound) :
    ∃ written : Screen, written.ScrollsTo (t.process [byte]).screen ∧
      written.size = t.screen.size ∧ written.history = t.screen.history ∧
      (∀ x y, y + 1 < t.screen.size.lines → written.cell? x y = t.screen.cell? x y) ∧
      written.rowText? 0 = t.screen.rowText? 0 := by
  obtain ⟨hidle, hroll, hrow, rfl | ⟨hcode, hcol⟩⟩ := h
  · refine ⟨t.screen, ?_, rfl, rfl, fun _ _ _ => rfl, rfl⟩
    rw [process_of_writesCells hidle rfl]
    exact hs.scrollsTo_newLine hrow hroll
  · have htop : 0 ≠ t.screen.cursor.row := by
      have hlines := t.screen.size.one_lt_lines
      omega
    refine ⟨t.screen.write t.screen.cursor.col t.screen.cursor.row ⟨byte, t.screen.attributes⟩,
      ?_, rfl, rfl, ?_, Screen.rowText?_write _ htop⟩
    · rw [process_of_isPrintable hidle hcode]
      exact hs.scrollsTo_put hcode hrow hcol hroll
    · intro x y hy
      have hbelow : ¬(x = t.screen.cursor.col ∧ y = t.screen.cursor.row) := by omega
      rw [hs.wellFormed.cell?_write, if_neg hbelow]

theorem history_process (hs : t.screen.Sound) (h : ¬t.Scrolls byte) :
    (t.process [byte]).screen.history = t.screen.history := by
  by_cases hsilent : t.decoder.wait ≠ .idle ∨ Decoder.writesCells byte = false
  · exact (Decoder.keepsCells_step t.decoder hsilent).1.history
  · simp only [not_or, not_not, Bool.not_eq_false] at hsilent
    obtain ⟨hidle, hwrites⟩ := hsilent
    by_cases hcode : Decoder.isPrintable byte = true
    · obtain ⟨cursor, hput⟩ := hs.wellFormed.put_eq hcode fun hcorner =>
        h ⟨hidle, hcorner.2.2, hcorner.1, .inr ⟨hcode, hcorner.2.1⟩⟩
      rw [process_of_isPrintable hidle hcode, hput]
      rfl
    · rw [process_of_writesCells hidle hwrites]
      simp only [Decoder.writesCells, hcode, Bool.false_or, Bool.or_eq_true, beq_iff_eq] at hwrites
      obtain (rfl | rfl) | rfl := hwrites
      · obtain ⟨cursor, hline⟩ := hs.wellFormed.newLine_eq fun hlast =>
          h ⟨hidle, hlast.2, hlast.1, .inl rfl⟩
        exact (congrArg Screen.history hline).trans rfl
      · rfl
      · rfl

theorem gains_process_byte (hs : t.screen.Sound) (byte : UInt8) :
    t.screen.Gains (t.process [byte]).screen
      ((t.departure? byte).toList.map Departure.line) := by
  by_cases h : t.Scrolls byte
  · obtain ⟨written, hscrolls, -, hhistory, -, htop⟩ := h.scrollsTo hs
    obtain ⟨line, hline, hgains⟩ := hscrolls.gains
    have hdeparture : t.departure? byte = some ⟨t.screen.size.cols, line⟩ := by
      rw [departure?, if_pos h, ← htop, hline, Option.map_some]
    rw [hdeparture]
    exact ⟨hhistory ▸ hgains.capacity, hhistory ▸ hgains.lines⟩
  · rw [departure?, if_neg h]
    exact hs.gains_nil (history_process hs h)

theorem gains_process (hs : t.screen.Sound) (bytes : List UInt8) :
    t.screen.Gains (t.process bytes).screen ((t.departuresOn bytes).map Departure.line) := by
  induction bytes generalizing t with
  | nil => exact hs.gains_nil rfl
  | cons byte bytes ih =>
      have hnext : (t.process [byte]).screen.Sound :=
        (transitions_process hs.wellFormed [byte]).sound hs
      rw [departuresOn, List.map_append, ← List.singleton_append, process_append]
      exact (gains_process_byte hs byte).trans (ih hnext)

theorem gains_perform (hs : t.screen.Sound) (op : Operation) :
    t.screen.Gains (t.perform op).screen ((t.departuresIn op).map Departure.line) := by
  cases op with
  | process bytes => exact gains_process hs bytes
  | selfTest =>
      rw [departuresIn, perform, selfTest]
      -- The pattern is long; nothing below looks into it.
      generalize SelfTest.stream t.screen.size t.screen.model = stream
      have hgains := gains_process (t := { t with decoder := t.decoder.reset }) hs stream
      have hdone := Screen.history_setBlinkEnabled
        (s := ({ t with decoder := t.decoder.reset : Terminal }.process stream).screen)
        t.screen.blinkEnabled
      exact ⟨hdone ▸ hgains.capacity, hdone ▸ hgains.lines⟩
  | setBlinkEnabled on => exact hs.gains_nil (Screen.history_setBlinkEnabled on)
  | resize size => exact hs.gains_nil rfl
  | setModel model => exact hs.gains_nil rfl
  | toggleBlinkPhase => exact hs.gains_nil rfl
  | drainNotifications => exact hs.gains_nil rfl
  | drainResponses => exact hs.gains_nil rfl

theorem gains_performAll (h : t.Sound) (ops : List Operation) :
    t.screen.Gains (t.performAll ops).screen ((t.departures ops).map Departure.line) := by
  induction ops generalizing t with
  | nil => exact h.screen.gains_nil rfl
  | cons op ops ih =>
      rw [departures, List.map_append, performAll_cons]
      exact (gains_perform h.screen op).trans (ih (h.perform op))

theorem Sound.length_departure (h : t.Sound) {d : Departure} (hd : t.departure? byte = some d) :
    d.line.length = d.cols := by
  rw [departure?] at hd
  split at hd
  · obtain ⟨line, hline, rfl⟩ := Option.map_eq_some_iff.mp hd
    exact h.screen.wellFormed.length_of_rowText? hline
  · cases hd

theorem Sound.length_departuresOn (h : t.Sound) (bytes : List UInt8) :
    ∀ d ∈ t.departuresOn bytes, d.line.length = d.cols := by
  induction bytes generalizing t with
  | nil => simp [departuresOn]
  | cons byte bytes ih =>
      intro d hd
      rcases List.mem_append.mp hd with hd | hd
      · exact h.length_departure (Option.mem_toList.mp hd)
      · exact ih (h.perform (.process [byte])) d hd

theorem Sound.length_departures (h : t.Sound) (ops : List Operation) :
    ∀ d ∈ t.departures ops, d.line.length = d.cols := by
  induction ops generalizing t with
  | nil => simp [departures]
  | cons op ops ih =>
      intro d hd
      rcases List.mem_append.mp hd with hd | hd
      · cases op with
        | process bytes => exact h.length_departuresOn bytes d hd
        | selfTest =>
            have hreset : ({ t with decoder := t.decoder.reset } : Terminal).Sound :=
              ⟨h.screen, Decoder.unfinished_idle⟩
            exact hreset.length_departuresOn _ d hd
        | _ => simp [departuresIn] at hd
      · exact ih (h.perform op) d hd

/-- The history holds the last of all rows that scrolled off, oldest first and
each as wide as the screen was then. Whatever comes later only adds to its end,
and drops the oldest lines when it is full. A row scrolls off when a byte moves
every row up, and no other byte touches the history, be it the host's or, with
another decoder, one of the self-test. -/
theorem scrollback_performAll (setup : Setup) (ops : List Operation) :
    let t := (fresh setup).performAll ops
    let gone := (fresh setup).departures ops
    let lines := t.screen.history.lines.toList
    lines = (gone.map Departure.line).rtake setup.historyCapacity ∧
    (∀ d ∈ gone, d.line.length = d.cols) ∧
    (∀ more, (t.performAll more).screen.history.lines.toList =
      (lines ++ (t.departures more).map Departure.line).rtake setup.historyCapacity) ∧
    ∀ (d : Decoder) (bytes : List UInt8) (byte : UInt8),
      let v := ({ t with decoder := d } : Terminal).process bytes
      let u := (v.process [byte]).screen
      if v.Scrolls byte then
        (∀ x y, y + 2 < v.screen.size.lines → u.cell? x y = v.screen.cell? x (y + 1)) ∧
        ∀ x, x < v.screen.size.cols → u.cell? x (v.screen.size.lines - 1) = some .blank
      else u.history = v.screen.history := by
  intro t gone lines
  have hfresh := sound_fresh setup
  have ht : t.Sound := ((Reachable.fresh setup).performAll ops).sound
  have hgains : (fresh setup).screen.Gains t.screen (gone.map Departure.line) :=
    gains_performAll hfresh ops
  have hempty : (fresh setup).screen.history = .empty setup.historyCapacity :=
    Screen.history_setBlinkEnabled setup.blinkEnabled
  have hcapacity : t.screen.history.capacity = setup.historyCapacity := by
    rw [hgains.capacity, hempty, History.empty]
  refine ⟨?_, hfresh.length_departures ops, ?_, ?_⟩
  · have hlines := hgains.lines
    rw [hempty] at hlines
    exact hlines
  · intro more
    rw [← hcapacity]
    exact (gains_performAll ht more).lines
  · intro d bytes byte v u
    have hv : v.screen.Sound :=
      (transitions_process (t := { t with decoder := d }) ht.screen.wellFormed bytes).sound
        ht.screen
    split
    · next h =>
        obtain ⟨written, hscrolls, hsize, -, hcells, -⟩ := h.scrollsTo hv
        constructor
        · intro x y hy
          rw [hscrolls.moved x y (by rw [hsize]; omega), hcells x (y + 1) hy]
        · intro x hx
          rw [← hsize]
          exact hscrolls.blanked x (hsize ▸ hx)
    · next h => exact history_process hv h

/-- Two rows scroll off, the second when the screen is already wider; there is
room for one. -/
example :
    let setup := { Setup.default with historyCapacity := 1 }
    let ops : List Operation := [.process [0o20, 1, 24, 0o12],
      .resize ⟨81, 25, by decide, by decide⟩, .process [0x41, 0o20, 1, 25, 0o12]]
    ((fresh setup).departures ops).map Departure.cols = [80, 81] ∧
      ((fresh setup).performAll ops).screen.history.lines.toList =
        [String.ofList ('A' :: List.replicate 80 ' ')] := by
  decide +kernel

end Terminal

end DasherTerminal
