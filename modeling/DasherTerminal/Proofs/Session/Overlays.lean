import DasherTerminal.Proofs.Session.Links
import DasherTerminal.Session.Window

/-!
# Overlays and the keyboard

A dialog, the history or the help page lies over the screen exactly while the
keyboard is in the mode for it. As long as one of them is open, no key reaches
the session, except for the enter key of a dialog.
-/

namespace DasherTerminal

namespace Input

/-- In the history all keys are about the history. -/
theorem of_inHistory? {k : KeyEvent} {a : Action} (h : inHistory? k = some a) :
    (∃ move, a = .moveHistory move) ∨ a = .closeHistory := by
  unfold inHistory? at h
  split at h
  case h_11 | h_12 => exact .inr (Option.some.inj h).symm
  case h_13 => cases h
  all_goals exact .inl ⟨_, (Option.some.inj h).symm⟩

namespace Mode

/-- When nothing is open the next mode is that of keys for the host, or the
prefix key has come. -/
theorem key_of_uncovered {m : Mode} (hm : m = .normal ∨ ∃ since, m = .waiting since) (now : Nat)
    (k : KeyEvent) : m.key now k = (.waiting now, none) ∨ ∃ a?, m.key now k = (.normal, a?) := by
  obtain rfl | ⟨since, rfl⟩ := hm
  · rw [key]
    split
    · exact .inl rfl
    · exact .inr ⟨_, rfl⟩
  · exact .inr ⟨_, rfl⟩

/-- The clock only ends the time of the prefix key. -/
theorem tick_cases (m : Mode) (now : Nat) :
    m.tick now = (m, none) ∨ (∃ since, m = .waiting since) ∧
      m.tick now = (.normal, some (.request (.sendBytes [leadByte]))) := by
  cases m with
  | waiting since =>
      rw [tick]
      split
      · exact .inr ⟨⟨since, rfl⟩, rfl⟩
      · exact .inl rfl
  | _ => exact .inl rfl

end Mode

end Input

namespace Window

/-- The keyboard is in the mode of a dialog exactly while there is one, and so
it is for the history. -/
structure Coherent (w : Window) : Prop where
  dialog : w.dialog.isSome ↔ w.mode = .dialog
  history : w.history.isSome ↔ w.mode = .history

def IsCovered (w : Window) : Prop := w.dialog.isSome ∨ w.history.isSome ∨ w.mode = .help

variable {w v : Window}

theorem coherent_fresh : fresh.Coherent := by
  constructor <;> simp [fresh]

theorem Coherent.of_same (h : w.Coherent) (hdialog : v.dialog.isSome = w.dialog.isSome)
    (hhistory : v.history.isSome = w.history.isSome) (hmode : v.mode = w.mode) : v.Coherent := by
  constructor
  · rw [hdialog, hmode]
    exact h.dialog
  · rw [hhistory, hmode]
    exact h.history

theorem coherent_of_uncovered (hdialog : w.dialog = none) (hhistory : w.history = none)
    (hmode : w.mode ≠ .dialog ∧ w.mode ≠ .history) : w.Coherent := by
  constructor
  · simp [hdialog, hmode.1]
  · simp [hhistory, hmode.2]

theorem coherent_setMode (hdialog : w.dialog = none) (hhistory : w.history = none)
    {mode : Input.Mode} (hmode : mode ≠ .dialog ∧ mode ≠ .history) :
    ({ w with mode } : Window).Coherent :=
  coherent_of_uncovered hdialog hhistory hmode

theorem Coherent.dialog_eq_none (h : w.Coherent) (hmode : w.mode ≠ .dialog) : w.dialog = none := by
  simpa using mt h.dialog.mp hmode

theorem Coherent.history_eq_none (h : w.Coherent) (hmode : w.mode ≠ .history) :
    w.history = none := by
  simpa using mt h.history.mp hmode

theorem Coherent.history_eq_none_of_dialog (h : w.Coherent) (hdialog : w.dialog.isSome) :
    w.history = none :=
  h.history_eq_none (by simp [h.dialog.mp hdialog])

/-- At most one thing lies over the screen. -/
theorem Coherent.exclusive (h : w.Coherent) :
    ¬(w.dialog.isSome ∧ w.history.isSome) ∧ ¬(w.dialog.isSome ∧ w.mode = .help) ∧
      ¬(w.history.isSome ∧ w.mode = .help) := by
  rw [h.dialog, h.history]
  refine ⟨?_, ?_, ?_⟩ <;> rintro ⟨h₁, h₂⟩ <;> cases h₁.symm.trans h₂

theorem Coherent.report (h : w.Coherent) (result : Except Fault Unit) :
    (w.report result).Coherent := by
  unfold Window.report
  split
  · exact h
  · exact h.of_same rfl rfl rfl

/-! ### Keys -/

theorem coherent_enter (h : w.Coherent) (hdialog : w.dialog.isSome) (out : Outside)
    (d : View.Dialog) (s : Session) : (enter out d w s).1.Coherent := by
  have hhistory : w.history = none := h.history_eq_none_of_dialog hdialog
  unfold enter
  dsimp only
  split
  · exact coherent_of_uncovered rfl hhistory (by simp [closeDialog])
  · exact h.of_same hdialog.symm rfl rfl

/-- What a key does in a dialog. -/
theorem dialogKey_cases (out : Outside) (k : Input.KeyEvent) (d : View.Dialog) (w : Window)
    (s : Session) :
    dialogKey out k d w s = (w.closeDialog, s) ∨
      (k.code = .enter ∧ dialogKey out k d w s = enter out d w s) ∨
      (∃ d', dialogKey out k d w s = ({ w with dialog := some d' }, s)) ∨
      dialogKey out k d w s = (w, s) := by
  obtain ⟨code, _, _, _⟩ := k
  cases code with
  | escape => exact .inl rfl
  | enter => exact .inr (.inl ⟨rfl, rfl⟩)
  | char c => exact .inr (.inr (.inl ⟨_, rfl⟩))
  | backspace => exact .inr (.inr (.inl ⟨_, rfl⟩))
  | left => exact .inr (.inr (.inl ⟨_, rfl⟩))
  | right => exact .inr (.inr (.inl ⟨_, rfl⟩))
  | _ => exact .inr (.inr (.inr rfl))

theorem coherent_dialogKey (h : w.Coherent) (hdialog : w.dialog.isSome) (out : Outside)
    (k : Input.KeyEvent) (d : View.Dialog) (s : Session) :
    (dialogKey out k d w s).1.Coherent := by
  obtain hkey | ⟨-, hkey⟩ | ⟨d', hkey⟩ | hkey := dialogKey_cases out k d w s
  · rw [hkey]
    exact coherent_of_uncovered rfl (h.history_eq_none_of_dialog hdialog) (by simp [closeDialog])
  · rw [hkey]
    exact coherent_enter h hdialog out d s
  · rw [hkey]
    exact h.of_same hdialog.symm rfl rfl
  · rw [hkey]
    exact h

theorem Coherent.moveHistory (h : w.Coherent) (move : HistoryMove) :
    (w.moveHistory move).Coherent :=
  h.of_same rfl (by simp [Window.moveHistory]) rfl

/-- Whatever is asked for while nothing lies over the screen, at most one thing
lies over it afterwards. -/
theorem coherent_act (hdialog : w.dialog = none) (hhistory : w.history = none)
    (hmode : w.mode = .normal) (out : Outside) (a : Action) (s : Session) :
    (act out a w s).1.Coherent := by
  have hbare : w.Coherent := coherent_of_uncovered hdialog hhistory (by simp [hmode])
  have hopen (d : View.Dialog) : (w.openDialog d).Coherent := by
    constructor <;> simp [openDialog, hhistory]
  cases a with
  | request r =>
      rw [act]
      exact (hbare.of_same (v := { w with message := none }) rfl rfl rfl).report _
  | quit => exact hbare.of_same rfl rfl rfl
  | openDialog kind => exact hopen _
  | toggleCapture =>
      simp only [act]
      split
      · exact hbare.of_same rfl rfl rfl
      · exact hopen _
  | showHistory => constructor <;> simp [act, hdialog]
  | moveHistory move => exact hbare.moveHistory move
  | closeHistory => exact hbare.of_same rfl (by simp [act, hhistory]) rfl
  | showHelp => exact coherent_of_uncovered hdialog hhistory (by simp [act])

theorem key_of_none {out : Outside} {now : Nat} {k : Input.KeyEvent} {mode : Input.Mode}
    {s : Session} (hdialog : w.dialog = none) (hkey : w.mode.key now k = (mode, none)) :
    w.key out now k s = ({ w with mode }, s) := by
  rw [Window.key, hdialog, hkey]

theorem key_of_some {out : Outside} {now : Nat} {k : Input.KeyEvent} {mode : Input.Mode}
    {a : Action} {s : Session} (hdialog : w.dialog = none)
    (hkey : w.mode.key now k = (mode, some a)) :
    w.key out now k s = act out a { w with mode } s := by
  rw [Window.key, hdialog, hkey]

/-- A key that nothing takes before the host. -/
theorem coherent_freeKey (hdialog : w.dialog = none) (hhistory : w.history = none)
    (hmode : w.mode = .normal ∨ ∃ since, w.mode = .waiting since) (out : Outside) (now : Nat)
    (k : Input.KeyEvent) (s : Session) : (w.key out now k s).1.Coherent := by
  obtain hkey | ⟨action, hkey⟩ := Input.Mode.key_of_uncovered hmode now k
  · rw [key_of_none hdialog hkey]
    exact coherent_setMode hdialog hhistory (by simp)
  · cases action with
    | none =>
        rw [key_of_none hdialog hkey]
        exact coherent_setMode hdialog hhistory (by simp)
    | some a =>
        rw [key_of_some hdialog hkey]
        exact coherent_act (w := { w with mode := .normal }) hdialog hhistory rfl out a s

/-- A key while the history is open. -/
theorem Coherent.historyKey (h : w.Coherent) (hdialog : w.dialog = none)
    (hmode : w.mode = .history) (out : Outside) (now : Nat) (k : Input.KeyEvent) (s : Session) :
    (w.key out now k s).1.Coherent ∧ (w.key out now k s).2 = s := by
  have hkey : w.mode.key now k =
      (if Input.inHistory? k = some .closeHistory then .normal else .history,
        Input.inHistory? k) := by
    rw [hmode]
    rfl
  have hsame : ({ w with mode := .history } : Window).Coherent := h.of_same rfl rfl hmode.symm
  cases hmove : Input.inHistory? k with
  | none =>
      rw [hmove] at hkey
      rw [key_of_none hdialog hkey]
      exact ⟨hsame, rfl⟩
  | some a =>
      rw [hmove] at hkey
      rw [key_of_some hdialog hkey]
      obtain ⟨move, rfl⟩ | rfl := Input.of_inHistory? hmove
      · exact ⟨hsame.moveHistory move, rfl⟩
      · exact ⟨coherent_setMode (w := { w with history := none }) hdialog rfl (by simp), rfl⟩

/-- A key while the help page is open. -/
theorem Coherent.helpKey (h : w.Coherent) (hdialog : w.dialog = none)
    (hmode : w.mode = .help) (out : Outside) (now : Nat) (k : Input.KeyEvent) (s : Session) :
    (w.key out now k s).1.Coherent ∧ (w.key out now k s).2 = s := by
  have hhistory : w.history = none := h.history_eq_none (by simp [hmode])
  have hkey : w.mode.key now k = (if Input.closesHelp k then .normal else .help, none) := by
    rw [hmode]
    rfl
  rw [key_of_none hdialog hkey]
  refine ⟨coherent_setMode hdialog hhistory ?_, rfl⟩
  split <;> simp

theorem Coherent.key (h : w.Coherent) (out : Outside) (now : Nat) (k : Input.KeyEvent)
    (s : Session) : (w.key out now k s).1.Coherent := by
  cases hdialog : w.dialog with
  | some d =>
      rw [Window.key, hdialog]
      exact coherent_dialogKey h (by simp [hdialog]) out k d s
  | none =>
      cases hmode : w.mode with
      | dialog =>
          have hopen := h.dialog.mpr hmode
          simp [hdialog] at hopen
      | history => exact (h.historyKey hdialog hmode out now k s).1
      | help => exact (h.helpKey hdialog hmode out now k s).1
      | normal =>
          exact coherent_freeKey hdialog (h.history_eq_none (by simp [hmode])) (.inl hmode)
            out now k s
      | waiting since =>
          exact coherent_freeKey hdialog (h.history_eq_none (by simp [hmode]))
            (.inr ⟨since, hmode⟩) out now k s

/-- A key that something over the screen takes does not reach the session. -/
theorem Coherent.key_of_covered (h : w.Coherent) (hcovered : w.IsCovered) (out : Outside)
    (now : Nat) {k : Input.KeyEvent} (hk : ¬(w.dialog.isSome ∧ k.code = .enter)) (s : Session) :
    (w.key out now k s).2 = s := by
  cases hdialog : w.dialog with
  | some d =>
      rw [Window.key, hdialog]
      obtain hkey | ⟨hcode, -⟩ | ⟨d', hkey⟩ | hkey := dialogKey_cases out k d w s
      · exact congrArg Prod.snd hkey
      · exact absurd ⟨by simp [hdialog], hcode⟩ hk
      · exact congrArg Prod.snd hkey
      · exact congrArg Prod.snd hkey
  | none =>
      obtain hopen | hopen | hmode := hcovered
      · simp [hdialog] at hopen
      · exact (h.historyKey hdialog (h.history.mp hopen) out now k s).2
      · exact (h.helpKey hdialog hmode out now k s).2

theorem Coherent.tick (h : w.Coherent) (out : Outside) (now : Nat) (s : Session) :
    (w.tick out now s).1.Coherent := by
  obtain htick | ⟨⟨since, hmode⟩, htick⟩ := w.mode.tick_cases now
  · rw [Window.tick, htick]
    exact h
  · rw [Window.tick, htick]
    refine (coherent_setMode (h.dialog_eq_none ?_) (h.history_eq_none ?_) ?_).report _
    all_goals simp [hmode]

/-! ### Runs -/

inductive Event where
  | key (out : Outside) (now : Nat) (k : Input.KeyEvent)
  | tick (out : Outside) (now : Nat)
  | poll (out : Outside)
  | sync
  /-- The pages of the history get another length. -/
  | page (lines : Nat)
  /-- Something that happens in the session alone. -/
  | session (e : DasherTerminal.Event)

def next (p : Window × Session) : Event → Window × Session
  | .key out now k => p.1.key out now k p.2
  | .tick out now => p.1.tick out now p.2
  | .poll out => p.1.poll out p.2
  | .sync => (p.1.sync p.2).2
  | .page lines => ({ p.1 with historyPage := lines }, p.2)
  | .session e => (p.1, p.2.next e)

def run (p : Window × Session) (events : List Event) : Window × Session := events.foldl next p

theorem coherent_next {p : Window × Session} (h : p.1.Coherent) (e : Event) :
    (next p e).1.Coherent := by
  cases e with
  | key out now k => exact h.key out now k p.2
  | tick out now => exact h.tick out now p.2
  | poll out => exact h.report _
  | sync => exact h.of_same rfl rfl rfl
  | page lines => exact h.of_same rfl rfl rfl
  | session e => exact h

theorem coherent_run {p : Window × Session} (h : p.1.Coherent) (events : List Event) :
    (run p events).1.Coherent := by
  induction events generalizing p with
  | nil => exact h
  | cons e events ih => exact ih (coherent_next h e)

/-- Whatever happens from a window on in which nothing is open, dialog and
history are open exactly in their modes, so that at most one thing lies over the
screen, and a key that something over the screen takes leaves the session as it
is, unless it is the enter key of a dialog. -/
theorem overlays_of_run (s : Session) (events : List Event) :
    let (w, t) := run (fresh, s) events
    (w.dialog.isSome ↔ w.mode = .dialog) ∧ (w.history.isSome ↔ w.mode = .history) ∧
      ¬(w.dialog.isSome ∧ w.history.isSome) ∧ ¬(w.dialog.isSome ∧ w.mode = .help) ∧
      ¬(w.history.isSome ∧ w.mode = .help) ∧
      ∀ (out : Outside) (now : Nat) (k : Input.KeyEvent), w.IsCovered →
        ¬(w.dialog.isSome ∧ k.code = .enter) → (w.key out now k t).2 = t := by
  have h : (run (fresh, s) events).1.Coherent := coherent_run coherent_fresh events
  obtain ⟨hhistory, hhelp, hhelp'⟩ := h.exclusive
  exact ⟨h.dialog, h.history, hhistory, hhelp, hhelp',
    fun out now _ hcovered hk => h.key_of_covered hcovered out now hk _⟩

def leadKey : Input.KeyEvent := ⟨.char ']', false, true, false⟩

/-- The help page is opened and stays for a while. -/
def helpVisit : List Event := [.key .fair 0 leadKey, .key .fair 10 (.ofChar '?'), .tick .fair 5000]

theorem overlays_of_run_help :
    let (w, t) := run (fresh, Session.fresh) helpVisit
    w.IsCovered ∧ ¬(w.dialog.isSome ∧ (Input.KeyEvent.ofChar 't').code = .enter) ∧
      (w.key .fair 6000 (.ofChar 't') t).2 = t := by
  have hcovered : (run (fresh, Session.fresh) helpVisit).1.IsCovered := .inr (.inr rfl)
  have hk : ¬((run (fresh, Session.fresh) helpVisit).1.dialog.isSome ∧
      (Input.KeyEvent.ofChar 't').code = .enter) := by
    rintro ⟨-, hcode⟩
    cases hcode
  obtain ⟨-, -, -, -, -, huntouched⟩ := overlays_of_run Session.fresh helpVisit
  exact ⟨hcovered, hk, huntouched _ _ _ hcovered hk⟩

end Window

end DasherTerminal
