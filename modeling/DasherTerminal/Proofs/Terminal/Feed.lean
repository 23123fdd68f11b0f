import DasherTerminal.Session.Basic

/-!
# Feeding a terminal

A reader feeds the terminal one byte at a time and looks at the stop flag before
each of them. While the flag is down that is the same as processing everything
at once, however it was divided.
-/

namespace DasherTerminal

namespace Terminal

/-- Process bytes one at a time, as long as the flag is down. -/
def feed (stopping : Bool) (t : Terminal) : List UInt8 → Terminal
  | [] => t
  | b :: bytes => if stopping then t else feed stopping (t.process [b]) bytes

theorem feed_eq_process (t : Terminal) (bytes : List UInt8) :
    t.feed false bytes = t.process bytes := by
  induction bytes generalizing t with
  | nil => rfl
  | cons b bytes ih =>
      have hcons : t.process (b :: bytes) = (t.process [b]).process bytes :=
        t.process_append [b] bytes
      rw [hcons, feed, if_neg Bool.false_ne_true]
      exact ih _

theorem foldl_feed (t : Terminal) (pieces : List (List UInt8)) :
    pieces.foldl (feed false) t = t.process pieces.flatten := by
  induction pieces generalizing t with
  | nil => rfl
  | cons piece pieces ih =>
      rw [List.foldl_cons, List.flatten_cons, process_append, feed_eq_process]
      exact ih _

end Terminal

namespace Session

/-- The steps of a reader that has read a piece feed it to the terminal. -/
theorem readerSteps_held {s : Session} {l : Link} (hlink : s.link = some l)
    (hrunning : l.finished = false) (hflag : l.stopping = false) :
    s.readerSteps l.held.length =
      { s with terminal := s.terminal.feed false l.held, link := some { l with held := [] } } := by
  obtain ⟨held, hheld⟩ : ∃ held, l.held = held := ⟨_, rfl⟩
  rw [hheld]
  induction held generalizing s l with
  | nil =>
      cases s
      cases l
      simp_all [readerSteps, Terminal.feed]
  | cons b held ih =>
      have hstep : s.readerStep? =
          some { s with terminal := s.terminal.process [b], link := some { l with held } } := by
        simp [readerStep?, hlink, hrunning, hheld, hflag]
      rw [List.length_cons, readerSteps, hstep]
      exact ih (l := { l with held }) rfl hrunning hflag rfl

end Session

end DasherTerminal
