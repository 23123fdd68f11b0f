import Mathlib.Logic.Function.Iterate
import DasherTerminal.Protocol.Terminal
import DasherTerminal.Proofs.Protocol.Unseen

/-!
# Renderers and the blink timer do not disturb the host

Renderers and the blink timer come between any two bytes of the host's stream.
They write to the dirty flags and to the blink phase, which the decoder never
looks at, so that the stream does what it does without them.
-/

namespace DasherTerminal

/-- A frame changes nothing but dirty flags. -/
theorem Replica.exists_sync_eq (copy : Replica) (s : Screen) :
    ∃ dirty, (copy.sync s).2.1 = { s with dirty } := by
  have hfit : ∃ dirty, (copy.fit s).2 = { s with dirty } := by
    unfold fit
    split
    · exact ⟨_, rfl⟩
    · exact ⟨_, rfl⟩
  obtain ⟨dirty, hfit⟩ := hfit
  have hsync : (copy.sync s).2.1 = (copy.fit s).2.clearDirty (copy.fit s).2.snapshot := rfl
  rw [hsync, hfit]
  exact ⟨_, rfl⟩

namespace Terminal

/-- What happens to a terminal at one moment. -/
inductive Moment where
  | byte (b : UInt8)
  | blinkTimer
  /-- A renderer lowers the flags of what it drew from a snapshot, however old
  the snapshot is. -/
  | clearDirty (views : List CellView)
  | markAllDirty
  /-- A renderer brings its copy up to date. -/
  | frame (copy : Replica)
  deriving DecidableEq, Repr

/-- The byte of the host that comes at a moment. -/
def Moment.bytes : Moment → List UInt8
  | .byte b => [b]
  | _ => []

def live (t : Terminal) : Moment → Terminal
  | .byte b => t.process [b]
  | .blinkTimer => t.mapScreen (·.toggleBlinkPhase)
  | .clearDirty views => t.mapScreen (·.clearDirty views)
  | .markAllDirty => t.mapScreen (·.markAllDirty)
  | .frame copy => t.mapScreen fun s => (copy.sync s).2.1

/-- `u` is `t` except for what has been drawn and for the blink phase, which is
given. -/
def Redrawn (t : Terminal) (blinkPhase : Bool) (u : Terminal) : Prop :=
  ∃ dirty, u = { t with screen := { t.screen with dirty, blinkPhase } }

variable {t u : Terminal} {blinkPhase : Bool}

theorem Redrawn.live (h : t.Redrawn blinkPhase u) (moment : Moment) :
    (t.process moment.bytes).Redrawn (if moment = .blinkTimer then !blinkPhase else blinkPhase)
      (u.live moment) := by
  obtain ⟨dirty, rfl⟩ := h
  cases moment with
  | byte b =>
      obtain ⟨flags, hstep⟩ := t.decoder.step_redrawn t.screen dirty blinkPhase b
      rw [if_neg (by simp)]
      refine ⟨flags, ?_⟩
      simp only [Terminal.live, Moment.bytes, process, Decoder.run_cons, Decoder.run_nil, hstep]
  | blinkTimer => exact ⟨_, rfl⟩
  | clearDirty views => exact ⟨_, rfl⟩
  | markAllDirty => exact ⟨_, rfl⟩
  | frame copy =>
      obtain ⟨flags, hframe⟩ := copy.exists_sync_eq { t.screen with dirty, blinkPhase }
      exact ⟨flags, congrArg (fun s => { t with screen := s }) hframe⟩

theorem Redrawn.foldl_live (h : t.Redrawn blinkPhase u) (moments : List Moment) :
    (t.process (moments.flatMap Moment.bytes)).Redrawn
      (not^[moments.count .blinkTimer] blinkPhase) (moments.foldl Terminal.live u) := by
  induction moments generalizing t u blinkPhase with
  | nil => exact h
  | cons moment moments ih =>
      rw [List.flatMap_cons, process_append, List.foldl_cons, List.count_cons]
      have hrest := ih (h.live moment)
      by_cases htick : moment = .blinkTimer
      · rw [if_pos htick] at hrest
        rw [if_pos (beq_iff_eq.mpr htick), Function.iterate_succ_apply]
        exact hrest
      · rw [if_neg htick] at hrest
        rw [if_neg (mt beq_iff_eq.mp htick)]
        exact hrest

/-- The host's stream does the same whatever renderers and the blink timer do
between its bytes: screen and decoder are those after the bytes alone, but for
the dirty flags and for the blink phase, which was flipped once at each tick of
the timer. -/
theorem process_while_watched (t : Terminal) (moments : List Moment) :
    let watched := moments.foldl live t
    let alone := t.process (moments.flatMap Moment.bytes)
    watched.decoder = alone.decoder ∧
      watched.screen.blinkPhase = not^[moments.count .blinkTimer] t.screen.blinkPhase ∧
      ∃ dirty blinkPhase, watched.screen = { alone.screen with dirty, blinkPhase } := by
  intro watched alone
  have hself : t.Redrawn t.screen.blinkPhase t := ⟨t.screen.dirty, rfl⟩
  obtain ⟨dirty, hwatched⟩ := hself.foldl_live moments
  have hwatched : watched = _ := hwatched
  rw [hwatched]
  exact ⟨rfl, rfl, dirty, _, rfl⟩

end Terminal

end DasherTerminal
