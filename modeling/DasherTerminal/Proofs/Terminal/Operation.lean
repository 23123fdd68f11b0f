import DasherTerminal.Protocol.Terminal
import DasherTerminal.Proofs.Protocol.Decoder
import DasherTerminal.Proofs.Screen.Sound

/-!
# What a terminal lives through

A session asks eight things of its terminal, in any order, while renderers lower
and raise dirty flags. In every state that this can lead to the screen is sound
and the decoder waits for an argument only while one is missing.
-/

namespace DasherTerminal.Terminal

/-- What a session can ask of its terminal. -/
inductive Operation where
  | process (bytes : List UInt8)
  | resize (size : ScreenSize)
  | setModel (model : Model)
  | setBlinkEnabled (on : Bool)
  | toggleBlinkPhase
  | selfTest
  | drainNotifications
  | drainResponses
  deriving DecidableEq, Repr

def perform (t : Terminal) : Operation → Terminal
  | .process bytes => t.process bytes
  | .resize size => t.mapScreen (·.resize size)
  | .setModel model => t.mapScreen (·.setModel model)
  | .setBlinkEnabled on => t.mapScreen (·.setBlinkEnabled on)
  | .toggleBlinkPhase => t.mapScreen (·.toggleBlinkPhase)
  | .selfTest => t.selfTest
  | .drainNotifications => t.drainNotifications.2
  | .drainResponses => t.drainResponses.2

def performAll (t : Terminal) (ops : List Operation) : Terminal := ops.foldl perform t

@[simp] theorem performAll_nil (t : Terminal) : t.performAll [] = t := rfl

@[simp] theorem performAll_cons (t : Terminal) (op : Operation) (ops : List Operation) :
    t.performAll (op :: ops) = (t.perform op).performAll ops := rfl

theorem performAll_append (t : Terminal) (a b : List Operation) :
    t.performAll (a ++ b) = (t.performAll a).performAll b :=
  List.foldl_append

/-- The states that a terminal can come to, renderers at work included. -/
inductive Reachable : Terminal → Prop
  | fresh (setup : Setup) : Reachable (fresh setup)
  | perform {t : Terminal} (h : Reachable t) (op : Operation) : Reachable (t.perform op)
  | clearDirty {t : Terminal} (h : Reachable t) (views : List CellView) :
      Reachable (t.mapScreen (·.clearDirty views))
  | markAllDirty {t : Terminal} (h : Reachable t) : Reachable (t.mapScreen (·.markAllDirty))

theorem Reachable.performAll {t : Terminal} (h : Reachable t) (ops : List Operation) :
    Reachable (t.performAll ops) := by
  induction ops generalizing t with
  | nil =>
      rw [performAll_nil]
      exact h
  | cons op ops ih =>
      rw [performAll_cons]
      exact ih (h.perform op)

/-- The invariant of terminals. -/
structure Sound (t : Terminal) : Prop where
  screen : t.screen.Sound
  wait : t.decoder.wait.Unfinished

variable {t : Terminal}

theorem sound_fresh (setup : Setup) : (fresh setup).Sound :=
  ⟨(Screen.sound_empty ..).setBlinkEnabled _, Decoder.unfinished_idle⟩

theorem transitions_process (hs : t.screen.WellFormed) (bytes : List UInt8) :
    t.screen.Transitions (t.process bytes).screen :=
  (Decoder.changes_run t.decoder hs bytes).transitions

/-- The pattern is run from an idle decoder, and then blinking is as before. -/
theorem selfTest_eq (t : Terminal) :
    ∃ stream : List UInt8, t.selfTest =
      { screen := (t.decoder.reset.run t.screen stream).2.setBlinkEnabled t.screen.blinkEnabled
        decoder := { (t.decoder.reset.run t.screen stream).1 with
          notifications := [], responses := [] } } := by
  unfold selfTest
  -- The pattern is long; nothing below looks into it.
  generalize SelfTest.stream t.screen.size t.screen.model = stream
  exact ⟨stream, rfl⟩

theorem transitions_perform (hs : t.screen.WellFormed) (op : Operation) :
    t.screen.Transitions (t.perform op).screen := by
  cases op with
  | process bytes => exact transitions_process hs bytes
  | resize size => exact .single (.resize size)
  | setModel model => exact .single (.setModel model)
  | setBlinkEnabled on => exact .single (.host (.blinkEnabled on))
  | toggleBlinkPhase => exact .single .toggleBlinkPhase
  | selfTest =>
      obtain ⟨stream, htest⟩ := t.selfTest_eq
      have hrun := (Decoder.changes_run t.decoder.reset hs stream).transitions
      rw [perform, htest]
      exact hrun.tail (.host (.blinkEnabled _))
  | drainNotifications => exact .refl
  | drainResponses => exact .refl

theorem unfinished_perform (h : t.decoder.wait.Unfinished) (op : Operation) :
    (t.perform op).decoder.wait.Unfinished := by
  cases op with
  | process bytes => exact Decoder.unfinished_run h t.screen bytes
  | selfTest =>
      obtain ⟨stream, htest⟩ := t.selfTest_eq
      rw [perform, htest]
      exact Decoder.unfinished_run Decoder.unfinished_idle t.screen stream
  | resize size => exact h
  | setModel model => exact h
  | setBlinkEnabled on => exact h
  | toggleBlinkPhase => exact h
  | drainNotifications => exact h
  | drainResponses => exact h

theorem Sound.perform (h : t.Sound) (op : Operation) : (t.perform op).Sound :=
  ⟨(transitions_perform h.screen.wellFormed op).sound h.screen, unfinished_perform h.wait op⟩

theorem Reachable.sound (h : Reachable t) : t.Sound := by
  induction h with
  | fresh setup => exact sound_fresh setup
  | perform _ op ih => exact ih.perform op
  | clearDirty _ views ih => exact ⟨ih.screen.clearDirty views, ih.wait⟩
  | markAllDirty _ ih => exact ⟨ih.screen.markAllDirty, ih.wait⟩

end DasherTerminal.Terminal
