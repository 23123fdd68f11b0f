import DasherTerminal.Proofs.Screen.Strict
import DasherTerminal.Proofs.Terminal.Operation

/-!
# Strict terminals

The decoder and the terminal over strict access to the screen and to the places
for arguments, of which there are two. Whatever a terminal lives through, the
strict run has a result, and it is the state of the terminal.
-/

namespace DasherTerminal

namespace Decoder

def effect? (policy : AttributeOffPolicy) (byte : UInt8) (s : Screen) : Option Screen :=
  match byte with
  | 0o03 => s.setBlinkEnabled? true
  | 0o04 => s.setBlinkEnabled? false
  | 0o12 => s.newLine?
  | 0o13 => s.eraseToRight?
  | 0o14 => s.erasePage?
  | 0o27 => s.up?
  | 0o30 => s.right?
  | 0o32 => s.down?
  | byte => if isPrintable byte then s.put? byte else some (effect policy byte s)

def effectWith? (op : Opcode) (given : List UInt8) (s : Screen) : Option Screen :=
  match op, given with
  | .cursorAddress, [col, row] =>
    match coordinate? col s.size.cols, coordinate? row s.size.lines with
    | some x, some y => s.moveTo? x y
    | _, _ => some s
  | op, given => some (effectWith op given s)

/-- The number of places for arguments. -/
def argumentPlaces : Nat := 2

/-- An argument needs a place; the decoder itself touches no table. -/
def step? (d : Decoder) (s : Screen) (byte : UInt8) : Option (Decoder × Screen) :=
  match d.wait with
  | .idle =>
    match opcode? s.model byte with
    | some _ => some (d.step s byte)
    | none => do
      let t ← effect? d.policy byte s
      some ((d.step s byte).1, t)
  | .arguments op given =>
    if given.length < argumentPlaces then
      if given.length + 1 < op.arity then some (d.step s byte)
      else do
        let t ← effectWith? op (given ++ [byte]) s
        some ((d.step s byte).1, t)
    else none

def run? (d : Decoder) (s : Screen) (bytes : List UInt8) : Option (Decoder × Screen) :=
  bytes.foldlM (fun p byte => p.1.step? p.2 byte) (d, s)

variable {s : Screen}

theorem effect?_eq (hs : s.WellFormed) (policy : AttributeOffPolicy) (byte : UInt8) :
    effect? policy byte s = some (effect policy byte s) := by
  unfold effect?
  split
  · exact hs.setBlinkEnabled? true
  · exact hs.setBlinkEnabled? false
  · exact hs.newLine?
  · exact hs.eraseToRight?
  · exact hs.erasePage?
  · exact Screen.up?_eq
  · exact Screen.right?_eq
  · exact Screen.down?_eq
  · split
    · next h =>
        rw [effect_of_isPrintable policy h]
        exact hs.put? h
    · rfl

theorem effectWith?_eq (op : Opcode) (given : List UInt8) :
    effectWith? op given s = some (effectWith op given s) := by
  unfold effectWith?
  split
  · next col row =>
      cases hx : coordinate? col s.size.cols with
      | none => simp [effectWith, hx]
      | some x =>
          cases hy : coordinate? row s.size.lines with
          | none => simp [effectWith, hx, hy]
          | some y => simp [effectWith, hx, hy, Screen.moveTo?_eq]
  · rfl

theorem step?_eq {d : Decoder} (hs : s.WellFormed) (hd : d.wait.Unfinished) (byte : UInt8) :
    d.step? s byte = some (d.step s byte) := by
  unfold step?
  cases hwait : d.wait with
  | idle =>
      have hstep : d.step s byte = d.dispatch s byte := by simp [step, hwait]
      cases hop : opcode? s.model byte with
      | some op => rfl
      | none =>
          rw [hstep, dispatch_of_opcode?_eq_none d hop]
          simp [effect?_eq hs]
  | arguments op given =>
      have harity : op.arity ≤ argumentPlaces := by cases op <;> decide
      have hplace : given.length < argumentPlaces :=
        Nat.lt_of_lt_of_le (hd op given hwait) harity
      simp only [if_pos hplace, effectWith?_eq]
      split
      · rfl
      · next hlast => simp [step, hwait, hlast]

theorem run?_eq {d : Decoder} (hs : s.WellFormed) (hd : d.wait.Unfinished)
    (bytes : List UInt8) : d.run? s bytes = some (d.run s bytes) := by
  induction bytes generalizing d s with
  | nil => rfl
  | cons byte bytes ih =>
      have hscreen := (changes_step d hs byte).wellFormed hs
      have hwait := unfinished_step hd s byte
      rw [run?, List.foldlM_cons, step?_eq hs hd byte]
      exact ih hscreen hwait

end Decoder

namespace Terminal

def process? (t : Terminal) (bytes : List UInt8) : Option Terminal := do
  let (decoder, screen) ← t.decoder.run? t.screen bytes
  some { screen, decoder }

def selfTest? (t : Terminal) : Option Terminal := do
  let start : Terminal := { t with decoder := t.decoder.reset }
  let done ← start.process? (SelfTest.stream t.screen.size t.screen.model)
  let screen ← done.screen.setBlinkEnabled? t.screen.blinkEnabled
  some { screen, decoder := { done.decoder with notifications := [], responses := [] } }

def perform? (t : Terminal) : Operation → Option Terminal
  | .process bytes => t.process? bytes
  | .setBlinkEnabled on => do
    let screen ← t.screen.setBlinkEnabled? on
    some { t with screen }
  | .toggleBlinkPhase => do
    let screen ← t.screen.toggleBlinkPhase?
    some { t with screen }
  | .selfTest => t.selfTest?
  | op => some (t.perform op)

def performAll? (t : Terminal) (ops : List Operation) : Option Terminal := ops.foldlM perform? t

variable {t : Terminal}

theorem Sound.process? (h : t.Sound) (bytes : List UInt8) :
    t.process? bytes = some (t.process bytes) := by
  rw [Terminal.process?, Decoder.run?_eq h.screen.wellFormed h.wait]
  rfl

theorem Sound.selfTest? (h : t.Sound) : t.selfTest? = some t.selfTest := by
  have hstart : Sound { t with decoder := t.decoder.reset } :=
    ⟨h.screen, Decoder.unfinished_idle⟩
  unfold Terminal.selfTest? Terminal.selfTest
  generalize SelfTest.stream t.screen.size t.screen.model = stream
  have hdone := hstart.perform (.process stream)
  have hblink := hdone.screen.wellFormed.setBlinkEnabled? t.screen.blinkEnabled
  rw [Terminal.perform] at hblink
  simp only [hstart.process?, Option.bind_eq_bind, Option.bind_some, hblink]

theorem Sound.perform? (h : t.Sound) (op : Operation) :
    t.perform? op = some (t.perform op) := by
  cases op with
  | process bytes => exact h.process? bytes
  | setBlinkEnabled on =>
      rw [Terminal.perform?, h.screen.wellFormed.setBlinkEnabled?]
      rfl
  | toggleBlinkPhase =>
      rw [Terminal.perform?, h.screen.wellFormed.toggleBlinkPhase?]
      rfl
  | selfTest => exact h.selfTest?
  | resize size => rfl
  | setModel model => rfl
  | drainNotifications => rfl
  | drainResponses => rfl

theorem Sound.performAll? (h : t.Sound) (ops : List Operation) :
    t.performAll? ops = some (t.performAll ops) := by
  induction ops generalizing t with
  | nil => rfl
  | cons op ops ih =>
      rw [Terminal.performAll?, List.foldlM_cons, h.perform? op]
      exact ih (h.perform op)

/-- The representation of a terminal fits its size after any operations, and no
operation on the way looks for a place that is not there. -/
theorem representation_performAll (setup : Setup) (ops : List Operation) :
    let t := (fresh setup).performAll ops
    let s := t.screen
    s.cells.rows.size = s.size.lines ∧
      (∀ row ∈ s.cells.rows, row.size = s.size.cols) ∧
      s.dirty.flat.size = s.size.cols * s.size.lines ∧
      s.cursor.row < s.size.lines ∧ s.cursor.col < s.size.cols ∧
      (∀ x y cell, s.cell? x y = some cell → 0x20 ≤ cell.code ∧ cell.code ≤ 0x7F) ∧
      (∀ op given, t.decoder.wait = .arguments op given → given.length < op.arity) ∧
      (fresh setup).performAll? ops = some t ∧
      s.snapshot? = some s.snapshot ∧
      ∀ x y, x < s.size.cols → y < s.size.lines → s.touch? x y = some () := by
  intro t s
  have ht : t.Sound := ((Reachable.fresh setup).performAll ops).sound
  have hs : s.WellFormed := ht.screen.wellFormed
  refine ⟨hs.cells_shape.1, hs.cells_shape.2, hs.dirty_shape.size_flat, hs.row_lt, hs.col_lt,
    ?_, ht.wait, (sound_fresh setup).performAll? ops, hs.snapshot?,
    fun x y hx hy => hs.touch? hx hy⟩
  intro x y cell hcell
  have hshown := ht.screen.shown x y cell hcell
  simpa [Decoder.isPrintable] using hshown

end Terminal

end DasherTerminal
