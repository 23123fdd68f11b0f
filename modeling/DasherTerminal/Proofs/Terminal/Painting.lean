import DasherTerminal.Proofs.Protocol.Effect
import DasherTerminal.Proofs.Screen.Scroll
import DasherTerminal.Proofs.Terminal.Operation

/-!
# Painting a picture

A host can put any code with any attributes into any cell, one cell after
another and in any order, the bottom right corner included: with roll off
nothing scrolls, so no cell disturbs another.
-/

namespace DasherTerminal

namespace Attributes

/-- The codes that end all attributes, whatever the policy. -/
def ending : List Token := [.code 0o25, .code 0o35, .code 0o17, .command 'E'.toUInt8]

def beginning (a : Attributes) : List Token :=
  (if a.dim then [.code 0o34] else []) ++ (if a.underscore then [.code 0o24] else []) ++
    (if a.blink then [.code 0o16] else []) ++
    (if a.reverse then [.command 'D'.toUInt8] else [])

variable {s : Screen}

theorem foldl_ending (policy : AttributeOffPolicy) :
    ending.foldl (fun s t => t.effect policy s) s = { s with attributes := .plain } := by
  cases policy <;> rfl

theorem foldl_beginning (policy : AttributeOffPolicy) (a : Attributes)
    (hplain : s.attributes = .plain) :
    a.beginning.foldl (fun s t => t.effect policy s) s = { s with attributes := a } := by
  obtain ⟨size, model, cells, dirty, cursor, attributes, blinkEnabled, blinkPhase, roll, history⟩ :=
    s
  obtain ⟨blink, reverse, dim, underscore⟩ := a
  cases hplain
  cases dim <;> cases underscore <;> cases blink <;> cases reverse <;> rfl

end Attributes

namespace Cell

/-- The bytes that put a cell in column `x` of row `y`. -/
def stroke (cell : Cell) (x y : Nat) : List UInt8 :=
  [0o25, 0o35, 0o17, 0o36, 'E'.toUInt8] ++
    (if cell.attributes.dim then [0o34] else []) ++
    (if cell.attributes.underscore then [0o24] else []) ++
    (if cell.attributes.blink then [0o16] else []) ++
    (if cell.attributes.reverse then [0o36, 'D'.toUInt8] else []) ++
    [0o20, UInt8.ofNat (x + 1), UInt8.ofNat (y + 1), cell.code]

def strokeTokens (cell : Cell) (x y : Nat) : List Token :=
  Attributes.ending ++ cell.attributes.beginning ++
    [.address (UInt8.ofNat (x + 1)) (UInt8.ofNat (y + 1)), .code cell.code]

theorem flatMap_strokeTokens (cell : Cell) (x y : Nat) :
    (cell.strokeTokens x y).flatMap Token.bytes = cell.stroke x y := by
  simp only [strokeTokens, stroke, Attributes.ending, Attributes.beginning]
  split <;> split <;> split <;> split <;> rfl

theorem isToken_of_mem_strokeTokens {model : Model} (hmodel : model.hasCommandPrefix = true)
    {cell : Cell} (hcode : Decoder.isPrintable cell.code = true) {x y : Nat} {t : Token}
    (ht : t ∈ cell.strokeTokens x y) : t.IsToken model := by
  have hprintable := Decoder.opcode?_of_isPrintable model hcode
  simp only [strokeTokens, Attributes.ending, Attributes.beginning, List.mem_append,
    List.mem_cons, List.not_mem_nil, List.mem_ite_nil_right, or_false] at ht
  rcases ht with ((rfl | rfl | rfl | rfl) | (((⟨_, rfl⟩ | ⟨_, rfl⟩) | ⟨_, rfl⟩) | ⟨_, rfl⟩)) |
    (rfl | rfl)
  case inl.inl.inr.inr.inr | inl.inr.inr => exact hmodel
  case inr.inl => trivial
  case inr.inr => exact hprintable
  all_goals simp [Token.IsToken, Decoder.opcode?]

/-- A stroke sets one cell. It may leave the cursor and the attributes anywhere. -/
theorem foldl_strokeTokens {s : Screen} (hs : s.WellFormed) (hroll : s.roll = false)
    (policy : AttributeOffPolicy) {cell : Cell} (hcode : Decoder.isPrintable cell.code = true)
    {x y : Nat} (hx : x < s.size.cols) (hy : y < s.size.lines) :
    ∃ cursor, (cell.strokeTokens x y).foldl (fun s t => t.effect policy s) s =
      { s.write x y cell with attributes := cell.attributes, cursor } := by
  have hat : ({ s with attributes := cell.attributes, cursor := ⟨y, x⟩ } : Screen).WellFormed :=
    ⟨hs.cells_shape, hs.dirty_shape, hy, hx⟩
  obtain ⟨cursor, hput⟩ := hat.put_eq hcode (by simp [hroll])
  refine ⟨cursor, ?_⟩
  rw [strokeTokens, List.foldl_append, List.foldl_append, Attributes.foldl_ending,
    Attributes.foldl_beginning _ _ rfl, List.foldl_cons, List.foldl_cons, List.foldl_nil,
    Token.effect_address policy (by exact hx) (by exact hy), Token.effect,
    Decoder.effect_of_isPrintable policy hcode]
  exact hput

end Cell

/-- The bytes that paint a picture: clear the page, turn roll off, and put the
cells in the given order. -/
def painting (picture : Nat → Nat → Cell) (order : List (Nat × Nat)) : List UInt8 :=
  [0o14, 0o23] ++ order.flatMap fun p => (picture p.1 p.2).stroke p.1 p.2

def paintingTokens (picture : Nat → Nat → Cell) (order : List (Nat × Nat)) : List Token :=
  [.code 0o14, .code 0o23] ++ order.flatMap fun p => (picture p.1 p.2).strokeTokens p.1 p.2

theorem flatMap_paintingTokens (picture : Nat → Nat → Cell) (order : List (Nat × Nat)) :
    (paintingTokens picture order).flatMap Token.bytes = painting picture order := by
  have hstrokes : ∀ p : Nat × Nat,
      ((picture p.1 p.2).strokeTokens p.1 p.2).flatMap Token.bytes =
        (picture p.1 p.2).stroke p.1 p.2 :=
    fun p => Cell.flatMap_strokeTokens (picture p.1 p.2) p.1 p.2
  rw [paintingTokens, List.flatMap_append, List.flatMap_assoc]
  simp only [hstrokes]
  rfl

theorem foldl_strokes {s : Screen} (hs : s.WellFormed) (hroll : s.roll = false)
    (policy : AttributeOffPolicy) {picture : Nat → Nat → Cell} {order : List (Nat × Nat)}
    (horder : ∀ p ∈ order, p.1 < s.size.cols ∧ p.2 < s.size.lines ∧
      Decoder.isPrintable (picture p.1 p.2).code = true) :
    ∃ dirty cursor attributes,
      (order.flatMap fun p => (picture p.1 p.2).strokeTokens p.1 p.2).foldl
          (fun s t => t.effect policy s) s =
        { s with cells := s.cells.paint picture order, dirty, cursor, attributes } := by
  induction order generalizing s with
  | nil => exact ⟨s.dirty, s.cursor, s.attributes, rfl⟩
  | cons p order ih =>
      obtain ⟨hx, hy, hcode⟩ := horder p List.mem_cons_self
      obtain ⟨cursor, hstroke⟩ := Cell.foldl_strokeTokens hs hroll policy hcode hx hy
      have hnext := (Token.changes_foldl hs policy
        ((picture p.1 p.2).strokeTokens p.1 p.2)).wellFormed hs
      rw [hstroke] at hnext
      obtain ⟨dirty, cursor, attributes, hrest⟩ :=
        ih hnext hroll fun q hq => horder q (List.mem_cons_of_mem p hq)
      refine ⟨dirty, cursor, attributes, ?_⟩
      rw [List.flatMap_cons, List.foldl_append, hstroke]
      exact hrest

namespace Terminal

variable {t : Terminal}

theorem screen_process_painting (h : Reachable t) (hidle : t.decoder.wait = .idle)
    (hmodel : t.screen.model.hasCommandPrefix = true) {picture : Nat → Nat → Cell}
    {order : List (Nat × Nat)}
    (horder : ∀ p ∈ order, p.1 < t.screen.size.cols ∧ p.2 < t.screen.size.lines ∧
      Decoder.isPrintable (picture p.1 p.2).code = true) :
    ∃ dirty cursor attributes,
      (t.process (painting picture order)).screen =
        { t.screen with
          cells := (Grid.replicate t.screen.size.cols t.screen.size.lines .blank).paint picture
            order
          dirty, cursor, attributes, roll := false } ∧
      (t.process (painting picture order)).decoder.wait = .idle := by
  have hs := h.sound.screen.wellFormed
  have hcleared : (t.screen.erasePage.setRoll false).WellFormed :=
    (Screen.Change.roll false).wellFormed (Screen.Change.erasePage.wellFormed hs)
  have htokens : ∀ u ∈ paintingTokens picture order, u.IsToken t.screen.model := by
    intro u hu
    rcases List.mem_append.mp hu with hu | hu
    · simp only [List.mem_cons, List.not_mem_nil, or_false] at hu
      rcases hu with rfl | rfl <;> simp [Token.IsToken, Decoder.opcode?]
    · obtain ⟨p, hp, hu⟩ := List.mem_flatMap.mp hu
      exact Cell.isToken_of_mem_strokeTokens hmodel (horder p hp).2.2 hu
  obtain ⟨dirty, cursor, attributes, hpainted⟩ :=
    foldl_strokes hcleared rfl t.decoder.policy horder
  have hrun := Decoder.run_tokens hidle htokens
  rw [flatMap_paintingTokens] at hrun
  refine ⟨dirty, cursor, attributes, ?_, ?_⟩
  · rw [process, hrun]
    exact hpainted
  · rw [process, hrun]
    exact hidle

/-- Any picture can be painted, and in any order. -/
theorem process_painting (h : Reachable t) (hidle : t.decoder.wait = .idle)
    (hmodel : t.screen.model = .d210 ∨ t.screen.model = .d211) {picture : Nat → Nat → Cell}
    (hpicture : ∀ x y, x < t.screen.size.cols → y < t.screen.size.lines →
      Decoder.isPrintable (picture x y).code = true)
    {order : List (Nat × Nat)}
    (horder : order.Perm (Grid.positions t.screen.size.cols t.screen.size.lines)) :
    let u := t.process (painting picture order)
    u.screen.size = t.screen.size ∧
      (∀ x y, x < t.screen.size.cols → y < t.screen.size.lines →
        u.screen.cell? x y = some (picture x y)) ∧
      u.screen.history = t.screen.history ∧
      u.decoder.wait = .idle ∧
      ∀ order' : List (Nat × Nat),
        order'.Perm (Grid.positions t.screen.size.cols t.screen.size.lines) →
        (t.process (painting picture order')).screen.cells = u.screen.cells := by
  intro u
  have hcommand : t.screen.model.hasCommandPrefix = true := by
    rcases hmodel with hmodel | hmodel <;> rw [hmodel] <;> rfl
  have hplaces : ∀ {places : List (Nat × Nat)},
      places.Perm (Grid.positions t.screen.size.cols t.screen.size.lines) →
      ∀ p ∈ places, p.1 < t.screen.size.cols ∧ p.2 < t.screen.size.lines ∧
        Decoder.isPrintable (picture p.1 p.2).code = true := by
    intro places hperm p hp
    obtain ⟨hx, hy⟩ := Grid.mem_positions_iff.mp (hperm.mem_iff.mp hp)
    exact ⟨hx, hy, hpicture _ _ hx hy⟩
  obtain ⟨dirty, cursor, attributes, hscreen, hwait⟩ :=
    screen_process_painting h hidle hcommand (hplaces horder)
  have hu : u.screen = _ := hscreen
  rw [hu]
  refine ⟨rfl, ?_, rfl, hwait, ?_⟩
  · intro x y hx hy
    have hmem : (x, y) ∈ order := horder.mem_iff.mpr (Grid.mem_positions_iff.mpr ⟨hx, hy⟩)
    rw [Screen.cell?, Grid.get?_paint, if_pos hmem, Grid.get?_replicate, if_pos ⟨hx, hy⟩,
      Option.map_some]
  · intro order' horder'
    obtain ⟨dirty', cursor', attributes', hscreen', _⟩ :=
      screen_process_painting h hidle hcommand (hplaces horder')
    rw [hscreen']
    exact (Grid.hasShape_replicate ..).paint_perm (horder'.trans horder.symm)

/-- Stars, with all attributes in the last corner. -/
def starred (x y : Nat) : Cell :=
  if x = 79 ∧ y = 23 then ⟨0x7F, ⟨true, true, true, true⟩⟩ else ⟨0x2A, .plain⟩

theorem process_painting_reversed :
    let screen :=
      ((fresh .default).process (painting starred (Grid.positions 80 24).reverse)).screen
    screen.cell? 79 23 = some ⟨0x7F, ⟨true, true, true, true⟩⟩ ∧
      screen.cell? 0 0 = some ⟨0x2A, .plain⟩ ∧ screen.history = .empty 2000 := by
  intro screen
  have hpicture : ∀ x y, x < 80 → y < 24 → Decoder.isPrintable (starred x y).code = true := by
    intro x y _ _
    unfold starred
    split <;> rfl
  have hsize : (fresh .default).screen.size = .default := rfl
  have horder : (Grid.positions 80 24).reverse.Perm (Grid.positions
      (fresh .default).screen.size.cols (fresh .default).screen.size.lines) := by
    rw [hsize]
    exact List.reverse_perm _
  have hempty : (fresh .default).screen.history = .empty 2000 := rfl
  obtain ⟨_, hcells, hhistory, _, _⟩ :=
    process_painting (.fresh .default) rfl (.inl rfl) hpicture horder
  rw [hempty] at hhistory
  exact ⟨hcells 79 23 (by decide) (by decide), hcells 0 0 (by decide) (by decide), hhistory⟩

end Terminal

end DasherTerminal
