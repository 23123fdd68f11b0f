import DasherTerminal.Proofs.Screen.Page
import DasherTerminal.Proofs.Protocol.Grammar
import DasherTerminal.Proofs.Terminal.Operation

/-!
# Text on a terminal

A terminal that is cleared and then given a text shows the last rows of it and
keeps those before them in its history, whatever it went through earlier. No row
is lost, doubled or moved at the right margin or on the last line.
-/

namespace DasherTerminal

namespace Wrapping

theorem rowsFrom_ne_nil (width : Nat) (row text : List UInt8) : rowsFrom width row text ≠ [] := by
  induction text generalizing row with
  | nil => simp [rowsFrom]
  | cons b text ih =>
      simp only [rowsFrom]
      split
      · simp
      · split
        · exact ih _
        · simp

theorem getLastD_cons_rowsFrom (width : Nat) (first row text : List UInt8) :
    (first :: rowsFrom width row text).getLastD [] = (rowsFrom width row text).getLastD [] := by
  rw [List.getLastD_cons]
  cases h : rowsFrom width row text with
  | nil => exact absurd h (rowsFrom_ne_nil width row text)
  | cons a rows => rfl

/-- Padded, every row is as wide as the screen. -/
theorem length_line {width : Nat} {text row : List UInt8} (hwidth : 0 < width)
    (hrow : row ∈ rows width text) : (line width row).length = width := by
  have hle := length_le_of_mem_rowsFrom hwidth (by simpa using hwidth) hrow
  rw [line, String.length_ofList, List.length_map, List.length_rightpad]
  omega

end Wrapping

namespace Decoder

variable {d : Decoder} {before s : Screen}

/-- Codes that nobody is told of leave the decoder as it is. -/
theorem step_quiet (hidle : d.wait = .idle) {byte : UInt8} (hop : opcode? s.model byte = none)
    (hbell : byte ≠ 0o07) : d.step s byte = (d, effect d.policy byte s) := by
  rw [step_code hidle hop]
  simp [report, Token.notifications, Token.responses, hbell]

theorem step_lineFeed (hidle : d.wait = .idle) : d.step s 0o12 = (d, s.newLine) :=
  step_quiet hidle (by simp [opcode?]) (by decide)

theorem step_printable (hidle : d.wait = .idle) {byte : UInt8} (h : isPrintable byte = true) :
    d.step s byte = (d, s.put byte) := by
  have hbell : byte ≠ 0o07 := by
    rintro rfl
    exact absurd h (by decide)
  rw [step_quiet hidle (opcode?_of_isPrintable _ h) hbell, effect_of_isPrintable _ h]

/-- The rows of a text are added to those that are already there; the last of
these is still being written. -/
theorem run_text (hidle : d.wait = .idle) {text : List UInt8}
    (htext : ∀ b ∈ text, isPrintable b = true ∨ b = 0o12) {done : List (List UInt8)}
    {row : List UInt8} (h : before.Shows s (done ++ [row]) row.length)
    (hfits : row.length < before.size.cols) :
    (d.run s text).1 = d ∧
      before.Shows (d.run s text).2 (done ++ Wrapping.rowsFrom before.size.cols row text)
        ((Wrapping.rowsFrom before.size.cols row text).getLastD []).length := by
  induction text generalizing s done row with
  | nil => exact ⟨rfl, h⟩
  | cons b text ih =>
      have hcols := before.size.cols_pos
      have hrest : ∀ c ∈ text, isPrintable c = true ∨ c = 0o12 :=
        fun c hc => htext c (List.mem_cons_of_mem b hc)
      rw [run_cons]
      by_cases hfeed : b = 0o12
      · obtain ⟨hdecoder, hshows⟩ := ih hrest (h.newLine (by simp)) hcols
        rw [hfeed, step_lineFeed hidle, Wrapping.rowsFrom, if_pos rfl,
          Wrapping.getLastD_cons_rowsFrom, List.append_cons]
        exact ⟨hdecoder, hshows⟩
      · have hprintable := (htext b List.mem_cons_self).resolve_right hfeed
        rw [step_printable hidle hprintable, Wrapping.rowsFrom, if_neg hfeed]
        by_cases hroom : row.length + 1 < before.size.cols
        · have hput := h.put_of_lt hroom b
          have hlength : (row ++ [b]).length = row.length + 1 := by simp
          rw [if_pos hroom]
          rw [← hlength] at hput hroom
          exact ih hrest hput hroom
        · obtain ⟨hdecoder, hshows⟩ :=
            ih hrest (h.put_of_le hfits (Nat.le_of_not_lt hroom) b) hcols
          rw [if_neg hroom, Wrapping.getLastD_cons_rowsFrom, List.append_cons]
          exact ⟨hdecoder, hshows⟩

end Decoder

namespace Terminal

/-- Wrapping and scrolling lose nothing. -/
theorem process_text {t : Terminal} (h : Reachable t) (hidle : t.decoder.wait = .idle)
    {text : List UInt8} (htext : ∀ b ∈ text, Decoder.isPrintable b = true ∨ b = 0o12) :
    let size := t.screen.size
    let history := t.screen.history
    let u := t.process ([0o14, 0o22] ++ text)
    let rows := Wrapping.rows size.cols text
    u.decoder = t.decoder ∧
      u.screen.size = size ∧
      u.screen.cells.rows.toList =
        (rows.rtake size.lines).map (Wrapping.cells size.cols) ++
          List.replicate (size.lines - rows.length) (Array.replicate size.cols .blank) ∧
      u.screen.history.capacity = history.capacity ∧
      u.screen.history.lines.toList =
        (history.lines.toList ++
          (rows.take (rows.length - size.lines)).map (Wrapping.line size.cols)).rtake
            history.capacity ∧
      (∀ row ∈ rows, (Wrapping.line size.cols row).length = size.cols) ∧
      u.screen.cursor = ⟨min rows.length size.lines - 1, (rows.getLastD []).length⟩ := by
  intro size history u rows
  have hcleared : t.screen.Shows (t.screen.erasePage.setRoll true) ([] ++ [[]])
      ([] : List UInt8).length := Screen.shows_cleared h.sound.screen.history_fits
  have herase : t.decoder.step t.screen 0o14 = (t.decoder, t.screen.erasePage) :=
    Decoder.step_quiet hidle (by simp [Decoder.opcode?]) (by decide)
  have hroll : t.decoder.step t.screen.erasePage 0o22 =
      (t.decoder, t.screen.erasePage.setRoll true) :=
    Decoder.step_quiet hidle (by simp [Decoder.opcode?]) (by decide)
  have hu : u = ⟨(t.decoder.run (t.screen.erasePage.setRoll true) text).2,
      (t.decoder.run (t.screen.erasePage.setRoll true) text).1⟩ := by
    simp only [u, process, List.cons_append, List.nil_append, Decoder.run_cons, herase, hroll]
  obtain ⟨hdecoder, hshows⟩ := Decoder.run_text hidle htext hcleared size.cols_pos
  rw [List.nil_append] at hshows
  rw [hu]
  exact ⟨hdecoder, hshows.size, hshows.cells, hshows.capacity, hshows.history,
    fun row hrow => Wrapping.length_line size.cols_pos hrow, hshows.cursor⟩

/-- One letter and 24 line feeds scroll the letter off a screen of 24 lines. -/
theorem process_text_fresh :
    let u := (fresh .default).process ([0o14, 0o22] ++ 0x41 :: List.replicate 24 0o12)
    u.screen.history.lines.toList = [Wrapping.line 80 [0x41]] ∧ u.screen.cursor = ⟨23, 0⟩ := by
  intro u
  have htext : ∀ b ∈ 0x41 :: List.replicate 24 (0o12 : UInt8),
      Decoder.isPrintable b = true ∨ b = 0o12 := by
    intro b hb
    rcases List.mem_cons.mp hb with rfl | hb
    · exact Or.inl rfl
    · exact Or.inr (List.eq_of_mem_replicate hb)
  have hsize : (fresh .default).screen.size = .default := rfl
  have hempty : (fresh .default).screen.history = .empty 2000 := rfl
  have hrows : Wrapping.rows ScreenSize.default.cols (0x41 :: List.replicate 24 0o12) =
      [0x41] :: List.replicate 24 [] := by decide
  have hline : ((History.empty 2000).lines.toList ++
      (([0x41] :: List.replicate 24 []).take 1).map (Wrapping.line 80)).rtake 2000 =
        [Wrapping.line 80 [0x41]] := by
    simp [History.empty, List.rtake]
  obtain ⟨_, _, _, _, hhistory, _, hcursor⟩ := process_text (.fresh .default) rfl htext
  rw [hsize, hempty, hrows] at hhistory
  rw [hsize, hrows] at hcursor
  constructor
  · rw [hhistory]
    exact hline
  · exact hcursor

end Terminal

end DasherTerminal
