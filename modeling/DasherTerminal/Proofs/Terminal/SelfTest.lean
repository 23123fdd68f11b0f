import DasherTerminal.Proofs.Protocol.Alike
import DasherTerminal.Proofs.Protocol.Pattern
import DasherTerminal.Proofs.Screen.Row
import DasherTerminal.Proofs.Terminal.Operation

/-!
# The self-test

The self-test shows the same picture on every terminal of one size, model and
policy, whatever the terminal lived through before. It adds one line to the
history and leaves the blinking as it was.
-/

namespace DasherTerminal

namespace SelfTest

theorem map_bar (size : ScreenSize) :
    (bar size).map charOfCode = List.replicate size.cols '=' := by
  rw [bar, List.map_replicate]
  rfl

theorem line_completeMark (width : Nat) :
    Wrapping.line width (ascii completeMark) =
      completeMark ++ String.ofList (List.replicate (width - completeMark.length) ' ') := by
  have hlength : (ascii completeMark).length = completeMark.length := by decide +kernel
  have htext : (ascii completeMark).map charOfCode = completeMark.toList := by decide +kernel
  have hblank : charOfCode blankCode = ' ' := rfl
  rw [Wrapping.line, List.rightpad, List.map_append, List.map_replicate, hlength, htext, hblank,
    String.ofList_append, String.ofList_toList]

end SelfTest

namespace Screen

/-- `t` is `s` after a self-test that pushed the line. -/
structure Tested (s t : Screen) (line : String) : Prop where
  size : t.size = s.size
  model : t.model = s.model
  attributes : t.attributes = .plain
  roll : t.roll = true
  dirty : ∀ x y, x < s.size.cols → y < s.size.lines → t.dirty.get? x y = some true
  mark : t.rowText? (s.size.lines - 1) = some (SelfTest.completeMark ++
    String.ofList (List.replicate (s.size.cols - SelfTest.completeMark.length) ' '))
  bar : t.rowText? (s.size.lines - 2) = some (String.ofList (List.replicate s.size.cols '='))
  history : t.history = s.history.push line
  blinkEnabled : t.blinkEnabled = s.blinkEnabled
  blinkPhase : t.blinkPhase = s.blinkPhase

variable {s : Screen}

theorem blinkEnabled_setBlinkEnabled (s : Screen) (on : Bool) :
    (s.setBlinkEnabled on).blinkEnabled = on := by
  unfold setBlinkEnabled
  split
  · assumption
  · rfl

theorem rowText?_setBlinkEnabled (s : Screen) (on : Bool) (y : Nat) :
    (s.setBlinkEnabled on).rowText? y = s.rowText? y := by
  rw [rowText?, rowText?, cells_setBlinkEnabled]

/-- The screen is `r` at the full line, `v` after it and `u` after the mark. -/
theorem Underway.tested {r v u : Screen} {n : Nat} (hr : s.Underway r n)
    (hfilled : r.FilledBottom v (SelfTest.bar s.size)) (hv : v.WellFormed) (hbarred : r.Changes v)
    (hmarked : v.Changes u) (hwrote : v.Wrote u (SelfTest.ascii SelfTest.completeMark))
    (hpen : u.pen = r.pen) :
    ∃ line, r.rowText? 0 = some line ∧ s.Tested (u.setBlinkEnabled s.blinkEnabled) line := by
  have hcols := s.size.le_cols
  have hrsize := hr.changes.size_eq
  have hbar : (SelfTest.bar s.size).length = r.size.cols := by
    rw [hrsize]
    exact List.length_replicate
  have hmark : (SelfTest.ascii SelfTest.completeMark).length ≤ r.size.cols := by
    have hlength := SelfTest.fits_completeMark.length_le
    rw [hrsize]
    omega
  obtain ⟨habove, hbelow⟩ := hfilled.rowText? hv (hmarked.wellFormed hv) hbar hwrote hmark
  rw [hrsize, SelfTest.map_bar] at habove
  rw [hrsize, SelfTest.line_completeMark] at hbelow
  have hblink : u.Changes (u.setBlinkEnabled s.blinkEnabled) := (Change.blinkEnabled _).changes
  have hshown : v.Changes (u.setBlinkEnabled s.blinkEnabled) := hmarked.trans hblink
  have hall : s.Changes (u.setBlinkEnabled s.blinkEnabled) :=
    (hr.changes.trans hbarred).trans hshown
  have hfinal : (u.setBlinkEnabled s.blinkEnabled).pen = ⟨.plain, true⟩ :=
    (Token.pen_setBlinkEnabled u _).trans (hpen.trans hr.pen)
  obtain ⟨line, hline, hpushed⟩ := hfilled.history
  refine ⟨line, hline, hall.size_eq, hall.model_eq, congrArg Pen.attributes hfinal,
    congrArg Pen.roll hfinal, ?_, (u.rowText?_setBlinkEnabled _ _).trans hbelow,
    (u.rowText?_setBlinkEnabled _ _).trans habove, ?_, blinkEnabled_setBlinkEnabled u _,
    hall.blinkPhase_eq⟩
  · intro x y hx hy
    rw [← hrsize] at hx hy
    exact hshown.dirty_of_dirty hv (hfilled.dirty x y hx hy)
  · obtain ⟨⟨cells, dirty, hframe⟩, _⟩ := hwrote
    rw [history_setBlinkEnabled, hframe, ← hr.history]
    exact hpushed

theorem Sound.tested_of_underway {r : Screen} {n : Nat} (hs : s.Sound) (hr : s.Underway r n)
    (hcursor : r.cursor = ⟨s.size.lines - 1, 0⟩) :
    ∃ line, r.rowText? 0 = some line ∧ s.Tested
      (((SelfTest.bar s.size ++ SelfTest.ascii SelfTest.completeMark).foldl put r).setBlinkEnabled
        s.blinkEnabled) line := by
  have hcols := s.size.le_cols
  have hbar := SelfTest.fits_bar s.size
  have hmark := SelfTest.fits_completeMark
  have hlength := hmark.length_le
  have hrsize := hr.changes.size_eq
  have hrsound : r.Sound := hr.changes.transitions.sound hs
  have hfilled := hrsound.filledBottom (by rw [hrsize]; exact hcursor) (congrArg Pen.roll hr.pen)
    hbar.isPrintable (by rw [hrsize]; exact List.length_replicate)
  have hbarred := hrsound.wellFormed.changes_text hbar.isPrintable
  have hv := hbarred.wellFormed hrsound.wellFormed
  have hwrote := hv.wrote hmark.isPrintable
    (by rw [hfilled.cursor, hfilled.size, hrsize]; dsimp only; omega)
  have hpen := Token.pen_foldl_put (SelfTest.bar s.size ++ SelfTest.ascii SelfTest.completeMark) r
  rw [List.foldl_append] at hpen ⊢
  exact hr.tested hfilled hv hbarred (hv.changes_text hmark.isPrintable) hwrote hpen

theorem Tested.eq_of_alike {t u : Screen} {line line' : String} (hfirst : s.Tested t line)
    (hsecond : t.Tested u line') (halike : t.Alike u) (ht : t.WellFormed) (hu : u.WellFormed) :
    u = { t with history := t.history.push line' } := by
  obtain ⟨dirty, blinkEnabled, blinkPhase, history, rfl⟩ := alike_iff.mp halike
  obtain rfl : blinkEnabled = t.blinkEnabled := hsecond.blinkEnabled
  obtain rfl : blinkPhase = t.blinkPhase := hsecond.blinkPhase
  obtain rfl : history = t.history.push line' := hsecond.history
  have hraised : ∀ x y, x < t.size.cols → y < t.size.lines → t.dirty.get? x y = some true := by
    rw [hfirst.size]
    exact hfirst.dirty
  have hdirty : dirty = t.dirty :=
    (hu.dirty_shape.eq_replicate hsecond.dirty).trans (ht.dirty_shape.eq_replicate hraised).symm
  rw [hdirty]

/-- The pattern forgets all that two screens of one size and model differ in. -/
theorem alike_pageTokens {t : Screen} (hsize : t.size = s.size) (hmodel : t.model = s.model)
    (policy : AttributeOffPolicy) :
    ((SelfTest.pageTokens s.size s.model).foldl (fun s u => u.effect policy s) s).Alike
      ((SelfTest.pageTokens t.size t.model).foldl (fun s u => u.effect policy s) t) := by
  have hcells : Grid.replicate t.size.cols t.size.lines Cell.blank =
      .replicate s.size.cols s.size.lines .blank := by rw [hsize]
  have hcleared : (SelfTest.openingTokens.foldl (fun s u => u.effect policy s) s).Alike
      (SelfTest.openingTokens.foldl (fun s u => u.effect policy s) t) :=
    ⟨hsize, hmodel, hcells, rfl, rfl, rfl⟩
  rw [hsize, hmodel, SelfTest.pageTokens, List.foldl_append, List.foldl_append]
  exact Token.alike_foldl hcleared policy _

end Screen

namespace Terminal

/-- The screen when the pattern comes to its full line. -/
def page (t : Terminal) : Screen :=
  (SelfTest.pageTokens t.screen.size t.screen.model).foldl
    (fun s u => u.effect t.decoder.policy s) t.screen

theorem selfTest_eq_page (t : Terminal) : t.selfTest =
    { screen := ((SelfTest.bar t.screen.size ++ SelfTest.ascii SelfTest.completeMark).foldl
        Screen.put t.page).setBlinkEnabled t.screen.blinkEnabled
      decoder := { t.decoder with wait := .idle, notifications := [], responses := [] } } := by
  have hidle : t.decoder.reset.wait = .idle := rfl
  have htext : ∀ byte ∈ SelfTest.bar t.screen.size ++ SelfTest.ascii SelfTest.completeMark,
      Decoder.isPrintable byte = true := by
    intro byte hbyte
    exact (List.mem_append.mp hbyte).elim ((SelfTest.fits_bar _).isPrintable byte)
      (SelfTest.fits_completeMark.isPrintable byte)
  have htokens : ∀ u ∈ SelfTest.tokens t.screen.size t.screen.model, u.IsToken t.screen.model :=
    fun u => SelfTest.isToken_of_mem_tokens
  have hrun := Decoder.run_tokens (s := t.screen) hidle htokens
  rw [SelfTest.flatMap_tokens] at hrun
  rw [selfTest, process, hrun, SelfTest.tokens, List.foldl_append,
    Token.foldl_effect_text _ htext]
  rfl

variable {t t₁ t₂ : Terminal}

theorem idle_selfTest (t : Terminal) : t.selfTest.decoder.wait = .idle := by
  rw [selfTest_eq_page]

theorem policy_selfTest (t : Terminal) : t.selfTest.decoder.policy = t.decoder.policy := by
  rw [selfTest_eq_page]

theorem Reachable.tested (h : Reachable t) :
    ∃ line, t.page.rowText? 0 = some line ∧ t.screen.Tested t.selfTest.screen line := by
  have hs := h.sound.screen
  obtain ⟨hcursor, n, hunderway⟩ :=
    SelfTest.underway_pageTokens hs.wellFormed t.decoder.policy
  obtain ⟨line, hline, htested⟩ := hs.tested_of_underway hunderway hcursor
  refine ⟨line, hline, ?_⟩
  rw [selfTest_eq_page]
  exact htested

section Alike

variable (hsize : t₂.screen.size = t₁.screen.size) (hmodel : t₂.screen.model = t₁.screen.model)
  (hpolicy : t₂.decoder.policy = t₁.decoder.policy)

include hsize hmodel hpolicy

theorem alike_page : t₁.page.Alike t₂.page := by
  have halike := Screen.alike_pageTokens hsize hmodel t₁.decoder.policy
  rw [page, page, hpolicy]
  exact halike

theorem alike_selfTest : t₁.selfTest.screen.Alike t₂.selfTest.screen := by
  have hwritten := (alike_page hsize hmodel hpolicy).foldl_put
    (SelfTest.bar t₁.screen.size ++ SelfTest.ascii SelfTest.completeMark)
  rw [selfTest_eq_page, selfTest_eq_page, hsize]
  exact (Screen.alike_setBlinkEnabled _ _).symm.trans
    (hwritten.trans (Screen.alike_setBlinkEnabled _ _))

/-- Both tests push the line that both pages have at the top. -/
theorem exists_tested (h₁ : Reachable t₁) (h₂ : Reachable t₂) :
    ∃ line, t₁.page.rowText? 0 = some line ∧ t₁.screen.Tested t₁.selfTest.screen line ∧
      t₂.screen.Tested t₂.selfTest.screen line := by
  obtain ⟨line, hline, htested₁⟩ := h₁.tested
  obtain ⟨line', hline', htested₂⟩ := h₂.tested
  have hsame : t₂.page.rowText? 0 = t₁.page.rowText? 0 := by
    rw [Screen.rowText?, Screen.rowText?, (alike_page hsize hmodel hpolicy).cells]
  obtain rfl : line' = line := Option.some.inj (hline'.symm.trans (hsame.trans hline))
  exact ⟨line', hline, htested₁, htested₂⟩

end Alike

theorem Reachable.screen_selfTest_selfTest (h : Reachable t) {line : String}
    (hline : t.page.rowText? 0 = some line) :
    t.selfTest.selfTest.screen =
      { t.selfTest.screen with history := t.selfTest.screen.history.push line } := by
  have hnext : Reachable t.selfTest := h.perform .selfTest
  obtain ⟨_, _, htested⟩ := h.tested
  have halike := alike_selfTest htested.size htested.model t.policy_selfTest
  obtain ⟨line', hline', hfirst, hsecond⟩ :=
    exists_tested htested.size htested.model t.policy_selfTest h hnext
  obtain rfl : line' = line := Option.some.inj (hline'.symm.trans hline)
  exact hfirst.eq_of_alike hsecond halike hnext.sound.screen.wellFormed
    (hnext.perform .selfTest).sound.screen.wellFormed

/-- The result depends on the size, the model and the policy only. -/
theorem selfTest_alike (h₁ : Reachable t₁) (h₂ : Reachable t₂)
    (hsize : t₂.screen.size = t₁.screen.size) (hmodel : t₂.screen.model = t₁.screen.model)
    (hpolicy : t₂.decoder.policy = t₁.decoder.policy) :
    ∃ line, t₁.screen.Tested t₁.selfTest.screen line ∧ t₂.screen.Tested t₂.selfTest.screen line ∧
      t₁.selfTest.decoder.wait = .idle ∧ t₂.selfTest.decoder.wait = .idle ∧
      t₂.selfTest.screen.cells = t₁.selfTest.screen.cells ∧
      t₂.selfTest.screen.cursor = t₁.selfTest.screen.cursor ∧
      t₁.selfTest.selfTest.screen =
        { t₁.selfTest.screen with history := t₁.selfTest.screen.history.push line } := by
  have halike := alike_selfTest hsize hmodel hpolicy
  obtain ⟨line, hline, htested₁, htested₂⟩ := exists_tested hsize hmodel hpolicy h₁ h₂
  exact ⟨line, htested₁, htested₂, idle_selfTest t₁, idle_selfTest t₂, halike.cells,
    halike.cursor, h₁.screen_selfTest_selfTest hline⟩

/-- A terminal with a dim reversed code on its screen, roll off and half an
address received. -/
def disturbed : Terminal :=
  (fresh .default).process [0o34, 0o36, 'D'.toUInt8, 0o23, 'x'.toUInt8, 0o20]

theorem selfTest_alike_disturbed :
    disturbed.decoder.wait = .arguments .cursorAddress [] ∧ disturbed.screen.roll = false ∧
      disturbed.selfTest.decoder.wait = .idle ∧ disturbed.selfTest.screen.roll = true ∧
      disturbed.selfTest.screen.cells = (fresh .default).selfTest.screen.cells := by
  have hwait : disturbed.decoder.wait = .arguments .cursorAddress [] := rfl
  have hroll : disturbed.screen.roll = false := rfl
  have hreachable : Reachable disturbed := (Reachable.fresh .default).perform (.process _)
  obtain ⟨line, _, htested, _, hidle, hcells, _⟩ :=
    selfTest_alike (.fresh .default) hreachable rfl rfl rfl
  exact ⟨hwait, hroll, hidle, htested.roll, hcells⟩

end Terminal

end DasherTerminal
