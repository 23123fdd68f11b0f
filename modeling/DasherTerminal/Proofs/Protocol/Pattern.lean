import DasherTerminal.Protocol.SelfTest
import DasherTerminal.Proofs.Protocol.Reach

/-!
# The tokens of the self-test pattern

The pattern clears the page and draws on it without ever coming near the last
line. Only then does it go there, with nothing scrolled and the attributes plain,
whatever the screen was before.
-/

namespace DasherTerminal.SelfTest

def title (size : ScreenSize) (model : Model) : List UInt8 :=
  ascii s!"DASHER {model.name} SELF-TEST {size.text}"

/-- The movements up to 032 and 027, which take the cursor down and up again. -/
def untilCrossing : List UInt8 :=
  ascii "ERASE-EOL:KEEPDROP" ++ [0o31, 0o31, 0o31, 0o31, 0o13, 0o12] ++
    ascii "CURSOR:AB" ++ [0o31, 0o31] ++ ascii "ab" ++ [0o30] ++ ascii "C"

def afterCrossing : List UInt8 := ascii "D" ++ [0o15] ++ ascii "CURSOR" ++ [0o12]

/-- The pattern from the end of the title to there. -/
def drawing (model : Model) : List UInt8 :=
  [0o12] ++ printables ++ [0o12] ++ samples model ++ untilCrossing

def drawingTokens (model : Model) : List Token :=
  (Token.cut model.hasCommandPrefix (drawing model)).1

def closing (model : Model) : List UInt8 := afterCrossing ++ silent model

def closingTokens (model : Model) : List Token :=
  (Token.cut model.hasCommandPrefix (closing model)).1

def bar (size : ScreenSize) : List UInt8 := List.replicate size.cols '='.toUInt8

def openingTokens : List Token := [.code 0o14, .code 0o10, .code 0o22]

/-- The pattern between the clear page and the full line at the bottom. -/
def picture (size : ScreenSize) (model : Model) : List Token :=
  ((title size model).map .code ++ drawingTokens model) ++ [.code 0o32, .code 0o27] ++
    closingTokens model ++ [.address (UInt8.ofNat size.cols) 1] ++ (ascii "#").map .code ++
    [.address 1 (UInt8.ofNat size.lines)]

def pageTokens (size : ScreenSize) (model : Model) : List Token :=
  openingTokens ++ picture size model

def tokens (size : ScreenSize) (model : Model) : List Token :=
  pageTokens size model ++ (bar size ++ ascii completeMark).map .code

/-! ### Bytes -/

theorem flatMap_of_cut {model : Model} {stream : List UInt8}
    (h : (Token.cut model.hasCommandPrefix stream).2 = []) :
    (Token.cut model.hasCommandPrefix stream).1.flatMap Token.bytes = stream := by
  have hwhole := Token.flatten_cut model.hasCommandPrefix stream
  rw [h, List.append_nil] at hwhole
  exact hwhole

theorem flatMap_drawingTokens (model : Model) :
    (drawingTokens model).flatMap Token.bytes = drawing model :=
  flatMap_of_cut (by cases model <;> decide +kernel)

theorem flatMap_closingTokens (model : Model) :
    (closingTokens model).flatMap Token.bytes = closing model :=
  flatMap_of_cut (by cases model <;> decide +kernel)

theorem flatMap_tokens (size : ScreenSize) (model : Model) :
    (tokens size model).flatMap Token.bytes = stream size model := by
  simp only [tokens, pageTokens, openingTokens, picture, List.flatMap_append, Token.flatMap_code,
    flatMap_drawingTokens, flatMap_closingTokens, List.flatMap_cons, Token.bytes, stream, header,
    title, movements, frame, drawing, closing, untilCrossing, afterCrossing, bar,
    List.append_assoc, List.cons_append, List.nil_append]

/-! ### Texts -/

/-- A printable text of at most `n` codes. -/
structure Fits (n : Nat) (text : List UInt8) : Prop where
  isPrintable : ∀ byte ∈ text, Decoder.isPrintable byte = true
  length_le : text.length ≤ n

instance (n : Nat) (text : List UInt8) : Decidable (Fits n text) :=
  decidable_of_iff (text.all Decoder.isPrintable = true ∧ text.length ≤ n)
    ⟨fun h => ⟨List.all_eq_true.mp h.1, h.2⟩,
      fun h => ⟨List.all_eq_true.mpr h.isPrintable, h.length_le⟩⟩

theorem Fits.append {m n : Nat} {a b : String} (ha : Fits m (ascii a)) (hb : Fits n (ascii b)) :
    Fits (m + n) (ascii (a ++ b)) := by
  have happend : ascii (a ++ b) = ascii a ++ ascii b := by
    rw [ascii, String.toList_append, List.map_append]
    rfl
  rw [happend]
  refine ⟨?_, ?_⟩
  · intro byte hbyte
    exact (List.mem_append.mp hbyte).elim (ha.isPrintable byte) (hb.isPrintable byte)
  · rw [List.length_append]
    exact Nat.add_le_add ha.length_le hb.length_le

theorem Fits.tame {n : Nat} {text : List UInt8} (h : Fits n text) :
    Token.Tame n 0 (text.map .code) :=
  Token.tame_text h.isPrintable h.length_le

theorem fits_title (size : ScreenSize) (model : Model) : Fits 28 (title size model) := by
  have hname : Fits 4 (ascii model.name) := by cases model <;> decide +kernel
  have hcols : ∀ cols ∈ [80, 81, 120, 132, 135], Fits 3 (ascii (toString cols)) := by
    decide +kernel
  have hlines : ∀ lines ∈ [24, 25, 36, 48, 66], Fits 2 (ascii (toString lines)) := by
    decide +kernel
  have hcross : Fits 1 (ascii "x") := by decide +kernel
  have htext : Fits (3 + 1 + 2) (ascii size.text) :=
    ((hcols size.cols size.cols_mem).append hcross).append (hlines size.lines size.lines_mem)
  have hfirst : Fits 7 (ascii "DASHER ") := by decide +kernel
  have hmiddle : Fits 11 (ascii " SELF-TEST ") := by decide +kernel
  exact ((hfirst.append hname).append hmiddle).append htext

theorem fits_hash : Fits 1 (ascii "#") := by decide +kernel

theorem fits_completeMark : Fits 18 (ascii completeMark) := by decide +kernel

theorem fits_bar (size : ScreenSize) : Fits size.cols (bar size) := by
  refine ⟨?_, Nat.le_of_eq List.length_replicate⟩
  intro byte hbyte
  obtain rfl := List.eq_of_mem_replicate hbyte
  decide

/-! ### The model understands the pattern -/

theorem isToken_of_mem_pageTokens {size : ScreenSize} {model : Model} {t : Token}
    (ht : t ∈ pageTokens size model) : t.IsToken model := by
  have hcode : ∀ byte : UInt8, byte ≠ 0o20 → byte ≠ 0o36 → (Token.code byte).IsToken model := by
    intro byte haddress hcommand
    simp [Token.IsToken, Decoder.opcode?, haddress, hcommand]
  simp only [pageTokens, openingTokens, picture, List.mem_append, or_assoc, List.mem_cons,
    List.not_mem_nil, or_false] at ht
  rcases ht with rfl | rfl | rfl | htitle | hdrawn | rfl | rfl | hclosing | rfl | hhash | rfl
  · exact hcode _ (by decide) (by decide)
  · exact hcode _ (by decide) (by decide)
  · exact hcode _ (by decide) (by decide)
  · exact Token.isToken_of_mem_text (fits_title size model).isPrintable model htitle
  · exact Token.isToken_of_mem_cut hdrawn
  · exact hcode _ (by decide) (by decide)
  · exact hcode _ (by decide) (by decide)
  · exact Token.isToken_of_mem_cut hclosing
  · trivial
  · exact Token.isToken_of_mem_text fits_hash.isPrintable model hhash
  · trivial

theorem isToken_of_mem_tokens {size : ScreenSize} {model : Model} {t : Token}
    (ht : t ∈ tokens size model) : t.IsToken model := by
  rcases List.mem_append.mp ht with hpage | htext
  · exact isToken_of_mem_pageTokens hpage
  · refine Token.isToken_of_mem_text ?_ model htext
    intro byte hbyte
    exact (List.mem_append.mp hbyte).elim ((fits_bar size).isPrintable byte)
      (fits_completeMark.isPrintable byte)

/-! ### Nothing scrolls before the full line -/

theorem tame_drawingTokens (model : Model) : Token.Tame 170 4 (drawingTokens model) := by
  cases model <;> decide +kernel

theorem tame_closingTokens (model : Model) : Token.Tame 7 1 (closingTokens model) := by
  cases model <;> decide +kernel

variable {s : Screen}

/-- The pattern goes to the bottom line with the history as it was. -/
theorem underway_pageTokens (hs : s.WellFormed) (policy : AttributeOffPolicy) :
    let r := (pageTokens s.size s.model).foldl (fun s t => t.effect policy s) s
    r.cursor = ⟨s.size.lines - 1, 0⟩ ∧ ∃ n, s.Underway r n := by
  have hcols := s.size.le_cols
  have hlines := s.size.le_lines
  have hcells : 24 * s.size.cols ≤ s.size.cells := by
    rw [ScreenSize.cells, Nat.mul_comm]
    exact Nat.mul_le_mul_left _ hlines
  have hstart : s.Underway (openingTokens.foldl (fun s t => t.effect policy s) s) 0 :=
    ⟨Token.changes_foldl hs policy _, rfl, Nat.le_of_eq (Nat.zero_mul _), rfl⟩
  have hdrawn := hstart.foldl hs policy
    ((fits_title s.size s.model).tame.append (tame_drawingTokens s.model)) (by omega)
  have hcrossed := hdrawn.foldl_down_up policy (by omega)
  have hclosed := hdrawn.foldl hs policy (tame_closingTokens s.model) (by omega)
  have hcorner := (hclosed.foldl_address policy (Nat.sub_one_lt_of_lt hcols) s.size.lines_pos).2
  have hmarked := hcorner.foldl hs policy fits_hash.tame (by omega)
  have hbottom := hmarked.foldl_address policy s.size.cols_pos (Nat.sub_one_lt_of_lt hlines)
  rw [Nat.sub_add_cancel s.size.cols_pos, Nat.sub_add_cancel s.size.lines_pos] at hbottom
  -- The crossing changes nothing, so it can stand where the pattern has it.
  rw [← hcrossed] at hbottom
  simp only [pageTokens, picture, List.foldl_append] at hbottom ⊢
  exact ⟨hbottom.1, _, hbottom.2⟩

end DasherTerminal.SelfTest
