import DasherTerminal.Text.Cluster

/-!
# Display widths

The number of columns that a text takes on a terminal. Some signs are drawn
narrower together than apart: a joined picture counts once, a flag is two
letters, and a few scripts have ligatures. So a text is measured from its right
end, and what stands to the right of a character is its context. A control
character counts as one column.
-/

namespace DasherTerminal.Text

inductive Presentation where
  | picture
  | text
  deriving DecidableEq, Repr

inductive Ligature where
  | lamed
  | ya
  /-- The Buginese vowel i, and a ya joined to it. -/
  | vowelYa
  /-- A Tifinagh consonant. -/
  | tifinagh
  /-- A Tifinagh consonant with the sign that joins it to another before it. -/
  | tifinaghJoined
  /-- A second Lisu tone letter. -/
  | tone
  /-- The Old Turkic letter i of the Orkhon inscriptions. -/
  | orkhonI
  /-- A Khmer letter that can stand below another one. -/
  | khmer
  /-- The Kirat Rai vowel e. -/
  | kiratE
  /-- The Kirat Rai vowel ai, or two of the vowel e. -/
  | kiratAi
  deriving DecidableEq, Repr

/-- What the text to the right of a character means for its width. -/
inductive WidthContext where
  | none
  | lineFeed
  | skinTone
  | flagLetter
  /-- Two or more letters of flags. -/
  | flag
  | picture
  /-- A joiner and a picture. -/
  | joined
  /-- A keycap, a joiner and a picture. -/
  | joinedKeycap
  /-- The same, with a picture asked for. -/
  | joinedAsPicture
  /-- A letter of a flag, a joiner and a picture. -/
  | joinedFlagLetter
  /-- An even number of letters of flags, a joiner and a picture. -/
  | joinedFlagsEven
  /-- An odd number of them, but not one. -/
  | joinedFlagsOdd
  /-- That many letter tags, the last tag, a joiner and a picture. -/
  | joinedLetterTags (count : Nat)
  /-- That many digit tags, perhaps letter tags, the last tag, a joiner and a picture. -/
  | joinedDigitTags (count : Nat)
  | selected (presentation : Presentation)
  /-- An Arabic alef, after which a presentation may be asked for. -/
  | alef (selected : Option Presentation)
  /-- A sign with a ligature, with joiners or without. -/
  | ligature (sign : Ligature) (tied : Bool) (selected : Option Presentation)
  deriving DecidableEq, Repr

namespace WidthContext

def asks (p : Presentation) : WidthContext → Bool
  | .selected q => p == q
  | .alef q | .ligature _ _ q => q == some p
  | .joinedAsPicture => p == .picture
  | _ => false

/-- The context once the presentation that was asked for is known not to matter. -/
def settled : WidthContext → WidthContext
  | .alef _ => .alef .none
  | .ligature sign tied _ => .ligature sign tied .none
  | .selected _ | .joinedAsPicture => .none
  | right => right

def select (p : Presentation) : WidthContext → WidthContext
  | .alef _ => .alef (some p)
  | .ligature sign tied _ => .ligature sign tied (some p)
  | .joined | .joinedKeycap => if p = .picture then .joinedAsPicture else .selected p
  | _ => .selected p

end WidthContext

def isSkinTone (c : Char) : Bool := 0x1F3FB ≤ c.toNat && c.toNat ≤ 0x1F3FF

def isFlagLetter (c : Char) : Bool := 0x1F1E6 ≤ c.toNat && c.toNat ≤ 0x1F1FF

def isLetterTag (c : Char) : Bool := 0xE0061 ≤ c.toNat && c.toNat ≤ 0xE007A

def isDigitTag (c : Char) : Bool := 0xE0030 ≤ c.toNat && c.toNat ≤ 0xE0039

def isTifinagh (c : Char) : Bool := (0x2D31 ≤ c.toNat && c.toNat ≤ 0x2D65) || c.toNat == 0x2D6F

def charWidth (c : Char) : Nat :=
  let n := c.toNat
  if n < 0x300 then if n = 0xAD then 0 else 1
  else if zeros.has c then 0
  else if n = 0x17D8 then 3
  else if wides.has c then 2
  else 1

def ligature? (c : Char) : Option Ligature :=
  match c.toNat with
  | 0x5DC => some .lamed
  | 0x1A10 => some .ya
  | 0xA4FC | 0xA4FD => some .tone
  | 0x10C03 => some .orkhonI
  | 0x16D67 => some .kiratE
  | 0x16D68 => some .kiratAi
  | _ =>
    if isTifinagh c then some .tifinagh else if khmerSubjoined.has c then some .khmer else none

/-- The context that a character makes when it has none itself. -/
def contextOf (c : Char) : WidthContext :=
  if isSkinTone c then .skinTone
  else if isFlagLetter c then .flagLetter
  else if emojis.has c then .picture
  else if alefs.has c then .alef none
  else if c.toNat = 0xFE0F then .selected .picture
  else if c.toNat = 0xFE0E then .selected .text
  else (ligature? c).elim .none (.ligature · false none)

/-- What a character adds to the sign with a ligature to its right, if the two
are drawn as one. -/
def ligatureBefore? (c : Char) (sign : Ligature) (tied : Bool) : Option (Int × WidthContext) :=
  match sign, tied, c.toNat with
  | .lamed, true, 0x5D0 => some (0, .none)
  | .khmer, _, 0x17D2 => some (-1, .none)
  | .ya, true, 0x1A17 => some (0, .ligature .vowelYa true none)
  | .vowelYa, _, 0x1A15 => some (0, .none)
  | .tifinagh, _, 0x2D7F => some (1, .ligature .tifinaghJoined true none)
  | .tifinagh, true, _ => if isTifinagh c then some (0, .none) else none
  | .tifinaghJoined, _, _ => if isTifinagh c then some (-1, .none) else none
  | .tone, _, n => if 0xA4F8 ≤ n ∧ n ≤ 0xA4FB then some (0, .none) else none
  | .orkhonI, true, 0x10C32 => some (0, .none)
  | .kiratE, _, 0x16D63 | .kiratE, _, 0x16D69 => some (0, .none)
  | .kiratE, _, 0x16D67 => some (0, .ligature .kiratAi false none)
  | .kiratE, _, 0x16D68 => some (1, .ligature .kiratE false none)
  | .kiratAi, _, 0x16D63 => some (0, .none)
  | _, _, _ => none

/-- What a character adds to the joiner and the picture to its right, if all of
that is one picture. -/
def joinedBefore? (c : Char) (right : WidthContext) : Option (Int × WidthContext) :=
  let isLastBase := c.toNat = 0x1F3F4
  match right with
  | .joined =>
    if c.toNat = 0x20E3 then some (0, .joinedKeycap)
    else if isFlagLetter c then some (1, .joinedFlagLetter)
    else if isSkinTone c then some (0, .skinTone)
    else if c.toNat = 0xE007F then some (0, .joinedLetterTags 0)
    else if emojis.has c then some (0, .picture)
    else none
  | .joinedFlagLetter | .joinedFlagsOdd => if isFlagLetter c then some (-1, .joinedFlagsEven) else none
  | .joinedFlagsEven => if isFlagLetter c then some (3, .joinedFlagsOdd) else none
  | .joinedLetterTags n =>
    if isLetterTag c ∧ n < 6 then some (0, .joinedLetterTags (n + 1))
    else if isDigitTag c ∧ n < 5 then some (0, .joinedDigitTags 1)
    else if isLastBase ∧ 3 ≤ n then some (0, .picture)
    else none
  | .joinedDigitTags n =>
    if isDigitTag c ∧ n < 3 then some (0, .joinedDigitTags (n + 1))
    else if isLastBase ∧ n = 3 then some (0, .picture)
    else none
  | _ => none

/-- What a character adds to the width of what stands to its right, if it is
drawn together with that. -/
def combined? (c : Char) (right : WidthContext) : Option (Int × WidthContext) :=
  let isJoiner := c.toNat = 0x200D
  match right with
  | .alef _ =>
    if lams.has c then some (0, .none)
    else if zeros.has c ∧ ¬opaqueZeros.has c then some (0, .alef none)
    else none
  | .ligature sign tied _ =>
    if isJoiner then some (0, .ligature sign true none)
    else if ignorableMarks.has c then some (0, right)
    else ligatureBefore? c sign tied
  | .skinTone =>
    if modifierBases.has c then some (0, .picture)
    else if isJoiner then some (0, .joined)
    else none
  | .flagLetter => if isFlagLetter c then some (1, .flag) else none
  | .flag =>
    if isFlagLetter c then some (1, .flag) else if isJoiner then some (0, .joined) else none
  | .picture => if isJoiner then some (0, .joined) else none
  | .joinedFlagsEven | .joinedFlagsOdd =>
    if isJoiner then some (0, .joined) else joinedBefore? c right
  | _ => joinedBefore? c right

/-- The columns that a character adds to what stands to its right, and the
context it makes for the character to its left. -/
def widthBefore (c : Char) (right : WidthContext) : Int × WidthContext :=
  if right.asks .picture ∧ pictureSequences.has c then
    (if right = .joinedAsPicture then 0 else 2, .picture)
  else
    let right := if right.asks .picture then right.settled else right
    if c.toNat ≤ 0xA0 then
      if c = '\n' then (1, .lineFeed)
      else if c = '\r' ∧ right = .lineFeed then (0, .none)
      else (1, .none)
    else if c.toNat = 0xFE0F then (0, right.select .picture)
    else if c.toNat = 0xFE0E then (0, right.select .text)
    else if right.asks .text ∧ textSequences.has c then (1, .none)
    else
      let right := if right.asks .text then right.settled else right
      (combined? c right).getD (charWidth c, contextOf c)

def widthAndContext : List Char → Int × WidthContext
  | [] => (0, .none)
  | c :: cs =>
    let (width, right) := widthAndContext cs
    let (own, left) := widthBefore c right
    (own + width, left)

def width (cs : List Char) : Nat := (widthAndContext cs).1.toNat

def isHalfwidthVoicing (c : Char) : Bool := c.toNat == 0xFF9E || c.toNat == 0xFF9F

/-- The columns that a cluster is given on the screen: every halfwidth voicing
mark in it has one column more than its width. -/
def clusterWidth (cs : List Char) : Nat := width cs + cs.countP isHalfwidthVoicing

/-- Whether the character is a control character; those are not drawn. -/
def isControl (c : Char) : Bool := c.toNat < 32 || (127 ≤ c.toNat && c.toNat < 160)

def drawnClusters (cs : List Char) : List (List Char) :=
  (clusters cs).filter fun g => !g.any isControl

@[simp] theorem width_nil : width [] = 0 := rfl

end DasherTerminal.Text
