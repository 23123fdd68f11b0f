import DasherTerminal.Text.Property

/-!
# Clusters

A text is drawn cluster by cluster. A cluster is what a reader takes for one
character: a base with its marks, a syllable of jamo, a flag, a picture joined
from several.
-/

namespace DasherTerminal.Text

inductive ClusterRole where
  | other
  | carriageReturn
  | lineFeed
  | control
  | extender
  | joiner
  | regional
  | prepended
  | spacingMark
  | leadingJamo
  /-- A vowel jamo, or a vowel of another script that is put together like one. -/
  | vowelJamo
  | trailingJamo
  | openSyllable
  | closedSyllable
  | pictograph
  deriving DecidableEq, Repr

def clusterRole (c : Char) : ClusterRole :=
  let n := c.toNat
  if n = 13 then .carriageReturn
  else if n = 10 then .lineFeed
  else if n < 32 then .control
  else if n < 127 then .other
  else if n = 0x200D then .joiner
  else if 0x1F1E6 ≤ n ∧ n ≤ 0x1F1FF then .regional
  else if (0x1100 ≤ n ∧ n ≤ 0x115F) ∨ (0xA960 ≤ n ∧ n ≤ 0xA97C) then .leadingJamo
  else if (0x1160 ≤ n ∧ n ≤ 0x11A7) ∨ (0xD7B0 ≤ n ∧ n ≤ 0xD7C6) then .vowelJamo
  else if n = 0x16D63 ∨ (0x16D67 ≤ n ∧ n ≤ 0x16D6A) then .vowelJamo
  else if (0x11A8 ≤ n ∧ n ≤ 0x11FF) ∨ (0xD7CB ≤ n ∧ n ≤ 0xD7FB) then .trailingJamo
  else if 0xAC00 ≤ n ∧ n ≤ 0xD7A3 then
    if (n - 0xAC00) % 28 = 0 then .openSyllable else .closedSyllable
  else if controls.has c then .control
  else if extenders.has c then .extender
  else if spacingMarks.has c then .spacingMark
  else if prepends.has c then .prepended
  else if pictographs.has c then .pictograph
  else .other

structure ClusterState where
  last : ClusterRole
  /-- An odd number of regional indicators came last. -/
  halfFlag : Bool
  /-- A pictograph with nothing but extenders after it came last. -/
  picture : Bool
  /-- A pictograph, extenders and one joiner came last. -/
  joinedPicture : Bool
  /-- A linked consonant with nothing but marks after it came last. -/
  consonant : Bool
  /-- Among those marks was a linker. -/
  linked : Bool
  deriving DecidableEq, Repr

def ClusterState.start : ClusterState := ⟨.control, false, false, false, false, false⟩

def ClusterState.joins (s : ClusterState) (c : Char) : Bool :=
  match s.last, clusterRole c with
  | .carriageReturn, .lineFeed => true
  | .carriageReturn, _ | .lineFeed, _ | .control, _ => false
  | _, .carriageReturn | _, .lineFeed | _, .control => false
  | .leadingJamo, .leadingJamo | .leadingJamo, .vowelJamo => true
  | .leadingJamo, .openSyllable | .leadingJamo, .closedSyllable => true
  | .openSyllable, .vowelJamo | .openSyllable, .trailingJamo => true
  | .vowelJamo, .vowelJamo | .vowelJamo, .trailingJamo => true
  | .closedSyllable, .trailingJamo | .trailingJamo, .trailingJamo => true
  | _, .extender | _, .joiner | _, .spacingMark => true
  | .prepended, _ => true
  | _, .pictograph => s.joinedPicture
  | _, .regional => s.halfFlag
  | _, _ => s.linked && linkedConsonants.has c

def ClusterState.next (s : ClusterState) (c : Char) : ClusterState :=
  let role := clusterRole c
  let mark := (role == .extender && c.toNat != 0x200C) || role == .joiner
  { last := role
    halfFlag := role == .regional && !s.halfFlag
    picture := role == .pictograph || (role == .extender && s.picture)
    joinedPicture := role == .joiner && s.picture
    consonant := (role == .other && linkedConsonants.has c) || (mark && s.consonant)
    linked := mark && s.consonant && (s.linked || linkers.has c) }

/-- The clusters of a text whose current cluster, reversed, is `current`. -/
def clustersFrom (s : ClusterState) (current : List Char) : List Char → List (List Char)
  | [] => [current.reverse]
  | c :: cs =>
    if s.joins c then clustersFrom (s.next c) (c :: current) cs
    else current.reverse :: clustersFrom (s.next c) [c] cs

def clusters : List Char → List (List Char)
  | [] => []
  | c :: cs => clustersFrom (ClusterState.start.next c) [c] cs

theorem flatten_clustersFrom (s : ClusterState) (current cs : List Char) :
    (clustersFrom s current cs).flatten = current.reverse ++ cs := by
  induction cs generalizing s current with
  | nil => simp [clustersFrom]
  | cons c cs ih =>
    simp only [clustersFrom]
    split <;> simp [ih]

/-- Clusters are cut out of the text without loss. -/
@[simp] theorem flatten_clusters (cs : List Char) : (clusters cs).flatten = cs := by
  cases cs with
  | nil => rfl
  | cons c cs => simp [clusters, flatten_clustersFrom]

end DasherTerminal.Text
