/-!
# Bytes of a text

A text is stored in UTF-8, where a character takes one to four bytes, and is
edited at bytes. Edits are made only where a character begins or the text ends;
anywhere else they have no result.
-/

namespace DasherTerminal.Text

/-- The byte that the character with the given number begins at. Beyond the
last character this is the number of bytes. -/
def byteIndex : List Char → Nat → Nat
  | [], _ => 0
  | _ :: _, 0 => 0
  | c :: cs, n + 1 => c.utf8Size + byteIndex cs n

/-- The text in front of a byte, and from that byte on. -/
def splitAtByte? : List Char → Nat → Option (List Char × List Char)
  | cs, 0 => some ([], cs)
  | [], _ + 1 => none
  | c :: cs, i + 1 =>
    if c.utf8Size ≤ i + 1 then
      (splitAtByte? cs (i + 1 - c.utf8Size)).map fun (left, right) => (c :: left, right)
    else none

/-- Put a character in front of the one that begins at a byte. -/
def insertAtByte? (cs : List Char) (i : Nat) (c : Char) : Option (List Char) :=
  (splitAtByte? cs i).map fun (left, right) => left ++ c :: right

/-- Take out the character that begins at a byte. There has to be one. -/
def removeAtByte? (cs : List Char) (i : Nat) : Option (List Char) :=
  match splitAtByte? cs i with
  | some (left, _ :: right) => some (left ++ right)
  | _ => none

end DasherTerminal.Text
