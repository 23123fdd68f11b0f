import DasherTerminal.Json.Value

/-!
# Writing JSON

The compact written form: no blanks, and in strings only quotes, backslashes
and control characters are escaped.
-/

namespace DasherTerminal.Json

def hexChar (n : Nat) : Char := if n < 10 then Char.ofNat (48 + n) else Char.ofNat (87 + n)

def writeChar (c : Char) : List Char :=
  match c with
  | '"' => ['\\', '"']
  | '\\' => ['\\', '\\']
  | '\x08' => ['\\', 'b']
  | '\x0c' => ['\\', 'f']
  | '\n' => ['\\', 'n']
  | '\r' => ['\\', 'r']
  | '\t' => ['\\', 't']
  | c =>
    if c.toNat < 0x20 then ['\\', 'u', '0', '0', hexChar (c.toNat / 16), hexChar (c.toNat % 16)]
    else [c]

def writeString (text : String) : List Char := '"' :: text.toList.flatMap writeChar ++ ['"']

def writeNatural (n : Nat) : List Char := (toString n).toList

def writeBool (b : Bool) : List Char := if b then "true".toList else "false".toList

def writeArray (items : List (List Char)) : List Char :=
  '[' :: List.intercalate [','] items ++ [']']

def writeObject (members : List (String × List Char)) : List Char :=
  '\x7b' :: List.intercalate [','] (members.map fun (name, v) => writeString name ++ ':' :: v) ++
    ['\x7d']

end DasherTerminal.Json
