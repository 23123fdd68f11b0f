/-!
# JSON values

What a JSON text says, as far as a reader of data can ask. Of numbers only
those written as plain digits have a value here, and a string that holds an
unpaired surrogate has no text.
-/

namespace DasherTerminal.Json

inductive Value where
  | null
  | bool (b : Bool)
  /-- A number, with its value if it is written as plain digits. -/
  | number (natural : Option Nat)
  /-- A string, with its text if it has one. -/
  | string (text : Option String)
  | array (items : List Value)
  /-- Members in the order they are written, repeated names included. -/
  | object (members : List (Option String × Value))

namespace Value

def natural? : Value → Option Nat
  | number n => n
  | _ => none

def text? : Value → Option String
  | string t => t
  | _ => none

def bool? : Value → Option Bool
  | bool b => some b
  | _ => none

def items? : Value → Option (List Value)
  | array items => some items
  | _ => none

end Value

end DasherTerminal.Json
