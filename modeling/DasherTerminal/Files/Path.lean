import DasherTerminal.Fault

/-!
# Paths

A path is a text of names between slashes. Empty names and single dots stand
for the place itself.
-/

namespace DasherTerminal.Path

def names (path : String) : List String := path.splitOn "/"

def isAbsolute (path : String) : Bool := path.startsWith "/"

def namesDirectory (path : String) : Bool := path.endsWith "/"

def fault? (path : String) : Option SystemFault :=
  if path.contains '\x00' then some .nulInName
  else if path.isEmpty then some .notFound
  else if 4096 ≤ path.utf8ByteSize then some .nameTooLong
  else none

/-- The last name of a path, unless it leads nowhere or upwards. -/
def fileName? (path : String) : Option String :=
  ((names path).filter fun n => n != "" && n != ".").getLast?.filter (· != "..")

/-- A name without its extension. The extension starts at the last dot, but
not at a dot in the first place. -/
def stemOf (name : String) : String :=
  let dotted := name.splitOn "."
  let stem := String.intercalate "." dotted.dropLast
  if stem.isEmpty then name else stem

def stem? (path : String) : Option String := (fileName? path).map stemOf

end DasherTerminal.Path
