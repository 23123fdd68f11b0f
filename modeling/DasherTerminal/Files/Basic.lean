import DasherTerminal.Fault
import DasherTerminal.Files.Path

/-!
# Files

The files a session works with, seen from its working directory. Of what is
outside only the usual directories below the root and two devices are known
beforehand.
-/

namespace DasherTerminal

/-- A place, by the names that lead to it. -/
inductive Location where
  /-- Below the working directory. -/
  | here (names : List String)
  /-- Below the root. -/
  | root (names : List String)
  deriving DecidableEq, Repr

namespace Location

def child : Location → String → Location
  | here names, name => here (names ++ [name])
  | root names, name => root (names ++ [name])

/-- One step up. Nothing is known of what is above the working directory. -/
def parent : Location → Location
  | here [] => root ["home"]
  | here names => here names.dropLast
  | root names => root names.dropLast

/-- The place that a path names, if nothing on the way leads elsewhere. -/
def ofPath (path : String) : Location :=
  let names := (Path.names path).filter fun n => n != "" && n != "."
  if Path.isAbsolute path then root names else here names

def start (path : String) : Location := if Path.isAbsolute path then root [] else here []

/-- Whether a place is another one or above it. -/
def isAbove : Location → Location → Bool
  | here a, here b => a.isPrefixOf b
  | root a, root b => a.isPrefixOf b
  | _, _ => false

end Location

inductive Entry where
  | file (bytes : List UInt8)
  | directory
  /-- A device that is empty and takes everything. -/
  | sink
  /-- A device that takes nothing. -/
  | full
  deriving DecidableEq, Repr

/-- The files that are known. A directory is known by what is below it, or is
listed itself. -/
structure Files where
  entries : List (Location × Entry)
  deriving DecidableEq, Repr

namespace Files

def empty : Files := ⟨[]⟩

instance : Inhabited Files := ⟨empty⟩

/-- Files by their paths. Of two with the same path the first counts. -/
def ofList (files : List (String × List UInt8)) : Files :=
  ⟨files.map fun (path, bytes) => (.ofPath path, .file bytes)⟩

/-- What is there without any file: the working directory, the usual directories
below the root, and the devices. -/
def fixed? : Location → Option Entry
  | .here [] => some .directory
  | .here _ => none
  | .root ["dev", "null"] => some .sink
  | .root ["dev", "full"] => some .full
  | .root names =>
    if names ∈ [[], ["bin"], ["dev"], ["etc"], ["home"], ["tmp"], ["usr"], ["usr", "bin"]] then
      some .directory
    else none

def entry? (f : Files) (location : Location) : Option Entry :=
  match f.entries.lookup location with
  | some e => some e
  | none => if f.entries.any fun e => location.isAbove e.1 then some .directory else fixed? location

def put (f : Files) (location : Location) (e : Entry) : Files :=
  ⟨(location, e) :: f.entries.filter (·.1 != location)⟩

def names (f : Files) : List String :=
  (f.entries.filterMap fun e =>
    match e.1 with
    | .here (name :: _) => some name
    | _ => none).eraseDups.mergeSort

/-- Follow names from a place. Every place that is left must be a directory, and
only then its names must not be too long. -/
def follow (f : Files) (location : Location) : List String → Except SystemFault Location
  | [] => .ok location
  | name :: names =>
    match f.entry? location with
    | none => .error .notFound
    | some .directory =>
      if 255 < name.utf8ByteSize then .error .nameTooLong
      else if name = "" ∨ name = "." then f.follow location names
      else if name = ".." then f.follow location.parent names
      else f.follow (location.child name) names
    | some _ => .error .notDirectory

def locate (f : Files) (path : String) : Except SystemFault Location :=
  match Path.fault? path with
  | some fault => .error fault
  | none => f.follow (.start path) (Path.names path)

def read (f : Files) (path : String) : Except SystemFault (List UInt8) := do
  let location ← f.locate path
  match f.entry? location with
  | some (.file bytes) => .ok bytes
  | some .sink => .ok []
  | some .full => .ok []
  | some .directory => .error .isDirectory
  | none => .error .notFound

def content? (f : Files) (path : String) : Option (List UInt8) :=
  match (f.locate path).toOption.bind f.entry? with
  | some (.file bytes) => some bytes
  | _ => none

def readText (f : Files) (path : String) : Except SystemFault String := do
  let bytes ← f.read path
  match String.fromUTF8? ⟨bytes.toArray⟩ with
  | some text => .ok text
  | none => .error .notUtf8

/-- Open a file for writing, and make it if it is missing. What it held stays
only if `keep`. What leads to the file must be there; then a path that ends in a
slash or in dots never names a file. -/
def openForWriting (f : Files) (path : String) (keep : Bool) :
    Except SystemFault (Location × Files) := do
  if let some fault := Path.fault? path then .error fault
  match ((Path.names path).filter (· ≠ "")).reverse with
  | [] => .error .isDirectory
  | name :: above =>
    let directory ← f.follow (.start path) (above.reverse ++ ["."])
    if Path.namesDirectory path || name = "." || name = ".." then .error .isDirectory
    else
      let location ← f.follow directory [name]
      match f.entry? location with
      | some .directory => .error .isDirectory
      | some (.file bytes) => .ok (location, f.put location (.file (if keep then bytes else [])))
      | some _ => .ok (location, f)
      | none => .ok (location, f.put location (.file []))

/-- Write at the end of an open file. Gives nothing if the device is full. -/
def append (f : Files) (location : Location) (bytes : List UInt8) : Option Files :=
  match f.entry? location with
  | some (.file old) => some (f.put location (.file (old ++ bytes)))
  | some .full => if bytes.isEmpty then some f else none
  | _ => some f

end Files

end DasherTerminal
