import DasherTerminal.Files.Basic
import DasherTerminal.Json.Printer
import DasherTerminal.Json.Reader
import DasherTerminal.Keyboard.Key

/-!
# Function-key templates

A template gives function keys their own bytes and legends. Its file is JSON:
an object with the members `name` and `bindings`, or an array of these values
in this order; a binding has `key`, `shift`, `ctrl`, `bytes` and `label`.
-/

namespace DasherTerminal

structure Binding where
  key : UInt8
  modifiers : KeyModifiers
  bytes : List UInt8
  label : Option String
  deriving DecidableEq, Repr

structure Template where
  name : String
  bindings : List Binding
  deriving DecidableEq, Repr

/-- The value of a member: missing, given once, or wrongly given. -/
inductive Member where
  | missing
  | given (v : Json.Value)
  | repeated

namespace Member

def find (name : String) : List (Option String × Json.Value) → Member
  | [] => .missing
  | (n, v) :: ms =>
    if n = some name then
      match find name ms with
      | .missing => .given v
      | _ => .repeated
    else find name ms

/-- The members of an object that may only have readable names. -/
def readable? (ms : List (Option String × Json.Value)) :
    Option (List (Option String × Json.Value)) :=
  if ms.all fun m => m.1.isSome then some ms else none

def required? {α : Type} (read : Json.Value → Option α) : Member → Option α
  | .given v => read v
  | _ => none

def optional? {α : Type} (read : Json.Value → Option α) (default : α) : Member → Option α
  | .missing => some default
  | .given v => read v
  | .repeated => none

end Member

/-- The members with the given names: those of an object, or the items of an
array in the order of the names. -/
def fields? (names : List String) : Json.Value → Option (List Member)
  | .object ms => (Member.readable? ms).map fun ms => names.map (Member.find · ms)
  | .array items =>
    if items.length ≤ names.length then
      some (items.map .given ++ List.replicate (names.length - items.length) .missing)
    else none
  | _ => none

def byte? (v : Json.Value) : Option UInt8 :=
  (v.natural?.filter (· ≤ 255)).map UInt8.ofNat

def label? : Json.Value → Option (Option String)
  | .null => some none
  | v => v.text?.map some

namespace Binding

def ofJson? (v : Json.Value) : Option Binding := do
  match ← fields? ["key", "shift", "ctrl", "bytes", "label"] v with
  | [key, shift, ctrl, bytes, label] =>
    let key ← key.required? byte?
    let shift ← shift.optional? Json.Value.bool? false
    let ctrl ← ctrl.optional? Json.Value.bool? false
    let bytes ← bytes.required? fun v => v.items?.bind (·.mapM byte?)
    let label ← label.optional? label? none
    some ⟨key, ⟨shift, ctrl⟩, bytes, label⟩
  | _ => none

def write (b : Binding) : List Char :=
  Json.writeObject ([("key", Json.writeNatural b.key.toNat),
    ("shift", Json.writeBool b.modifiers.shift), ("ctrl", Json.writeBool b.modifiers.ctrl),
    ("bytes", Json.writeArray (b.bytes.map fun x => Json.writeNatural x.toNat))] ++
    match b.label with
    | some text => [("label", Json.writeString text)]
    | none => [])

def inRange (b : Binding) : Bool := 1 ≤ b.key.toNat && b.key.toNat ≤ lastFunctionKey

end Binding

namespace Template

def empty : Template := ⟨"", []⟩

instance : Inhabited Template := ⟨empty⟩

/-- Read a template's shape, whatever its key numbers. -/
def ofJson? (v : Json.Value) : Option Template := do
  match ← fields? ["name", "bindings"] v with
  | [name, bindings] =>
    let name ← name.optional? Json.Value.text? ""
    let bindings ← bindings.optional? (fun v => v.items?.bind (·.mapM Binding.ofJson?)) []
    some ⟨name, bindings⟩
  | _ => none

def checkRange (t : Template) : Except Fault Template :=
  match t.bindings.find? fun b => !b.inRange with
  | some b => .error (.template (.keyOutOfRange b.key.toNat))
  | none => .ok t

/-- Read a template from its text. The shape comes before the key numbers. -/
def parse (text : String) : Except Fault Template :=
  match (Json.read? text).bind ofJson? with
  | some t => t.checkRange
  | none => .error (.template .malformed)

def write (t : Template) : String :=
  String.ofList (Json.writeObject [("name", Json.writeString t.name),
    ("bindings", Json.writeArray (t.bindings.map Binding.write))])

/-- A template without a name of its own is called by the stem of its file. -/
def named (t : Template) (stem : Option String) : Template :=
  if t.name.isEmpty then { t with name := stem.getD "" } else t

def load (files : Files) (path : String) : Except Fault Template :=
  match files.readText path with
  | .error cause => .error (.file path cause)
  | .ok text => (parse text).map (·.named (Path.stem? path))

end Template

end DasherTerminal
