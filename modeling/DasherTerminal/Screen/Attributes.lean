import DasherTerminal.Fault

/-!
# Display attributes

The transient attributes that a written cell takes on, and the two readings of
the codes that end them.
-/

namespace DasherTerminal

structure Attributes where
  blink : Bool
  reverse : Bool
  dim : Bool
  underscore : Bool
  deriving DecidableEq, Repr

def Attributes.plain : Attributes := ⟨false, false, false, false⟩

instance : Inhabited Attributes := ⟨.plain⟩

inductive AttributeEnd where
  | underscore
  | dim
  deriving DecidableEq, Repr

/-- What the codes that end attributes clear. -/
inductive AttributeOffPolicy where
  /-- Either code clears every attribute. -/
  | resetAll
  /-- Each code clears the attribute it is named for. -/
  | specific
  deriving DecidableEq, Repr

namespace AttributeOffPolicy

instance : Inhabited AttributeOffPolicy := ⟨resetAll⟩

def name : AttributeOffPolicy → String
  | .resetAll => "reset-all"
  | .specific => "specific"

/-- Read a policy from its name, in either case of letters. -/
def parse (text : String) : Except Fault AttributeOffPolicy :=
  match text.toLower with
  | "reset-all" | "resetall" | "all" => .ok .resetAll
  | "specific" => .ok .specific
  | _ => .error (.unknownAttributeOff text)

def apply : AttributeOffPolicy → AttributeEnd → Attributes → Attributes
  | .resetAll, _, _ => .plain
  | .specific, .underscore, a => { a with underscore := false }
  | .specific, .dim, a => { a with dim := false }

@[simp] theorem apply_plain (policy : AttributeOffPolicy) (stop : AttributeEnd) :
    policy.apply stop .plain = .plain := by
  cases policy <;> cases stop <;> rfl

end AttributeOffPolicy

end DasherTerminal
