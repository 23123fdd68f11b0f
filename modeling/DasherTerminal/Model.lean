import DasherTerminal.Fault

/-!
# Terminal models

The models share the base code table. A model decides which extended codes the
terminal honours and which code it gives when a host asks what it is.
-/

namespace DasherTerminal

inductive Model where
  | d200
  | d210
  | d211
  deriving DecidableEq, Repr

namespace Model

def default : Model := .d210

instance : Inhabited Model := ⟨default⟩

def hasCommandPrefix : Model → Bool
  | .d200 => false
  | .d210 => true
  | .d211 => true

def answersModelQuery : Model → Bool
  | .d200 => false
  | .d210 => false
  | .d211 => true

/-- The byte that names the model in an answer. -/
def code : Model → UInt8
  | .d200 => 0o100
  | .d210 => 0o110
  | .d211 => 0o111

/-- The model after this one, in a cycle through all of them. -/
def next : Model → Model
  | .d200 => .d210
  | .d210 => .d211
  | .d211 => .d200

def name : Model → String
  | .d200 => "D200"
  | .d210 => "D210"
  | .d211 => "D211"

/-- Read a model from its name or its number, in either case of letters. -/
def parse (text : String) : Except Fault Model :=
  match text.toUpper with
  | "D200" | "200" => .ok .d200
  | "D210" | "210" => .ok .d210
  | "D211" | "211" => .ok .d211
  | _ => .error (.unknownModel text)

theorem hasCommandPrefix_of_answersModelQuery {m : Model} (h : m.answersModelQuery = true) :
    m.hasCommandPrefix = true := by
  cases m <;> simp_all [answersModelQuery, hasCommandPrefix]

end Model

end DasherTerminal
