import DasherTerminal.Telnet.Filter

/-!
# What a telnet host sends

A host's stream is a sequence of items: data, plain commands, requests about
options and subnegotiations. Each has its form on the wire, and the filter
gives back the data and answers the requests.
-/

namespace DasherTerminal.Telnet

/-- Whether a command stands for itself, without an option or a payload. -/
def isPlainCommand (code : UInt8) : Bool :=
  code != iac && code != sb && (Verb.ofByte? code).isNone

inductive Item where
  | data (bytes : List UInt8)
  | command (code : UInt8) (plain : isPlainCommand code = true)
  | request (verb : Verb) (option : UInt8)
  | subnegotiation (payload : List UInt8)

namespace Item

def wire : Item → List UInt8
  | data bytes => escape bytes
  | command code _ => [iac, code]
  | request verb option => [iac, verb.byte, option]
  | subnegotiation payload => [iac, sb] ++ escape payload ++ [iac, se]

def content : Item → List UInt8
  | data bytes => bytes
  | _ => []

/-- The answer to an item. Echo and suppress-go-ahead are accepted from the
host, only the latter is offered to it, and what is switched off needs no
answer. -/
def replies : Item → List UInt8
  | request .will option =>
    [iac, (if option = 1 ∨ option = 3 then Verb.doIt else .dont).byte, option]
  | request .doIt option => [iac, (if option = 3 then Verb.will else .wont).byte, option]
  | _ => []

end Item

theorem run_escape (bytes : List UInt8) : Phase.data.run (escape bytes) = ⟨.data, bytes, []⟩ := by
  induction bytes with
  | nil => rfl
  | cons b bytes ih =>
    have h : escape (b :: bytes) = (if b = iac then [iac, iac] else [b]) ++ escape bytes := rfl
    by_cases hb : b = iac
    · subst hb
      rw [h, if_pos rfl, Phase.run_append]
      simp [Phase.run, Phase.step, ih]
    · rw [h, if_neg hb, Phase.run_append]
      simp [Phase.run, Phase.step, hb, ih]

theorem run_escape_subnegotiation (bytes : List UInt8) :
    Phase.subnegotiation.run (escape bytes) = ⟨.subnegotiation, [], []⟩ := by
  induction bytes with
  | nil => rfl
  | cons b bytes ih =>
    have h : escape (b :: bytes) = (if b = iac then [iac, iac] else [b]) ++ escape bytes := rfl
    by_cases hb : b = iac
    · subst hb
      rw [h, if_pos rfl, Phase.run_append]
      simp [Phase.run, Phase.step, iac, se, ih]
    · rw [h, if_neg hb, Phase.run_append]
      simp [Phase.run, Phase.step, hb, ih]

end DasherTerminal.Telnet
