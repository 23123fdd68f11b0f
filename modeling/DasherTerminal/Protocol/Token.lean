import DasherTerminal.Protocol.Decoder

/-!
# Tokens of the host protocol

A host's stream is cut into tokens from the left: 020 takes the two bytes that
follow it, 036 takes one byte on the models that know commands, and every other
byte is a token of its own. Nothing of the stream is lost.
-/

namespace DasherTerminal

inductive Token where
  | code (byte : UInt8)
  | address (col row : UInt8)
  | command (byte : UInt8)
  deriving DecidableEq, Repr

namespace Token

def bytes : Token → List UInt8
  | code byte => [byte]
  | address col row => [0o20, col, row]
  | command byte => [0o36, byte]

/-- Cut a stream into tokens. What is left belongs to a token that is not
finished yet. -/
def cut (hasCommands : Bool) : List UInt8 → List Token × List UInt8
  | [] => ([], [])
  | [b] => if b = 0o20 ∨ (b = 0o36 ∧ hasCommands) then ([], [b]) else ([code b], [])
  | b :: c :: rest =>
    if b = 0o20 then
      match rest with
      | [] => ([], [b, c])
      | d :: rest => (address c d :: (cut hasCommands rest).1, (cut hasCommands rest).2)
    else if b = 0o36 ∧ hasCommands then
      (command c :: (cut hasCommands rest).1, (cut hasCommands rest).2)
    else (code b :: (cut hasCommands (c :: rest)).1, (cut hasCommands (c :: rest)).2)

theorem flatten_cut (hasCommands : Bool) (stream : List UInt8) :
    (cut hasCommands stream).1.flatMap bytes ++ (cut hasCommands stream).2 = stream := by
  fun_induction cut hasCommands stream <;> simp_all [bytes]

/-- What a token does to the screen. An address off the screen does nothing. -/
def effect (policy : AttributeOffPolicy) (t : Token) (s : Screen) : Screen :=
  match t with
  | code byte => Decoder.effect policy byte s
  | address col row =>
    if 1 ≤ col.toNat ∧ col.toNat ≤ s.size.cols ∧ 1 ≤ row.toNat ∧ row.toNat ≤ s.size.lines then
      { s with cursor := ⟨row.toNat - 1, col.toNat - 1⟩ }
    else s
  | command byte =>
    if byte = 'D'.toUInt8 then { s with attributes := { s.attributes with reverse := true } }
    else if byte = 'E'.toUInt8 then { s with attributes := { s.attributes with reverse := false } }
    else s

def notifications : Token → List Notification
  | code byte => if byte = 0o07 then [.bell] else []
  | _ => []

def responses (model : Model) : Token → List (List UInt8)
  | command byte =>
    if byte = 'C'.toUInt8 ∧ model.answersModelQuery then [Decoder.modelAnswer model] else []
  | _ => []

end Token

end DasherTerminal
