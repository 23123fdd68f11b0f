import DasherTerminal.Input.KeyEvent
import DasherTerminal.Proofs.Keyboard.Bindings
import DasherTerminal.Proofs.Protocol.Grammar
import DasherTerminal.Protocol.Terminal

/-!
# Keys on a line that echoes

Every key of the user's keyboard that stands for a DASHER key has a code. On a
model that knows commands the built-in code of an editing key, sent back to the
terminal, does what is written on the key, and that of a function key does
nothing: none of them is a command that the terminal obeys.
-/

namespace DasherTerminal

/-- What the built-in code of a key does to a screen that it is sent back to.
Control codes and the rubout are not editing keys. -/
def Key.echo? : Key → Option (Screen → Screen)
  | .char code => if 0x20 ≤ code ∧ code < 0x7F then some (·.put code) else none
  | .newLine => some Screen.newLine
  | .carriageReturn => some Screen.carriageReturn
  | .erasePage => some Screen.erasePage
  | .eraseToRight => some Screen.eraseToRight
  | .home => some Screen.home
  | .up => some Screen.up
  | .down => some Screen.down
  | .left => some Screen.left
  | .right => some Screen.right
  | .escape => some id
  | .function number _ => if 1 ≤ number ∧ number ≤ lastFunctionKey then some id else none
  | .control _ | .rubout => none

/-- A token that does nothing but change the screen in a given way. -/
structure Token.Does (token : Token) (model : Model) (f : Screen → Screen) : Prop where
  isToken : token.IsToken model
  notifications : token.notifications = []
  responses : token.responses model = []
  effect : ∀ policy s, token.effect policy s = f s

namespace Token

variable {token : Token} {model : Model} {f : Screen → Screen}

theorem Does.process {t : Terminal} (h : token.Does t.screen.model f)
    (hidle : t.decoder.wait = .idle) :
    t.process token.bytes = { t with screen := f t.screen } := by
  have hreport : t.decoder.report t.screen.model token = t.decoder := by
    rw [Decoder.report, h.notifications, h.responses, List.append_nil, List.append_nil]
  rw [Terminal.process, Decoder.run_bytes hidle h.isToken, hreport, h.effect]

theorem does_code {byte : UInt8} (hcode : Decoder.opcode? model byte = none) (hbell : byte ≠ 0o07)
    (heffect : ∀ policy s, Decoder.effect policy byte s = f s) : (code byte).Does model f :=
  ⟨hcode, if_neg hbell, rfl, heffect⟩

theorem does_put {byte : UInt8} (h : Decoder.isPrintable byte = true) :
    (code byte).Does model (·.put byte) := by
  refine does_code (Decoder.opcode?_of_isPrintable model h) ?_ fun policy s =>
    Decoder.effect_of_isPrintable policy h s
  rintro rfl
  exact absurd h (by decide)

/-- The commands that a terminal obeys are `C`, `D` and `E`. -/
theorem does_nothing {byte : UInt8} (hcommands : model.hasCommandPrefix = true)
    (h : byte.toNat < 0x43 ∨ 0x45 < byte.toNat) : (command byte).Does model id := by
  have hne : byte ≠ 'C'.toUInt8 ∧ byte ≠ 'D'.toUInt8 ∧ byte ≠ 'E'.toUInt8 := by
    refine ⟨?_, ?_, ?_⟩ <;> rintro rfl <;> exact absurd h (by decide)
  obtain ⟨hquery, hon, hoff⟩ := hne
  refine ⟨hcommands, rfl, if_neg (fun hquery' => hquery hquery'.1), ?_⟩
  intro policy s
  rw [effect, if_neg hon, if_neg hoff]
  rfl

end Token

namespace Encoder

variable {number : Nat} {modifiers : KeyModifiers}

theorem plain_encode_function (h : 1 ≤ number ∧ number ≤ lastFunctionKey) :
    plain.encode (.function number modifiers) = some (functionCode number modifiers) := by
  rw [encode_function plain h]
  rfl

/-- The second byte of a function key's code is not a command. With both
modifiers, with control or with shift alone the codes end below or begin above. -/
theorem exists_functionCode (modifiers : KeyModifiers)
    (h : 1 ≤ number ∧ number ≤ lastFunctionKey) :
    ∃ byte : UInt8, functionCode number modifiers = (Token.command byte).bytes ∧
      (byte.toNat < 0x43 ∨ 0x45 < byte.toNat) := by
  obtain ⟨byte, hcode, hbyte⟩ := functionCode_eq modifiers h.2
  refine ⟨byte, hcode, ?_⟩
  obtain ⟨shift, ctrl⟩ := modifiers
  split at hbyte <;> simp only [descent, lastFunctionKey] at hbyte h <;>
    cases shift <;> cases ctrl <;> simp only [Bool.false_eq_true, if_true, if_false] at hbyte <;>
    omega

/-- The code of a key is one token, which does what is written on the key. -/
theorem exists_token_of_echo? {key : Key} {f : Screen → Screen} (h : key.echo? = some f) :
    ∃ token : Token, plain.encode key = some token.bytes ∧
      ∀ model : Model, model.hasCommandPrefix = true → token.Does model f := by
  cases key with
  | char code =>
    obtain ⟨hcode, hf⟩ := Option.ite_none_right_eq_some.mp h
    cases hf
    have hprintable : Decoder.isPrintable code = true := by
      simp only [Decoder.isPrintable, Bool.and_eq_true, decide_eq_true_eq]
      exact ⟨hcode.1, UInt8.le_of_lt hcode.2⟩
    exact ⟨.code code, by simp [encode, hcode, Token.bytes], fun _ _ => Token.does_put hprintable⟩
  | function number modifiers =>
    obtain ⟨hnumber, hf⟩ := Option.ite_none_right_eq_some.mp h
    cases hf
    obtain ⟨byte, hcode, hbyte⟩ := exists_functionCode modifiers hnumber
    refine ⟨.command byte, ?_, fun _ hcommands => Token.does_nothing hcommands hbyte⟩
    rw [plain_encode_function hnumber, hcode]
  | control letter => cases h
  | rubout => cases h
  | _ =>
    cases h
    refine ⟨.code _, rfl, fun model _ => Token.does_code ?_ ?_ fun _ _ => rfl⟩
    · cases model <;> rfl
    · decide

/-! ### Keys of the user's keyboard -/

/-- A DASHER key that has a code on every keyboard. -/
def HasCode (key : Key) : Prop :=
  key.echo?.isSome ∨ (∃ letter, key = .control letter ∧ isLetter letter = true) ∨ key = .rubout

theorem HasCode.exists_encode {key : Key} (h : HasCode key) (e : Encoder) :
    ∃ bytes, e.encode key = some bytes := by
  rcases h with hecho | ⟨letter, rfl, hletter⟩ | rfl
  · obtain ⟨f, hf⟩ := Option.isSome_iff_exists.mp hecho
    cases key with
    | char code =>
      obtain ⟨hcode, -⟩ := Option.ite_none_right_eq_some.mp hf
      exact ⟨[code], by simp [encode, hcode]⟩
    | function number modifiers =>
      obtain ⟨hnumber, -⟩ := Option.ite_none_right_eq_some.mp hf
      exact ⟨_, encode_function e hnumber⟩
    | control letter => cases hf
    | rubout => cases hf
    | _ => exact ⟨_, rfl⟩
  · exact ⟨_, if_pos hletter⟩
  · exact ⟨_, rfl⟩

end Encoder

namespace Input.KeyEvent

open Encoder

/-- The byte of a character up to the tilde has the character's number. -/
theorem toNat_toUInt8 {c : Char} (h : c.toNat ≤ 0x7E) : c.toUInt8.toNat = c.toNat := by
  have hmod : c.toUInt8.toNat = c.toNat % 256 := rfl
  rw [hmod, Nat.mod_eq_of_lt (by omega)]

theorem toNat_of_isAsciiLetter {c : Char} (h : isAsciiLetter c = true) :
    (0x61 ≤ c.toNat ∧ c.toNat ≤ 0x7A) ∨ (0x41 ≤ c.toNat ∧ c.toNat ≤ 0x5A) := by
  have hrange : ('a' ≤ c ∧ c ≤ 'z') ∨ ('A' ≤ c ∧ c ≤ 'Z') := by
    simpa only [isAsciiLetter, Bool.or_eq_true, Bool.and_eq_true, decide_eq_true_eq] using h
  exact hrange

theorem isLetter_toUInt8 {c : Char} (h : isAsciiLetter c = true) : isLetter c.toUInt8 = true := by
  have hc := toNat_of_isAsciiLetter h
  have hbyte := toNat_toUInt8 (c := c) (by omega)
  simp only [isLetter, Bool.or_eq_true, Bool.and_eq_true, decide_eq_true_eq, UInt8.le_iff_toNat_le,
    hbyte]
  exact hc.symm

theorem hasCode_of_charKey? {ctrl : Bool} {c : Char} {key : Key} (h : charKey? ctrl c = some key) :
    HasCode key := by
  unfold charKey? at h
  split at h
  · next hletter =>
    cases h
    exact .inr (.inl ⟨_, rfl, isLetter_toUInt8 (Bool.and_eq_true_iff.mp hletter).2⟩)
  · obtain ⟨hrange, hkey⟩ := Option.ite_none_right_eq_some.mp h
    cases hkey
    rw [Bool.and_eq_true, decide_eq_true_eq, decide_eq_true_eq] at hrange
    have hc : 0x20 ≤ c.toNat ∧ c.toNat ≤ 0x7E := hrange
    have hbyte := toNat_toUInt8 hc.2
    have hcode : 0x20 ≤ c.toUInt8 ∧ c.toUInt8 < 0x7F := by
      rw [UInt8.le_iff_toNat_le, UInt8.lt_iff_toNat_lt, hbyte]
      exact ⟨hc.1, Nat.lt_succ_of_le hc.2⟩
    left
    rw [Key.echo?, if_pos hcode]
    rfl

theorem hasCode_function {number : Nat} (h : 1 ≤ number ∧ number ≤ lastFunctionKey)
    (modifiers : KeyModifiers) : HasCode (.function number modifiers) := by
  left
  rw [Key.echo?, if_pos h]
  rfl

theorem hasCode_of_functionKey? {k : KeyEvent} {n : Nat} {key : Key}
    (h : k.functionKey? n = some key) : HasCode key := by
  simp only [functionKey?, Bool.and_eq_true, decide_eq_true_eq] at h
  split at h
  · cases h
    exact hasCode_function (by rw [lastFunctionKey]; omega) _
  · obtain ⟨hn, hkey⟩ := Option.ite_none_right_eq_some.mp h
    cases hkey
    exact hasCode_function (by rw [lastFunctionKey]; omega) _

theorem hasCode_of_key? {k : KeyEvent} {key : Key} (h : k.key? = some key) : HasCode key := by
  obtain ⟨code, shift, ctrl, alt⟩ := k
  cases code with
  | char c => exact hasCode_of_charKey? h
  | function n => exact hasCode_of_functionKey? h
  | backspace =>
    cases h
    exact .inr (.inr rfl)
  | tab =>
    cases h
    exact .inr (.inl ⟨_, rfl, by decide⟩)
  | pageUp => cases h
  | other => cases h
  | _ =>
    cases h
    exact .inl rfl

/-- Every key of the user's keyboard that stands for a DASHER key has a code on
every keyboard. On a model that knows commands the built-in code of an editing key,
sent back, does what is written on the key; those of escape and of the function keys
change nothing. -/
theorem key?_encodes_and_echoes :
    (∀ (k : KeyEvent) (key : Key), k.key? = some key →
      (∀ e : Encoder, ∃ bytes, e.encode key = some bytes) ∧
      (key.echo?.isSome ∨ (∃ letter, key = .control letter) ∨ key = .rubout)) ∧
    ∀ (key : Key) (f : Screen → Screen), key.echo? = some f →
      ∃ bytes, plain.encode key = some bytes ∧
        ∀ t : Terminal, t.decoder.wait = .idle →
          (t.screen.model = .d210 ∨ t.screen.model = .d211) →
          t.process bytes = { t with screen := f t.screen } := by
  constructor
  · intro k key hkey
    have hcode := hasCode_of_key? hkey
    exact ⟨hcode.exists_encode, hcode.imp_right (.imp_left fun ⟨letter, h, _⟩ => ⟨letter, h⟩)⟩
  · intro key f hecho
    obtain ⟨token, hencode, hdoes⟩ := exists_token_of_echo? hecho
    refine ⟨token.bytes, hencode, ?_⟩
    intro t hidle hmodel
    have hcommands : t.screen.model.hasCommandPrefix = true := by
      rcases hmodel with h | h <;> rw [h] <;> rfl
    exact (hdoes t.screen.model hcommands).process hidle

/-- F14 with shift and control, sent back to a D211, is 036 and a byte that is no
command. -/
theorem key?_encodes_and_echoes_f14 :
    let k : KeyEvent := ⟨.function 2, true, true, true⟩
    let t := Terminal.fresh { Terminal.Setup.default with model := .d211 }
    k.key? = some (.function 14 ⟨true, true⟩) ∧
      plain.encode (.function 14 ⟨true, true⟩) = some [0o36, 0o56] ∧
      t.process [0o36, 0o56] = t := by
  intro k t
  have hcode : plain.encode (.function 14 ⟨true, true⟩) = some [0o36, 0o56] := rfl
  obtain ⟨bytes, hbytes, hprocess⟩ :=
    key?_encodes_and_echoes.2 (.function 14 ⟨true, true⟩) id rfl
  rw [hcode] at hbytes
  cases hbytes
  exact ⟨rfl, hcode, hprocess t rfl (.inr rfl)⟩

end Input.KeyEvent

end DasherTerminal
