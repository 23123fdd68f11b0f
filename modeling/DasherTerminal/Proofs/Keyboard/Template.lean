import Mathlib.Data.List.Forall2
import DasherTerminal.Keyboard.Template
import DasherTerminal.Proofs.Json.Values

/-!
# Written templates are read back

Whatever a template says, its written form is JSON that says the same, and a
reader gets the template back from it or the first key that does not exist.
-/

namespace DasherTerminal

open Json

theorem forall₂_map {α β γ : Type} {R : β → γ → Prop} {f : α → β} {g : α → γ}
    (h : ∀ a, R (f a) (g a)) (xs : List α) : List.Forall₂ R (xs.map f) (xs.map g) := by
  rw [List.forall₂_map_left_iff, List.forall₂_map_right_iff, List.forall₂_same]
  exact fun x _ => h x

theorem mapM_map_eq_some {α β : Type} {f : α → β} {read : β → Option α}
    (h : ∀ a, read (f a) = some a) (xs : List α) : (xs.map f).mapM read = some xs := by
  induction xs with
  | nil => rfl
  | cons x xs ih => simp [h, ih]

def byteJson (x : UInt8) : Value := .number (some x.toNat)

@[simp] theorem byte?_byteJson (x : UInt8) : byte? (byteJson x) = some x := by
  have hsize : x.toNat ≤ 255 := Nat.le_of_lt_succ x.toNat_lt
  simp [byte?, byteJson, Value.natural?, Option.filter, hsize]

theorem reads_byte (x : UInt8) : Reads (writeNatural x.toNat) (byteJson x) :=
  reads_writeNatural x.toNat

namespace Binding

/-- What is written of a binding: a label only if there is one. -/
def toJson (b : Binding) : Value :=
  .object ([(some "key", byteJson b.key), (some "shift", .bool b.modifiers.shift),
    (some "ctrl", .bool b.modifiers.ctrl), (some "bytes", .array (b.bytes.map byteJson))] ++
    match b.label with
    | some text => [(some "label", .string (some text))]
    | none => [])

theorem reads_write (b : Binding) : Reads b.write b.toJson := by
  have hbytes : Reads (writeArray (b.bytes.map fun x => writeNatural x.toNat))
      (.array (b.bytes.map byteJson)) :=
    reads_writeArray (forall₂_map reads_byte b.bytes)
  rw [write, toJson]
  apply reads_writeObject
  apply List.rel_append
  · exact .cons (readsMember _ (reads_byte b.key)) (.cons (readsMember _ (reads_writeBool _))
      (.cons (readsMember _ (reads_writeBool _)) (.cons (readsMember _ hbytes) .nil)))
  · cases b.label with
    | none => exact .nil
    | some text => exact .cons (readsMember _ (reads_writeString text)) .nil

theorem inRange_iff {b : Binding} : b.inRange = true ↔ 1 ≤ b.key.toNat ∧ b.key.toNat ≤ 15 := by
  rw [inRange, Bool.and_eq_true, decide_eq_true_iff, decide_eq_true_iff, lastFunctionKey]

theorem ofJson?_toJson (b : Binding) : ofJson? b.toJson = some b := by
  obtain ⟨key, ⟨shift, ctrl⟩, bytes, label⟩ := b
  have hbytes := mapM_map_eq_some byte?_byteJson bytes
  cases label with
  | none =>
      simp [ofJson?, toJson, fields?, Member.readable?, Member.find, Member.required?,
        Member.optional?, Value.bool?, Value.items?, byte?_byteJson, hbytes]
  | some text =>
      simp [ofJson?, toJson, fields?, Member.readable?, Member.find, Member.required?,
        Member.optional?, Value.bool?, Value.items?, byte?_byteJson, hbytes, label?, Value.text?]

end Binding

namespace Template

def toJson (t : Template) : Value :=
  .object [(some "name", .string (some t.name)),
    (some "bindings", .array (t.bindings.map Binding.toJson))]

theorem read?_write (t : Template) : Json.read? t.write = some t.toJson := by
  apply Reads.read?_ofList
  apply reads_writeObject
  refine .cons (readsMember _ (reads_writeString t.name)) (.cons (readsMember _ ?_) .nil)
  exact reads_writeArray (forall₂_map Binding.reads_write t.bindings)

theorem ofJson?_toJson (t : Template) : ofJson? t.toJson = some t := by
  have hbindings := mapM_map_eq_some Binding.ofJson?_toJson t.bindings
  simp [ofJson?, toJson, fields?, Member.readable?, Member.find, Member.optional?, Value.items?,
    Value.text?, hbindings]

theorem checkRange_eq_ok {t : Template} (h : ∀ b ∈ t.bindings, b.inRange = true) :
    t.checkRange = .ok t := by
  have hnone : t.bindings.find? (fun b => !b.inRange) = none := by
    rw [List.find?_eq_none]
    intro b hb
    simp [h b hb]
  rw [checkRange, hnone]

theorem checkRange_eq_error {t : Template} {before after : List Binding} {bad : Binding}
    (ht : t.bindings = before ++ bad :: after) (hbefore : ∀ b ∈ before, b.inRange = true)
    (hbad : bad.inRange = false) :
    t.checkRange = .error (.template (.keyOutOfRange bad.key.toNat)) := by
  have hfirst : t.bindings.find? (fun b => !b.inRange) = some bad := by
    rw [ht, List.find?_append, List.find?_eq_none.mpr (by simpa using hbefore)]
    simp [hbad]
  rw [checkRange, hfirst]

theorem parse_write_eq_checkRange (t : Template) : parse t.write = t.checkRange := by
  rw [parse, read?_write, Option.bind_some, ofJson?_toJson]

/-- The text of a template is JSON with its name and its bindings. It is read back
as the template if every key exists; if not, the first binding whose key does not
exist is named. -/
theorem parse_write (t : Template) :
    Json.read? t.write = some t.toJson ∧
    ((∀ b ∈ t.bindings, 1 ≤ b.key.toNat ∧ b.key.toNat ≤ 15) → parse t.write = .ok t) ∧
    ∀ before bad after, t.bindings = before ++ bad :: after →
      (∀ b ∈ before, 1 ≤ b.key.toNat ∧ b.key.toNat ≤ 15) →
      ¬(1 ≤ bad.key.toNat ∧ bad.key.toNat ≤ 15) →
      parse t.write = .error (.template (.keyOutOfRange bad.key.toNat)) := by
  refine ⟨t.read?_write, ?_, ?_⟩
  · intro h
    rw [parse_write_eq_checkRange]
    exact checkRange_eq_ok fun b hb => Binding.inRange_iff.mpr (h b hb)
  · intro before bad after ht hbefore hbad
    rw [parse_write_eq_checkRange]
    apply checkRange_eq_error ht
    · exact fun b hb => Binding.inRange_iff.mpr (hbefore b hb)
    · exact Bool.eq_false_iff.mpr (mt Binding.inRange_iff.mp hbad)

/-- A name with quotes, a backslash and control characters, and two keys that do
not exist, of which the first is named. -/
theorem parse_write_two_wrong_keys :
    let bindings : List Binding := [⟨2, ⟨true, false⟩, [0, 255], some "\u0001é\t"⟩,
      ⟨16, ⟨false, true⟩, [], none⟩, ⟨0, ⟨false, false⟩, [7], some ""⟩]
    let t : Template := ⟨"\"a\\b\"\n😀", bindings⟩
    parse t.write = .error (.template (.keyOutOfRange 16)) ∧
      parse { t with bindings := bindings.take 1 }.write =
        .ok { t with bindings := bindings.take 1 } := by
  intro bindings t
  constructor
  · exact (parse_write t).2.2 (bindings.take 1) ⟨16, ⟨false, true⟩, [], none⟩ (bindings.drop 2) rfl
      (by decide) (by decide)
  · exact (parse_write { t with bindings := bindings.take 1 }).2.1 (by decide)

end Template

end DasherTerminal
