import DasherTerminal.Keyboard.Key

/-!
# Tables of function keys

A table holds at most one value for a function key and its modifiers. A new
value takes the place of the old one.
-/

namespace DasherTerminal

structure KeyTable (α : Type) where
  entries : List ((Nat × KeyModifiers) × α)
  deriving DecidableEq, Repr

namespace KeyTable

variable {α : Type}

def empty : KeyTable α := ⟨[]⟩

instance : Inhabited (KeyTable α) := ⟨empty⟩

def get? (t : KeyTable α) (number : Nat) (modifiers : KeyModifiers) : Option α :=
  t.entries.lookup (number, modifiers)

def insert (t : KeyTable α) (number : Nat) (modifiers : KeyModifiers) (value : α) : KeyTable α :=
  ⟨((number, modifiers), value) :: t.entries.filter fun e => e.1 ≠ (number, modifiers)⟩

@[simp] theorem get?_empty (number : Nat) (modifiers : KeyModifiers) :
    (empty : KeyTable α).get? number modifiers = none := rfl

theorem lookup_filter_ne {key key' : Nat × KeyModifiers} (h : key ≠ key')
    (entries : List ((Nat × KeyModifiers) × α)) :
    (entries.filter fun e => e.1 ≠ key').lookup key = entries.lookup key := by
  induction entries with
  | nil => rfl
  | cons e entries ih =>
      obtain ⟨k, value⟩ := e
      by_cases hk : k = key'
      · subst hk
        rw [List.filter_cons_of_neg (by simp), ih, List.lookup_cons, beq_false_of_ne h]
      · rw [List.filter_cons_of_pos (by simpa using hk), List.lookup_cons, ih, List.lookup_cons]

@[simp] theorem get?_insert_self (t : KeyTable α) (number : Nat) (modifiers : KeyModifiers)
    (value : α) : (t.insert number modifiers value).get? number modifiers = some value := by
  simp [get?, insert]

theorem get?_insert_of_ne (t : KeyTable α) {number number' : Nat}
    {modifiers modifiers' : KeyModifiers} (value : α)
    (h : ¬(number' = number ∧ modifiers' = modifiers)) :
    (t.insert number' modifiers' value).get? number modifiers = t.get? number modifiers := by
  have hne : (number, modifiers) ≠ (number', modifiers') := by
    rintro ⟨⟩
    exact h ⟨rfl, rfl⟩
  rw [get?, insert, List.lookup_cons, beq_false_of_ne hne]
  exact lookup_filter_ne hne t.entries

end KeyTable

end DasherTerminal
