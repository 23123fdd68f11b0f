import DasherTerminal.Keyboard.Encoder
import DasherTerminal.Proofs.Keyboard.Template

/-!
# What bindings give to keys

Of several bindings for a key the last one gives it its code, and the last one
with a legend gives it its legend. Legend and code belong together exactly if
these are the same. Nothing of a template outlives the next one.
-/

namespace DasherTerminal

section IsLast

variable {α β σ : Type} {p : α → Prop} {items : List α} {a : α}

def IsLast (p : α → Prop) (items : List α) (a : α) : Prop :=
  ∃ before after, items = before ++ a :: after ∧ p a ∧ ∀ b ∈ after, ¬p b

theorem IsLast.mem (h : IsLast p items a) : a ∈ items := by
  rcases h with ⟨before, after, rfl, -, -⟩
  exact List.mem_append_right before List.mem_cons_self

theorem IsLast.holds (h : IsLast p items a) : p a := by
  rcases h with ⟨before, after, -, ha, -⟩
  exact ha

theorem exists_isLast (hmem : a ∈ items) (ha : p a) : ∃ b, IsLast p items b := by
  induction items generalizing a with
  | nil => cases hmem
  | cons c items ih =>
      by_cases hrest : ∃ b ∈ items, p b
      · rcases hrest with ⟨b, hb, hpb⟩
        rcases ih hb hpb with ⟨b', before, after, rfl, hb', hafter⟩
        exact ⟨b', c :: before, after, rfl, hb', hafter⟩
      · push Not at hrest
        rcases List.mem_cons.mp hmem with rfl | htail
        · exact ⟨a, [], items, rfl, ha, hrest⟩
        · exact absurd ha (hrest a htail)

variable {next : σ → α → σ} (view : σ → β) {value : α → β}

/-- Items of another kind leave what is seen of the state. -/
theorem view_foldl_of_forall_not (hother : ∀ s a, ¬p a → view (next s a) = view s)
    (h : ∀ a ∈ items, ¬p a) (s : σ) : view (items.foldl next s) = view s := by
  induction items generalizing s with
  | nil => rfl
  | cons a items ih =>
      rw [List.foldl_cons, ih fun b hb => h b (List.mem_cons_of_mem a hb),
        hother s a (h a List.mem_cons_self)]

/-- If items of a kind settle what is seen of the state, the last one does. -/
theorem IsLast.view_foldl (h : IsLast p items a)
    (hother : ∀ s a, ¬p a → view (next s a) = view s)
    (hkind : ∀ s a, p a → view (next s a) = value a) (s : σ) :
    view (items.foldl next s) = value a := by
  rcases h with ⟨before, after, rfl, ha, hafter⟩
  rw [List.foldl_append, List.foldl_cons, view_foldl_of_forall_not view hother hafter, hkind _ a ha]

end IsLast

namespace Binding

def IsFor (number : Nat) (modifiers : KeyModifiers) (b : Binding) : Prop :=
  b.key.toNat = number ∧ b.modifiers = modifiers

/-- The binding gives the key a legend. -/
def Labels (number : Nat) (modifiers : KeyModifiers) (b : Binding) : Prop :=
  b.IsFor number modifiers ∧ b.label.isSome

end Binding

namespace Encoder

variable {e : Encoder} {t : Template} {b : Binding} {number : Nat} {modifiers : KeyModifiers}

/-! ### Taking bindings over -/

theorem code_bind_of_isFor (e : Encoder) (h : b.IsFor number modifiers) :
    (e.bind b).codes.get? number modifiers = some b.bytes := by
  rcases h with ⟨rfl, rfl⟩
  exact e.codes.get?_insert_self _ _ _

theorem code_bind_of_not_isFor (e : Encoder) (h : ¬b.IsFor number modifiers) :
    (e.bind b).codes.get? number modifiers = e.codes.get? number modifiers :=
  e.codes.get?_insert_of_ne _ h

theorem legend_bind_of_labels (e : Encoder) (h : b.Labels number modifiers) :
    (e.bind b).legends.get? number modifiers = b.label := by
  rcases h with ⟨⟨rfl, rfl⟩, hlabel⟩
  rcases Option.isSome_iff_exists.mp hlabel with ⟨text, htext⟩
  rw [bind, htext]
  exact e.legends.get?_insert_self _ _ _

theorem legend_bind_of_not_labels (e : Encoder) (h : ¬b.Labels number modifiers) :
    (e.bind b).legends.get? number modifiers = e.legends.get? number modifiers := by
  rw [bind]
  cases hlabel : b.label with
  | none => rfl
  | some text =>
      apply e.legends.get?_insert_of_ne
      intro hfor
      exact h ⟨hfor, by rw [hlabel]; rfl⟩

/-! ### Applying a template -/

theorem code_apply_of_isLast (e : Encoder)
    (h : IsLast (Binding.IsFor number modifiers) t.bindings b) :
    (e.apply t).codes.get? number modifiers = some b.bytes :=
  h.view_foldl (fun e : Encoder => e.codes.get? number modifiers)
    (fun e _ => e.code_bind_of_not_isFor) (fun e _ => e.code_bind_of_isFor) _

theorem code_apply_of_unbound (e : Encoder) (h : ∀ b ∈ t.bindings, ¬b.IsFor number modifiers) :
    (e.apply t).codes.get? number modifiers = none :=
  view_foldl_of_forall_not (fun e : Encoder => e.codes.get? number modifiers)
    (fun e _ => e.code_bind_of_not_isFor) h _

theorem label?_apply_of_isLast (e : Encoder)
    (h : IsLast (Binding.Labels number modifiers) t.bindings b) :
    (e.apply t).label? number modifiers = b.label :=
  h.view_foldl (fun e : Encoder => e.legends.get? number modifiers)
    (fun e _ => e.legend_bind_of_not_labels) (fun e _ => e.legend_bind_of_labels) _

theorem label?_apply_of_unlabelled (e : Encoder)
    (h : ∀ b ∈ t.bindings, ¬b.Labels number modifiers) :
    (e.apply t).label? number modifiers = none :=
  view_foldl_of_forall_not (fun e : Encoder => e.legends.get? number modifiers)
    (fun e _ => e.legend_bind_of_not_labels) h _

/-- The tables that bindings fill depend on what the tables held before alone. -/
theorem foldl_bind_setName (name : Option String) (bindings : List Binding) (e : Encoder) :
    bindings.foldl bind { e with templateName? := name } =
      { bindings.foldl bind e with templateName? := name } := by
  induction bindings generalizing e with
  | nil => rfl
  | cons b bindings ih => exact ih (e.bind b)

/-- What was on the keyboard before makes no difference. -/
theorem apply_eq_apply_plain (e : Encoder) (t : Template) : e.apply t = plain.apply t := by
  have hempty : ({ e with codes := .empty, legends := .empty } : Encoder) =
      { plain with templateName? := e.templateName? } := rfl
  rw [apply, hempty, foldl_bind_setName]
  rfl

/-! ### Codes of function keys -/

theorem encode_function_of_not (e : Encoder) (h : number = 0 ∨ lastFunctionKey < number) :
    e.encode (.function number modifiers) = none :=
  if_pos h

theorem encode_function (e : Encoder) (h : 1 ≤ number ∧ number ≤ lastFunctionKey) :
    e.encode (.function number modifiers) =
      some ((e.codes.get? number modifiers).getD (functionCode number modifiers)) :=
  if_neg (by omega)

/-- How far the modifiers take a code down. -/
def descent (modifiers : KeyModifiers) : Nat :=
  (if modifiers.shift then 0o20 else 0) + if modifiers.ctrl then 0o100 else 0

theorem toNat_modifierOffset (modifiers : KeyModifiers) :
    (modifierOffset modifiers).toNat = descent modifiers := by
  rcases modifiers with ⟨_ | _, _ | _⟩ <;> rfl

/-- The built-in code lies so far below that of the key alone as the modifiers
take it down. -/
theorem functionCode_eq (modifiers : KeyModifiers) (h : number ≤ lastFunctionKey) :
    ∃ code : UInt8, functionCode number modifiers = [0o36, code] ∧
      code.toNat + descent modifiers =
        if number = lastFunctionKey then 0o160 else 0o160 + number := by
  have hdescent : descent modifiers ≤ 0o120 := by
    rcases modifiers with ⟨_ | _, _ | _⟩ <;> decide
  have hbase : (if number = lastFunctionKey then 0o160 else 0o160 + UInt8.ofNat number).toNat =
      if number = lastFunctionKey then 0o160 else 0o160 + number := by
    rw [lastFunctionKey] at h
    split
    · rfl
    · have hfirst : (0o160 : UInt8).toNat = 112 := rfl
      rw [UInt8.toNat_add, UInt8.toNat_ofNat', hfirst]
      omega
  refine ⟨_, rfl, ?_⟩
  rw [UInt8.toNat_sub_of_le, hbase, toNat_modifierOffset]
  · split <;> omega
  · rw [UInt8.le_iff_toNat_le, hbase, toNat_modifierOffset]
    split <;> omega

/-! ### Legends and codes -/

/-- A key with bindings sends the bytes of the last one, and its legend is that of
the last one with a legend. So its legend is the one that belongs to its bytes
exactly if the last binding has a legend or none has. A key that no binding gives
a legend has none. -/
theorem label?_eq_label_iff (e : Encoder) (t : Template)
    (hnumber : 1 ≤ number ∧ number ≤ lastFunctionKey) (modifiers : KeyModifiers) :
    let e' := e.apply t
    (∀ b, IsLast (Binding.IsFor number modifiers) t.bindings b →
      e'.encode (.function number modifiers) = some b.bytes ∧
        (e'.label? number modifiers = b.label ↔
          b.label.isSome ∨ ∀ c ∈ t.bindings, c.IsFor number modifiers → c.label = none)) ∧
      (∀ b, IsLast (Binding.Labels number modifiers) t.bindings b →
        e'.label? number modifiers = b.label) ∧
      ((∀ b ∈ t.bindings, b.IsFor number modifiers → b.label = none) →
        e'.label? number modifiers = none) := by
  have hnone : (∀ b ∈ t.bindings, b.IsFor number modifiers → b.label = none) →
      (e.apply t).label? number modifiers = none := by
    intro h
    apply e.label?_apply_of_unlabelled
    rintro b hb ⟨hfor, hlabel⟩
    rw [h b hb hfor] at hlabel
    cases hlabel
  refine ⟨?_, fun b hb => e.label?_apply_of_isLast hb, hnone⟩
  intro b hb
  constructor
  · rw [encode_function _ hnumber, e.code_apply_of_isLast hb, Option.getD_some]
  constructor
  · intro hsame
    by_cases hlabel : b.label.isSome
    · exact .inl hlabel
    right
    intro c hc hfor
    by_contra hlabelled
    -- Then some binding has a legend, and the key has that of the last such one.
    have hc' : c.Labels number modifiers := ⟨hfor, Option.isSome_iff_ne_none.mpr hlabelled⟩
    rcases exists_isLast hc hc' with ⟨d, hd⟩
    rw [e.label?_apply_of_isLast hd] at hsame
    exact hlabel (hsame ▸ hd.holds.2)
  · rintro (hlabel | hunlabelled)
    · rcases hb with ⟨before, after, hsplit, hfor, hafter⟩
      apply e.label?_apply_of_isLast
      exact ⟨before, after, hsplit, ⟨hfor, hlabel⟩, fun c hc hlabels => hafter c hc hlabels.1⟩
    · rw [hnone hunlabelled, hunlabelled b hb.mem hb.holds]

def noModifiers : KeyModifiers := ⟨false, false⟩

/-- F1 is bound three times, and F2 in between. -/
def thrice : Template :=
  ⟨"", [⟨1, noModifiers, [1], some "first"⟩, ⟨1, noModifiers, [2], none⟩,
    ⟨2, noModifiers, [3], none⟩, ⟨1, noModifiers, [4], some "last"⟩]⟩

theorem label?_eq_label_iff_thrice :
    (1 ≤ 1 ∧ 1 ≤ lastFunctionKey) ∧
      (plain.apply thrice).encode (.function 1 noModifiers) = some [4] ∧
      (plain.apply thrice).label? 1 noModifiers = some "last" := by
  have hnumber : 1 ≤ 1 ∧ 1 ≤ lastFunctionKey := by decide
  have hlast : IsLast (Binding.IsFor 1 noModifiers) thrice.bindings
      ⟨1, noModifiers, [4], some "last"⟩ :=
    ⟨thrice.bindings.take 3, [], rfl, ⟨rfl, rfl⟩, by simp⟩
  rcases label?_eq_label_iff plain thrice hnumber noModifiers with ⟨hbound, -, -⟩
  rcases hbound _ hlast with ⟨hcode, hlabel⟩
  exact ⟨hnumber, hcode, hlabel.mpr (.inl rfl)⟩

/-- A key bound anew without a legend sends its new bytes under its old legend. -/
theorem label?_of_overridden :
    let old : Binding := ⟨1, noModifiers, [65], some "A"⟩
    let new : Binding := ⟨1, noModifiers, [66], none⟩
    let t : Template := ⟨"", [old, new]⟩
    Template.parse t.write = .ok t ∧
      IsLast (Binding.IsFor 1 noModifiers) t.bindings new ∧
      (plain.apply t).encode (.function 1 noModifiers) = some new.bytes ∧
      ¬(plain.apply t).label? 1 noModifiers = new.label := by
  intro old new t
  refine ⟨?_, ⟨[old], [], rfl, ⟨rfl, rfl⟩, by simp⟩, rfl, by decide⟩
  rw [Template.parse_write_eq_checkRange]
  rfl

/-! ### Templates one after another -/

/-- Of templates that are put on a keyboard one after another the last one alone
counts, whatever was on it before. A function key sends the bytes of its last
binding there, or else its built-in code; a key beyond F15 sends nothing. -/
theorem foldl_apply_concat (e₀ : Encoder) (earlier : List Template) (t : Template) :
    let e := (earlier ++ [t]).foldl apply e₀
    (∀ number modifiers, number = 0 ∨ 15 < number →
      e.encode (.function number modifiers) = none) ∧
    (∀ number modifiers, 1 ≤ number ∧ number ≤ 15 →
      (∀ b, IsLast (Binding.IsFor number modifiers) t.bindings b →
        e.encode (.function number modifiers) = some b.bytes) ∧
      ((∀ b ∈ t.bindings, ¬b.IsFor number modifiers) →
        ∃ code : UInt8, e.encode (.function number modifiers) = some [0o36, code] ∧
          code.toNat + descent modifiers = if number = 15 then 0o160 else 0o160 + number)) ∧
    (e.templateName? = if t.name = "" then none else some t.name) ∧
    (∀ key, e.encode key = (plain.apply t).encode key) ∧
    (∀ number modifiers, e.label? number modifiers = (plain.apply t).label? number modifiers) ∧
    e.templateName? = (plain.apply t).templateName? := by
  intro e
  have he : e = (earlier.foldl apply e₀).apply t := by
    simp only [e, List.foldl_append, List.foldl_cons, List.foldl_nil]
  have hplain : e = plain.apply t := he.trans (apply_eq_apply_plain _ t)
  refine ⟨?_, ?_, ?_, ?_, ?_, ?_⟩
  · intro number modifiers hnumber
    exact e.encode_function_of_not hnumber
  · intro number modifiers hnumber
    rw [e.encode_function hnumber, he]
    constructor
    · intro b hb
      rw [code_apply_of_isLast _ hb, Option.getD_some]
    · intro hunbound
      rcases functionCode_eq modifiers hnumber.2 with ⟨code, hcode, hdescent⟩
      rw [code_apply_of_unbound _ hunbound, Option.getD_none, hcode]
      exact ⟨code, rfl, hdescent⟩
  · rw [he, apply]
    simp only [String.isEmpty_iff]
  · intro key
    rw [hplain]
  · intro number modifiers
    rw [hplain]
  · rw [hplain]

/-- A template for F2 with shift takes the place of one for F1 and F2. -/
theorem foldl_apply_concat_shifted :
    let modifiers : KeyModifiers := ⟨true, false⟩
    let t : Template := ⟨"", [⟨2, modifiers, [8], none⟩, ⟨2, modifiers, [9], none⟩]⟩
    let e := ([thrice] ++ [t]).foldl apply plain
    e.encode (.function 2 modifiers) = some [9] ∧
      (∃ code : UInt8, e.encode (.function 1 modifiers) = some [0o36, code] ∧
        code.toNat + 0o20 = 0o161) ∧
      e.encode (.function 16 modifiers) = none ∧ e.templateName? = none := by
  intro modifiers t e
  rcases foldl_apply_concat plain [thrice] t with ⟨hbeyond, hkeys, hname, -⟩
  have hlast : IsLast (Binding.IsFor 2 modifiers) t.bindings ⟨2, modifiers, [9], none⟩ :=
    ⟨t.bindings.take 1, [], rfl, ⟨rfl, rfl⟩, by simp⟩
  have hunbound : ∀ b ∈ t.bindings, ¬b.IsFor 1 modifiers := by
    intro b hb hfor
    simp only [t, List.mem_cons, List.not_mem_nil, or_false] at hb
    rcases hb with rfl | rfl <;> exact absurd hfor.1 (by decide)
  refine ⟨(hkeys 2 modifiers (by decide)).1 _ hlast, ?_, hbeyond 16 modifiers (by decide), hname⟩
  exact (hkeys 1 modifiers (by decide)).2 hunbound

end Encoder

end DasherTerminal
