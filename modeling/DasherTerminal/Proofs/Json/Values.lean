import DasherTerminal.Proofs.Json.Strings
import DasherTerminal.Proofs.Text.Decimal

/-!
# Written values are read back

A written value is read as what it says from any fuel that exceeds twice its
length, and what stands after it is left.
-/

namespace DasherTerminal.Json

/-- What can follow on a value: nothing, a comma, or a closing bracket or brace. -/
def Ends (rest : List Char) : Prop := ∀ c ∈ rest.head?, c ∈ [',', ']', '\x7d']

theorem ends_cons {c : Char} (h : c ∈ [',', ']', '\x7d']) (rest : List Char) : Ends (c :: rest) := by
  intro d hd
  obtain rfl : c = d := by simpa using hd
  exact h

structure Reads (text : List Char) (v : Value) : Prop where
  first : ∃ c rest, text = c :: rest ∧ isBlank c = false ∧ c ≠ ']'
  value : ∀ fuel rest, 2 * text.length ≤ fuel → Ends rest →
    value? fuel (text ++ rest) = some (v, rest)

variable {text : List Char} {v : Value} {rest : List Char}

theorem skip_cons {c : Char} (h : isBlank c = false) (rest : List Char) :
    skip (c :: rest) = c :: rest := by
  simp [skip, h]

theorem exists_fuel {fuel : Nat} (hlength : 0 < text.length) (hfuel : 2 * text.length ≤ fuel) :
    ∃ n, fuel = n + 1 :=
  ⟨fuel - 1, by omega⟩

/-! ### Numbers -/

theorem Ends.not_digit (h : Ends rest) : ∀ c ∈ rest.head?, c.isDigit = false := by
  have hlast : ∀ c ∈ [',', ']', '\x7d'], c.isDigit = false := by simp
  exact fun c hc => hlast c (h c hc)

theorem digitSpan_append {digits : List Char} (hdigits : ∀ c ∈ digits, c.isDigit = true)
    (h : Ends rest) : digitSpan (digits ++ rest) = (digits, rest) := by
  have htake : rest.takeWhile Char.isDigit = [] := by
    cases rest with
    | nil => rfl
    | cons c rest => simp [h.not_digit c rfl]
  have hdrop : rest.dropWhile Char.isDigit = rest := by
    cases rest with
    | nil => rfl
    | cons c rest => simp [h.not_digit c rfl]
  rw [digitSpan, List.takeWhile_append_of_pos hdigits, List.dropWhile_append_of_pos hdigits, htake,
    hdrop, List.append_nil]

theorem Ends.fraction?_eq (h : Ends rest) : fraction? rest = some (false, rest) := by
  unfold fraction?
  split
  · exact absurd (h '.' rfl) (by decide)
  · rfl

theorem Ends.exponent?_eq (h : Ends rest) : exponent? rest = some (false, rest) := by
  unfold exponent?
  split
  · rfl
  · next c rest =>
      have hc : ¬(c = 'e' ∨ c = 'E') := by
        have hlast := h c rfl
        rintro (rfl | rfl)
        · exact absurd hlast (by decide)
        · exact absurd hlast (by decide)
      rw [if_neg hc]

theorem number?_toDigits (n : Nat) (h : Ends rest) :
    number? (Nat.toDigits 10 n ++ rest) = some (.number (some n), rest) := by
  have hspan := digitSpan_append (fun c => Text.isDigit_of_mem_toDigits (n := n)) h
  have hvalue := Text.digits?_toDigits n
  have hzero : ∀ d ds, Nat.toDigits 10 n ≠ '0' :: d :: ds := by
    intro d ds hds
    rcases Nat.eq_zero_or_pos n with rfl | hpos
    · simp at hds
    · exact Text.head?_toDigits hpos (by rw [hds]; rfl)
  have hminus : ∀ r, Nat.toDigits 10 n ++ rest ≠ '-' :: r := by
    intro r hr
    have hdigit : '-' ∈ Nat.toDigits 10 n := by
      cases hds : Nat.toDigits 10 n with
      | nil => exact absurd hds Nat.toDigits_ne_nil
      | cons d ds =>
          rw [hds] at hr
          simp [(List.cons.inj hr).1]
    exact absurd (Text.isDigit_of_mem_toDigits hdigit) (by decide)
  generalize Nat.toDigits 10 n = digits at *
  unfold number?
  split
  next negative cs hsign =>
    split at hsign
    · next heq => exact absurd heq (hminus _)
    · cases hsign
      rw [hspan]
      dsimp only
      split
      · cases hvalue
      · exact absurd rfl (hzero _ _)
      · simp [h.fraction?_eq, h.exponent?_eq, hvalue]

theorem isBlank_of_isDigit {c : Char} (h : c.isDigit = true) : isBlank c = false := by
  simp only [isBlank, Bool.or_eq_false_iff, beq_eq_false_iff_ne]
  refine ⟨⟨⟨?_, ?_⟩, ?_⟩, ?_⟩ <;> (rintro rfl; exact absurd h (by decide))

theorem value?_of_isDigit {c : Char} (hc : c.isDigit = true) (fuel : Nat) (rest : List Char) :
    value? (fuel + 1) (c :: rest) = number? (c :: rest) := by
  rw [value?, skip_cons (isBlank_of_isDigit hc)]
  split
  case h_7 => rfl
  all_goals
    next heq =>
      rw [(List.cons.inj heq).1] at hc
      exact absurd hc (by decide)

theorem reads_writeNatural (n : Nat) : Reads (writeNatural n) (.number (some n)) := by
  rw [writeNatural, Text.toList_toString]
  obtain ⟨c, digits, hdigits⟩ := List.exists_cons_of_ne_nil (Nat.toDigits_ne_nil (n := n) (b := 10))
  have hc : c.isDigit = true := Text.isDigit_of_mem_toDigits (n := n) (by simp [hdigits])
  refine ⟨⟨c, digits, hdigits, isBlank_of_isDigit hc, ?_⟩, ?_⟩
  · rintro rfl
    exact absurd hc (by decide)
  · intro fuel rest hfuel h
    obtain ⟨fuel, rfl⟩ := exists_fuel (by simp [hdigits]) hfuel
    have hnumber := number?_toDigits n h
    rw [hdigits, List.cons_append] at hnumber ⊢
    rw [value?_of_isDigit hc, hnumber]

/-! ### Words and strings -/

theorem reads_writeBool (b : Bool) : Reads (writeBool b) (.bool b) := by
  cases b with
  | true =>
      refine ⟨⟨'t', ['r', 'u', 'e'], rfl, rfl, by decide⟩, ?_⟩
      intro fuel rest hfuel _
      obtain ⟨fuel, rfl⟩ := exists_fuel (by decide) hfuel
      rfl
  | false =>
      refine ⟨⟨'f', ['a', 'l', 's', 'e'], rfl, rfl, by decide⟩, ?_⟩
      intro fuel rest hfuel _
      obtain ⟨fuel, rfl⟩ := exists_fuel (by decide) hfuel
      rfl

theorem reads_writeString (text : String) : Reads (writeString text) (.string (some text)) := by
  refine ⟨⟨'"', _, rfl, rfl, by decide⟩, ?_⟩
  intro fuel rest hfuel _
  obtain ⟨fuel, rfl⟩ := exists_fuel (by simp [writeString]) hfuel
  have hstring := string?_writeString text rest
  have happend : writeString text ++ rest = '"' :: (text.toList.flatMap writeChar ++ '"' :: rest) := by
    simp [writeString]
  rw [happend, value?, skip_cons rfl]
  simp [hstring]

/-! ### Arrays -/

theorem items?_intercalate {texts : List (List Char)} {vs : List Value}
    (h : List.Forall₂ Reads texts vs) (hne : texts ≠ []) (fuel : Nat)
    (hfuel : 2 * (List.intercalate [','] texts).length < fuel) (rest : List Char) :
    items? fuel (List.intercalate [','] texts ++ ']' :: rest) = some (vs, rest) := by
  induction h generalizing fuel with
  | nil => exact absurd rfl hne
  | @cons text v texts vs hv hvs ih =>
      obtain ⟨fuel, rfl⟩ : ∃ n, fuel = n + 1 := ⟨fuel - 1, by omega⟩
      cases hvs with
      | nil =>
          rw [List.intercalate_singleton] at hfuel ⊢
          have hvalue := hv.value fuel (']' :: rest) (by omega) (ends_cons (by simp) _)
          simp [items?, hvalue, skip, isBlank]
      | @cons next w texts vs hw hvs =>
          rw [List.intercalate_cons_cons, List.append_assoc, List.append_assoc]
          simp only [List.intercalate_cons_cons, List.length_append, List.length_singleton] at hfuel
          have hvalue := hv.value fuel
            (',' :: (List.intercalate [','] (next :: texts) ++ ']' :: rest)) (by omega)
            (ends_cons (by simp) _)
          have hitems := ih (by simp) fuel (by omega)
          simp [items?, hvalue, skip, isBlank, hitems]

theorem value?_bracket (fuel : Nat) (rest : List Char) :
    value? (fuel + 1) ('[' :: rest) =
      match skip rest with
      | ']' :: rest => some (.array [], rest)
      | rest => (items? fuel rest).map fun (vs, rest) => (.array vs, rest) := rfl

theorem reads_writeArray {texts : List (List Char)} {vs : List Value}
    (h : List.Forall₂ Reads texts vs) : Reads (writeArray texts) (.array vs) := by
  refine ⟨⟨'[', _, rfl, rfl, by decide⟩, ?_⟩
  intro fuel rest hfuel _
  obtain ⟨fuel, rfl⟩ := exists_fuel (by simp [writeArray]) hfuel
  have happend : writeArray texts ++ rest =
      '[' :: (List.intercalate [','] texts ++ ']' :: rest) := by
    simp [writeArray]
  rw [happend, value?_bracket]
  cases h with
  | nil => rfl
  | @cons text v texts vs hv hvs =>
      have hitems := items?_intercalate (.cons hv hvs) (by simp) fuel
        (by simp [writeArray] at hfuel; omega) rest
      -- The first item begins with neither a blank nor the bracket that closes the array.
      obtain ⟨c, inner, rfl, hblank, hc⟩ := hv.first
      obtain ⟨tail, htail⟩ : ∃ tail, List.intercalate [','] ((c :: inner) :: texts) = c :: tail := by
        cases texts with
        | nil => exact ⟨inner, by simp⟩
        | cons next texts => exact ⟨_, List.intercalate_cons_cons⟩
      rw [htail, List.cons_append] at hitems ⊢
      rw [skip_cons hblank]
      split
      · next heq => exact absurd (List.cons.inj heq).1 hc
      · rw [hitems, Option.map_some]

/-! ### Objects -/

def writeMember (m : String × List Char) : List Char := writeString m.1 ++ ':' :: m.2

theorem writeObject_eq (written : List (String × List Char)) :
    writeObject written = '\x7b' :: (List.intercalate [','] (written.map writeMember) ++ ['\x7d']) :=
  rfl

theorem writeMember_append (name : String) (v rest : List Char) :
    writeMember (name, v) ++ rest =
      '"' :: (name.toList.flatMap writeChar ++ '"' :: ':' :: (v ++ rest)) := by
  simp [writeMember, writeString]

structure ReadsMember (written : String × List Char) (read : Option String × Value) : Prop where
  name : read.1 = some written.1
  value : Reads written.2 read.2

theorem readsMember (name : String) (h : Reads text v) :
    ReadsMember (name, text) (some name, v) :=
  ⟨rfl, h⟩

theorem members?_intercalate {written : List (String × List Char)}
    {ms : List (Option String × Value)} (h : List.Forall₂ ReadsMember written ms)
    (hne : written ≠ []) (fuel : Nat)
    (hfuel : 2 * (List.intercalate [','] (written.map writeMember)).length < fuel)
    (rest : List Char) :
    members? fuel (List.intercalate [','] (written.map writeMember) ++ '\x7d' :: rest) =
      some (ms, rest) := by
  induction h generalizing fuel with
  | nil => exact absurd rfl hne
  | @cons m r written ms hm hms ih =>
      obtain ⟨name, text⟩ := m
      obtain ⟨_, v⟩ := r
      obtain ⟨rfl, hv⟩ := hm
      obtain ⟨fuel, rfl⟩ : ∃ n, fuel = n + 1 := ⟨fuel - 1, by omega⟩
      have hshort : text.length < (writeMember (name, text)).length := by
        simp [writeMember]
        omega
      rw [List.map_cons] at hfuel ⊢
      cases hms with
      | nil =>
          rw [List.map_nil, List.intercalate_singleton] at hfuel ⊢
          have hvalue : value? fuel (text ++ '\x7d' :: rest) = some (v, '\x7d' :: rest) :=
            hv.value fuel ('\x7d' :: rest) (by dsimp only; omega) (ends_cons (by simp) _)
          simp [writeMember_append, members?, string?_writeString, hvalue, skip, isBlank]
      | @cons next r written ms hnext hms =>
          rw [List.map_cons, List.intercalate_cons_cons] at hfuel ⊢
          rw [List.append_assoc, List.append_assoc]
          simp only [List.length_append, List.length_singleton] at hfuel
          have hmembers := ih (by simp) fuel (by rw [List.map_cons]; omega)
          rw [List.map_cons] at hmembers
          generalize List.intercalate [','] (writeMember next :: written.map writeMember) = others
            at hmembers hfuel ⊢
          have hvalue : value? fuel (text ++ ',' :: (others ++ '\x7d' :: rest)) =
              some (v, ',' :: (others ++ '\x7d' :: rest)) :=
            hv.value fuel _ (by dsimp only; omega) (ends_cons (by simp) _)
          simp [writeMember_append, members?, string?_writeString, hvalue, skip, isBlank, hmembers]

theorem value?_brace (fuel : Nat) (rest : List Char) :
    value? (fuel + 1) ('\x7b' :: rest) =
      match skip rest with
      | '\x7d' :: rest => some (.object [], rest)
      | rest => (members? fuel rest).map fun (ms, rest) => (.object ms, rest) := rfl

theorem reads_writeObject {written : List (String × List Char)}
    {ms : List (Option String × Value)} (h : List.Forall₂ ReadsMember written ms) :
    Reads (writeObject written) (.object ms) := by
  refine ⟨⟨'\x7b', _, rfl, rfl, by decide⟩, ?_⟩
  intro fuel rest hfuel _
  rw [writeObject_eq] at hfuel ⊢
  obtain ⟨fuel, rfl⟩ := exists_fuel (by simp) hfuel
  rw [List.cons_append, List.append_assoc, List.singleton_append, value?_brace]
  cases h with
  | nil => rfl
  | @cons m r written ms hm hms =>
      have hmembers := members?_intercalate (.cons hm hms) (by simp) fuel
        (by simp at hfuel ⊢; omega) rest
      obtain ⟨tail, htail⟩ : ∃ tail,
          List.intercalate [','] ((m :: written).map writeMember) = '"' :: tail := by
        cases written with
        | nil => exact ⟨_, List.intercalate_singleton⟩
        | cons next written => exact ⟨_, List.intercalate_cons_cons⟩
      rw [htail, List.cons_append] at hmembers ⊢
      rw [skip_cons rfl]
      simp [hmembers]

/-! ### Whole texts -/

theorem Reads.read?_ofList (h : Reads text v) : read? (String.ofList text) = some v := by
  have hends : Ends [] := fun c hc => by cases hc
  have hvalue := h.value (2 * text.length + 2) [] (by omega) hends
  rw [List.append_nil] at hvalue
  rw [read?, String.toList_ofList, hvalue]
  rfl

end DasherTerminal.Json
