import Mathlib.Data.List.Basic
import DasherTerminal.Link.Target
import DasherTerminal.Proofs.Text.Blank
import DasherTerminal.Proofs.Text.Decimal

/-!
# Written addresses

The written form of a target is read back as that target, unless its host holds
brackets where the written form has brackets of its own.
-/

namespace DasherTerminal.Target

/-- The hosts that are told apart from their port in writing: with a colon in it
the host stands in brackets and must not close them, without one it must not look
as if it stood in brackets. -/
def Unambiguous (host : List Char) : Prop :=
  if ':' ∈ host then ']' ∉ host else host.head? ≠ some '['

instance (host : List Char) : Decidable (Unambiguous host) :=
  inferInstanceAs (Decidable (if ':' ∈ host then ']' ∉ host else host.head? ≠ some '['))

/-- What is checked of every address that is read. -/
structure Valid (host : List Char) (port : Nat) : Prop where
  host_ne : host ≠ []
  solid : ∀ c ∈ host, Text.isBlank c = false
  port_ne : port ≠ 0
  port_le : port ≤ Text.wordLimit

variable {host cs : List Char} {port : Nat}

theorem isBlank_of_isDigit {c : Char} (h : c.isDigit = true) : Text.isBlank c = false := by
  simp only [Char.isDigit, Bool.and_eq_true, decide_eq_true_eq, UInt32.le_iff_toNat_le] at h
  have hlow : 48 ≤ c.toNat := h.1
  have hhigh : c.toNat ≤ 57 := h.2
  simp [Text.isBlank, UInt32.le_iff_toNat_le, ← UInt32.toNat_inj]
  omega

theorem port?_toDigits (h : port ≤ Text.wordLimit) : port? (Nat.toDigits 10 port) = some port := by
  rw [port?, Text.trim_eq_self, Text.number?_toDigits h]
  exact fun c hc => isBlank_of_isDigit (Text.isDigit_of_mem_toDigits hc)

theorem not_mem_toDigits {n : Nat} {c : Char} (h : c.isDigit = false) : c ∉ Nat.toDigits 10 n := by
  intro hc
  rw [Text.isDigit_of_mem_toDigits hc] at h
  cases h

theorem addressText_of_colon (h : ':' ∈ host) :
    addressText host port = '[' :: (host ++ ']' :: ':' :: Nat.toDigits 10 port) := by
  simp [addressText, h]

theorem addressText_of_not_colon (h : ':' ∉ host) :
    addressText host port = host ++ ':' :: Nat.toDigits 10 port := by
  simp [addressText, h]

theorem Valid.isBlank_addressText (h : Valid host port) {c : Char}
    (hc : c ∈ addressText host port) : Text.isBlank c = false := by
  have hparts : c ∈ host ∨ c ∈ Nat.toDigits 10 port ∨ c = '[' ∨ c = ']' ∨ c = ':' := by
    unfold addressText at hc
    split at hc
    · simp at hc
      tauto
    · simp at hc
      tauto
  rcases hparts with hc | hc | rfl | rfl | rfl
  · exact h.solid c hc
  · exact isBlank_of_isDigit (Text.isDigit_of_mem_toDigits hc)
  all_goals rfl

/-! ### Reading -/

theorem splitAddress?_bracket (cs : List Char) :
    splitAddress? ('[' :: cs) = (Text.splitFirst? (· == ']') cs).bind fun (host, rest) =>
      match rest with
      | [] => some (host, defaultPort)
      | ':' :: port => (port? port).map (host, ·)
      | _ => none := rfl

theorem splitAddress?_of_not_bracket (h : cs.head? ≠ some '[') :
    splitAddress? cs =
      if 1 < cs.count ':' then some (cs, defaultPort)
      else
        match Text.splitLast? (· == ':') cs with
        | some (host, port) => (port? port).map (host, ·)
        | none => some (cs, defaultPort) := by
  unfold splitAddress?
  split
  · simp at h
  · rfl

theorem splitAddress?_of_colon (hport : port ≤ Text.wordLimit) (hclose : ']' ∉ host) :
    splitAddress? ('[' :: (host ++ ']' :: ':' :: Nat.toDigits 10 port)) = some (host, port) := by
  have hsplit : Text.splitFirst? (· == ']') (host ++ ']' :: ':' :: Nat.toDigits 10 port) =
      some (host, ':' :: Nat.toDigits 10 port) := by
    apply Text.splitFirst?_append
    · exact fun x hx => beq_false_of_ne fun h => hclose (h ▸ hx)
    · rfl
  rw [splitAddress?_bracket, hsplit]
  simp [port?_toDigits hport]

theorem splitAddress?_of_not_colon (hport : port ≤ Text.wordLimit) (hcolon : ':' ∉ host)
    (hhead : (host ++ ':' :: Nat.toDigits 10 port).head? ≠ some '[') :
    splitAddress? (host ++ ':' :: Nat.toDigits 10 port) = some (host, port) := by
  have hdigits : ':' ∉ Nat.toDigits 10 port := not_mem_toDigits rfl
  have hcount : (host ++ ':' :: Nat.toDigits 10 port).count ':' = 1 := by
    rw [List.count_append, List.count_cons_self, List.count_eq_zero_of_not_mem hcolon,
      List.count_eq_zero_of_not_mem hdigits]
  have hsplit : Text.splitLast? (· == ':') (host ++ ':' :: Nat.toDigits 10 port) =
      some (host, Nat.toDigits 10 port) := by
    apply Text.splitLast?_append
    · exact fun x hx => beq_false_of_ne fun h => hdigits (h ▸ hx)
    · rfl
  rw [splitAddress?_of_not_bracket hhead, if_neg (by omega), hsplit]
  simp [port?_toDigits hport]

theorem Valid.splitAddress?_addressText (h : Valid host port) (hu : Unambiguous host) :
    splitAddress? (addressText host port) = some (host, port) := by
  unfold Unambiguous at hu
  split at hu
  · next hcolon =>
      rw [addressText_of_colon hcolon]
      exact splitAddress?_of_colon h.port_le hu
  · next hcolon =>
      rw [addressText_of_not_colon hcolon]
      apply splitAddress?_of_not_colon h.port_le hcolon
      cases host with
      | nil => exact absurd rfl h.host_ne
      | cons c host => exact hu

theorem Valid.address?_of_splitAddress? (h : Valid host port)
    (hsplit : splitAddress? cs = some (host, port)) : address? cs = some (host, port) := by
  have hsolid := h.solid
  simp [address?, hsplit, Text.trim_eq_self h.solid, h.host_ne, h.port_ne]
  exact hsolid

/-- A valid host without ambiguity is read back from what is written for it. -/
theorem Valid.address?_addressText (h : Valid host port) (hu : Unambiguous host) :
    address? (addressText host port) = some (host, port) :=
  h.address?_of_splitAddress? (h.splitAddress?_addressText hu)

/-- The host of an address is what stands in its first brackets, or a text at its
beginning. -/
theorem splitAddress?_cases (h : splitAddress? cs = some (host, port)) :
    port ≤ Text.wordLimit ∧
      ((∃ rest, cs = '[' :: (host ++ ']' :: rest) ∧ ']' ∉ host) ∨
        cs.head? ≠ some '[' ∧ host <+: cs) := by
  have hdefault : defaultPort ≤ Text.wordLimit := by decide
  by_cases hhead : cs.head? = some '['
  · obtain ⟨inner, rfl⟩ := List.head?_eq_some_iff.mp hhead
    rw [splitAddress?_bracket] at h
    obtain ⟨⟨inside, rest⟩, hsplit, hrest⟩ := Option.bind_eq_some_iff.mp h
    obtain ⟨c, hc, rfl, hinside⟩ := Text.eq_append_of_splitFirst? hsplit
    obtain rfl : c = ']' := by simpa using hc
    have hclose : ']' ∉ inside := fun hmem => by simpa using hinside ']' hmem
    dsimp only at hrest
    split at hrest
    · cases hrest
      exact ⟨hdefault, .inl ⟨_, rfl, hclose⟩⟩
    · obtain ⟨n, hn, he⟩ := Option.map_eq_some_iff.mp hrest
      cases he
      exact ⟨Text.number?_le hn, .inl ⟨_, rfl, hclose⟩⟩
    · cases hrest
  · rw [splitAddress?_of_not_bracket hhead] at h
    split at h
    · cases h
      exact ⟨hdefault, .inr ⟨hhead, List.prefix_rfl⟩⟩
    · split at h
      · next before after hsplit =>
          obtain ⟨n, hn, he⟩ := Option.map_eq_some_iff.mp h
          cases he
          obtain ⟨c, rfl⟩ := Text.eq_append_of_splitLast? hsplit
          exact ⟨Text.number?_le hn, .inr ⟨hhead, List.prefix_append _ _⟩⟩
      · cases h
        exact ⟨hdefault, .inr ⟨hhead, List.prefix_rfl⟩⟩

theorem eq_trim_of_address? (h : address? cs = some (host, port)) :
    Valid host port ∧ ∃ outer, splitAddress? cs = some (outer, port) ∧ host = Text.trim outer := by
  rw [address?] at h
  obtain ⟨⟨outer, n⟩, hsplit, h⟩ := Option.bind_eq_some_iff.mp h
  dsimp only at h
  split at h
  · cases h
  · next hchecks =>
      cases h
      simp only [Bool.or_eq_true, List.isEmpty_iff, beq_iff_eq, List.any_eq_true, not_or,
        not_exists, not_and, Bool.not_eq_true] at hchecks
      obtain ⟨⟨hne, hport⟩, hsolid⟩ := hchecks
      exact ⟨⟨hne, hsolid, hport, (splitAddress?_cases hsplit).1⟩, outer, hsplit, rfl⟩

/-- A host that was read and begins like one in brackets was in brackets. -/
theorem not_mem_of_address?_trim (h : address? (Text.trim cs) = some (host, port))
    (hhead : host.head? = some '[') : ']' ∉ host := by
  obtain ⟨hvalid, outer, hsplit, rfl⟩ := eq_trim_of_address? h
  rcases (splitAddress?_cases hsplit).2 with ⟨rest, -, hclose⟩ | ⟨hfree, hprefix⟩
  · exact fun hmem => hclose (Text.mem_of_mem_trim hmem)
  · exfalso
    obtain ⟨after, hafter⟩ := hprefix
    cases outer with
    | nil => exact hvalid.host_ne rfl
    | cons c outer =>
        have hfirst : (Text.trim cs).head? = some c := by rw [← hafter]; rfl
        have hc : Text.isBlank c = false := Text.isBlank_head?_trim hfirst
        rw [Text.head?_trim rfl hc] at hhead
        cases hhead
        exact hfree hfirst

theorem port?_eq_none (h : ']' ∈ cs) : port? cs = none :=
  Text.number?_eq_none (Text.mem_trim h rfl) rfl (by decide) _

theorem splitAddress?_of_close (h : ']' ∈ host) :
    splitAddress? ('[' :: (host ++ ']' :: ':' :: Nat.toDigits 10 port)) = none := by
  obtain ⟨inside, after, rfl, hinside⟩ := List.eq_append_cons_of_mem h
  have hsplit : Text.splitFirst? (· == ']')
      (inside ++ ']' :: (after ++ ']' :: ':' :: Nat.toDigits 10 port)) =
      some (inside, after ++ ']' :: ':' :: Nat.toDigits 10 port) := by
    apply Text.splitFirst?_append
    · exact fun x hx => beq_false_of_ne fun h => hinside (h ▸ hx)
    · rfl
  rw [List.append_assoc, List.cons_append, splitAddress?_bracket, hsplit, Option.bind_some]
  dsimp only
  -- What follows on the first bracket is no port, since another bracket comes.
  split
  · next hnil => simp at hnil
  · next digits hdigits =>
      rw [port?_eq_none, Option.map_none]
      cases after with
      | nil => simp at hdigits
      | cons c after =>
          simp only [List.cons_append, List.cons.injEq] at hdigits
          rw [← hdigits.2]
          simp
  · rfl

theorem splitAddress?_of_open {host : List Char} (h : ']' ∉ host) :
    splitAddress? ('[' :: (host ++ ':' :: Nat.toDigits 10 port)) = none := by
  have hsplit : Text.splitFirst? (· == ']') (host ++ ':' :: Nat.toDigits 10 port) = none := by
    apply Text.splitFirst?_eq_none
    intro c hc
    apply beq_false_of_ne
    rintro rfl
    have hdigits : ']' ∉ Nat.toDigits 10 port := not_mem_toDigits rfl
    simp [h, hdigits] at hc
  rw [splitAddress?_bracket, hsplit, Option.bind_none]

/-- An ambiguous host that was read once is not read again. -/
theorem address?_addressText_eq_none (hu : ¬Unambiguous host)
    (hclose : host.head? = some '[' → ']' ∉ host) : address? (addressText host port) = none := by
  have hsplit : splitAddress? (addressText host port) = none := by
    unfold Unambiguous at hu
    split at hu
    · next hcolon =>
        rw [addressText_of_colon hcolon]
        exact splitAddress?_of_close (not_not.mp hu)
    · next hcolon =>
        rw [addressText_of_not_colon hcolon]
        obtain ⟨inner, rfl⟩ := List.head?_eq_some_iff.mp (not_not.mp hu)
        exact splitAddress?_of_open fun hmem =>
          hclose rfl (List.mem_cons_of_mem _ hmem)
  rw [address?, hsplit]
  rfl

/-! ### Targets -/

theorem parse_text_telnet {host : String} (h : Valid host.toList port) :
    parse (telnet host port).text =
      match address? (addressText host.toList port) with
      | some (host, port) => .ok (.telnet (String.ofList host) port)
      | none => .error (.invalidAddress (telnet host port).text) := by
  have htrim : Text.trim (telnet host port).text.toList = addressText host.toList port := by
    rw [text, String.toList_ofList]
    exact Text.trim_eq_self fun c => h.isBlank_addressText
  rw [parse, htrim]
  rfl

/-- What is read from an address is a host and a port. Written again it is read as
the same target if the host is unambiguous, and refused if not. -/
theorem parse_text_of_parse {entry : String} {t : Target} (h : parse entry = .ok t) :
    ∃ host port, t = .telnet host port ∧
      parse t.text =
        if Unambiguous host.toList then .ok t else .error (.invalidAddress t.text) := by
  rw [parse] at h
  split at h
  · next host port haddress =>
      cases h
      have hvalid : Valid host port := (eq_trim_of_address? haddress).1
      refine ⟨String.ofList host, port, rfl, ?_⟩
      rw [parse_text_telnet (by rwa [String.toList_ofList]), String.toList_ofList]
      split_ifs with hu
      · rw [hvalid.address?_addressText hu]
      · rw [address?_addressText_eq_none hu (not_mem_of_address?_trim haddress)]
  · cases h

/-- Blanks around and inside the brackets. -/
theorem parse_text_of_parse_blanks :
    parse " [ fe80::1%eth0 ]: +2323 " = .ok (.telnet "fe80::1%eth0" 2323) ∧
      parse (telnet "fe80::1%eth0" 2323).text = .ok (.telnet "fe80::1%eth0" 2323) := by
  have hparse : parse " [ fe80::1%eth0 ]: +2323 " = .ok (.telnet "fe80::1%eth0" 2323) := by
    decide +kernel
  obtain ⟨host, port, ht, hreparse⟩ := parse_text_of_parse hparse
  cases ht
  exact ⟨hparse, hreparse⟩

/-- A bare host with several colons may end in a bracket. In the written form that
bracket closes the host too early. -/
theorem parse_text_close_bracket :
    parse "::1]" = .ok (.telnet "::1]" 23) ∧
      parse (telnet "::1]" 23).text = .error (.invalidAddress "[::1]]:23") := by
  decide +kernel

/-! ### Hosts -/

theorem unambiguous_iff :
    Unambiguous host ↔
      (':' ∈ host ∧ ']' ∉ host) ∨ (':' ∉ host ∧ host.head? ≠ some '[') := by
  unfold Unambiguous
  split
  · next hcolon => simp [hcolon]
  · next hcolon => simp [hcolon]

theorem valid_iff_of_le (h : port ≤ Text.wordLimit) :
    Valid host port ↔ port ≠ 0 ∧ host ≠ [] ∧ ∀ c ∈ host, Text.isBlank c = false := by
  constructor
  · intro hvalid
    exact ⟨hvalid.port_ne, hvalid.host_ne, hvalid.solid⟩
  · rintro ⟨hport, hhost, hsolid⟩
    exact ⟨hhost, hsolid, hport, h⟩

theorem address?_of_parse {entry host : String} (h : parse entry = .ok (.telnet host port)) :
    address? (Text.trim entry.toList) = some (host.toList, port) := by
  rw [parse] at h
  split at h
  · next cs n haddress =>
      cases h
      rwa [String.toList_ofList]
  · cases h

/-- Whatever a host and a port are, their written form is read as the two again
exactly if an address can name the port and the host, and the host is unambiguous. -/
theorem parse_text_telnet_iff (host : String) (port : UInt16) :
    parse (telnet host port.toNat).text = .ok (.telnet host port.toNat) ↔
      port ≠ 0 ∧ host ≠ "" ∧ (∀ c ∈ host.toList, Text.isBlank c = false) ∧
        ((':' ∈ host.toList ∧ ']' ∉ host.toList) ∨
          (':' ∉ host.toList ∧ host.toList.head? ≠ some '[')) := by
  have hword : port.toNat ≤ Text.wordLimit := Nat.le_of_lt_succ port.toNat_lt
  have hvalid : Valid host.toList port.toNat ↔
      port ≠ 0 ∧ host ≠ "" ∧ ∀ c ∈ host.toList, Text.isBlank c = false := by
    have hport : port.toNat ≠ 0 ↔ port ≠ 0 := by
      rw [ne_eq, ne_eq, ← UInt16.toNat_inj, UInt16.toNat_zero]
    have hhost : host.toList ≠ [] ↔ host ≠ "" := not_congr String.toList_eq_nil_iff
    rw [valid_iff_of_le hword, hport, hhost]
  suffices hread : parse (telnet host port.toNat).text = .ok (.telnet host port.toNat) ↔
      Valid host.toList port.toNat ∧ Unambiguous host.toList by
    rw [hread, hvalid, unambiguous_iff]
    simp only [and_assoc]
  constructor
  · intro h
    have haddress := address?_of_parse h
    have hsound : Valid host.toList port.toNat := (eq_trim_of_address? haddress).1
    refine ⟨hsound, ?_⟩
    by_contra hambiguous
    -- What was read begins with a bracket only if no bracket closes it.
    have hnone : address? (addressText host.toList port.toNat) = none :=
      address?_addressText_eq_none hambiguous (not_mem_of_address?_trim haddress)
    rw [parse_text_telnet hsound, hnone] at h
    cases h
  · rintro ⟨hsound, hclear⟩
    rw [parse_text_telnet hsound, hsound.address?_addressText hclear]
    dsimp only
    rw [String.ofList_toList]

/-- A host in brackets without a colon is read, but as what is inside of them. -/
example : parse (telnet "[a]" 23).text = .ok (.telnet "a" 23) := by decide +kernel

end DasherTerminal.Target
