import DasherTerminal.Protocol.Token
import DasherTerminal.Proofs.Protocol.Decoder

/-!
# The grammar of the host protocol

The decoder takes a stream byte by byte; the grammar cuts it into tokens first
and lets them act one after another. Both come to the same screen, the same
notifications and the same answers, and the decoder waits for exactly what the
last token lacks.
-/

namespace DasherTerminal

namespace Screen

/-! ### The size and the model stay -/

structure SameKind (s t : Screen) : Prop where
  size : t.size = s.size
  model : t.model = s.model

theorem SameKind.trans {s t u : Screen} (h : s.SameKind t) (h' : t.SameKind u) : s.SameKind u :=
  ⟨h'.size.trans h.size, h'.model.trans h.model⟩

variable (s : Screen)

theorem sameKind_setBlinkEnabled (on : Bool) : s.SameKind (s.setBlinkEnabled on) := by
  unfold setBlinkEnabled
  split <;> exact ⟨rfl, rfl⟩

theorem sameKind_newLine : s.SameKind s.newLine := by
  unfold newLine
  split
  · exact ⟨rfl, rfl⟩
  · split <;> exact ⟨rfl, rfl⟩

theorem sameKind_right : s.SameKind s.right := by
  unfold right
  split <;> exact ⟨rfl, rfl⟩

theorem sameKind_put (code : UInt8) : s.SameKind (s.put code) := by
  have hwrite : s.SameKind (s.write s.cursor.col s.cursor.row ⟨code, s.attributes⟩) := ⟨rfl, rfl⟩
  refine hwrite.trans ?_
  unfold put advance
  split
  · exact ⟨rfl, rfl⟩
  · exact sameKind_newLine _

end Screen

namespace Decoder

theorem sameKind_effect (policy : AttributeOffPolicy) (byte : UInt8) (s : Screen) :
    s.SameKind (effect policy byte s) := by
  unfold effect
  split
  case h_1 | h_2 => exact s.sameKind_setBlinkEnabled _
  case h_4 => exact s.sameKind_newLine
  case h_15 => exact s.sameKind_right
  case h_20 =>
    split
    · exact s.sameKind_put _
    · exact ⟨rfl, rfl⟩
  all_goals exact ⟨rfl, rfl⟩

theorem sameKind_effectWith (op : Opcode) (given : List UInt8) (s : Screen) :
    s.SameKind (effectWith op given s) := by
  unfold effectWith
  split
  · split <;> exact ⟨rfl, rfl⟩
  · split
    · exact ⟨rfl, rfl⟩
    · split <;> exact ⟨rfl, rfl⟩
  · exact ⟨rfl, rfl⟩

theorem sameKind_step (d : Decoder) (s : Screen) (byte : UInt8) :
    s.SameKind (d.step s byte).2 := by
  unfold step
  split
  · unfold dispatch
    split
    · exact ⟨rfl, rfl⟩
    · exact sameKind_effect _ byte s
  · dsimp only
    split
    · exact ⟨rfl, rfl⟩
    · exact sameKind_effectWith _ _ s

/-- Nothing that a host sends gives the screen another size or another model. -/
theorem sameKind_run (d : Decoder) (s : Screen) (bytes : List UInt8) :
    s.SameKind (d.run s bytes).2 := by
  induction bytes generalizing d s with
  | nil => exact ⟨rfl, rfl⟩
  | cons byte bytes ih =>
      rw [run_cons]
      exact (d.sameKind_step s byte).trans (ih _ _)

end Decoder

/-- The byte that a code with arguments is written as. -/
def Opcode.code : Opcode → UInt8
  | .cursorAddress => 0o20
  | .command => 0o36

namespace Token

/-- The tokens of streams to a given model. -/
def IsToken (model : Model) : Token → Prop
  | code byte => Decoder.opcode? model byte = none
  | address _ _ => True
  | command _ => model.hasCommandPrefix = true

/-- The beginnings of tokens that need more bytes. -/
inductive IsUnfinished (model : Model) : List UInt8 → Prop
  | nothing : IsUnfinished model []
  | address : IsUnfinished model [0o20]
  | column (col : UInt8) : IsUnfinished model [0o20, col]
  | command (known : model.hasCommandPrefix = true) : IsUnfinished model [0o36]

theorem isToken_of_mem_cut {model : Model} {stream : List UInt8} {t : Token}
    (ht : t ∈ (cut model.hasCommandPrefix stream).1) : t.IsToken model := by
  fun_induction cut model.hasCommandPrefix stream with
  | case1 => simp at ht
  | case2 b h => simp at ht
  | case3 b h =>
      obtain rfl := List.mem_singleton.mp ht
      simp only [not_or] at h
      simp [IsToken, Decoder.opcode?, h]
  | case4 c => simp at ht
  | case5 c d rest ih =>
      rcases List.mem_cons.mp ht with rfl | ht
      · trivial
      · exact ih ht
  | case6 b c rest hb h ih =>
      rcases List.mem_cons.mp ht with rfl | ht
      · exact h.2
      · exact ih ht
  | case7 b c rest hb h ih =>
      rcases List.mem_cons.mp ht with rfl | ht
      · simp [IsToken, Decoder.opcode?, hb, h]
      · exact ih ht

theorem isUnfinished_cut (model : Model) (stream : List UInt8) :
    IsUnfinished model (cut model.hasCommandPrefix stream).2 := by
  fun_induction cut model.hasCommandPrefix stream with
  | case1 => exact .nothing
  | case2 b h =>
      rcases h with rfl | ⟨rfl, known⟩
      · exact .address
      · exact .command known
  | case3 b h => exact .nothing
  | case4 c => exact .column c
  | case5 c d rest ih => exact ih
  | case6 b c rest hb h ih => exact ih
  | case7 b c rest hb h ih => exact ih

end Token

namespace Decoder

/-- A decoder that has been told what a token tells and asks. -/
def report (d : Decoder) (model : Model) (t : Token) : Decoder :=
  { d with
    notifications := d.notifications ++ t.notifications
    responses := d.responses ++ t.responses model }

variable {d : Decoder} {s : Screen}

theorem effectWith_address (policy : AttributeOffPolicy) (col row : UInt8) :
    effectWith .cursorAddress [col, row] s = (Token.address col row).effect policy s := by
  simp only [effectWith, coordinate?, Token.effect]
  by_cases hcol : 1 ≤ col.toNat ∧ col.toNat ≤ s.size.cols
  · by_cases hrow : 1 ≤ row.toNat ∧ row.toNat ≤ s.size.lines
    · have hx : min (col.toNat - 1) (s.size.cols - 1) = col.toNat - 1 := by omega
      have hy : min (row.toNat - 1) (s.size.lines - 1) = row.toNat - 1 := by omega
      simp [hcol, hrow, Screen.moveTo, hx, hy]
    · have hnot : ¬(1 ≤ col.toNat ∧ col.toNat ≤ s.size.cols ∧ 1 ≤ row.toNat ∧
          row.toNat ≤ s.size.lines) := fun h => hrow h.2.2
      simp only [if_pos hcol, if_neg hrow, if_neg hnot]
  · have hnot : ¬(1 ≤ col.toNat ∧ col.toNat ≤ s.size.cols ∧ 1 ≤ row.toNat ∧
        row.toNat ≤ s.size.lines) := fun h => hcol ⟨h.1, h.2.1⟩
    simp only [if_neg hcol, if_neg hnot]

theorem step_code (hidle : d.wait = .idle) {byte : UInt8}
    (h : opcode? s.model byte = none) :
    d.step s byte = (d.report s.model (.code byte), effect d.policy byte s) := by
  have hstep : d.step s byte = d.dispatch s byte := by simp [step, hidle]
  rw [hstep, dispatch_of_opcode?_eq_none d h]
  simp [report, Token.notifications, Token.responses]

theorem step_opcode (hidle : d.wait = .idle) {byte : UInt8} {op : Opcode}
    (h : opcode? s.model byte = some op) :
    d.step s byte = ({ d with wait := .arguments op [] }, s) := by
  simp [step, hidle, dispatch, h]

/-- A whole token acts at once, and leaves the decoder idle. -/
theorem run_bytes (hidle : d.wait = .idle) {t : Token} (ht : t.IsToken s.model) :
    d.run s t.bytes = (d.report s.model t, t.effect d.policy s) := by
  cases t with
  | code byte =>
      rw [Token.bytes, run_cons, run_nil, step_code hidle ht]
      rfl
  | address col row =>
      have hop : opcode? s.model 0o20 = some .cursorAddress := rfl
      have hcol : ({ d with wait := .arguments .cursorAddress [] } : Decoder).step s col =
          ({ d with wait := .arguments .cursorAddress [col] }, s) := rfl
      have hrow : ({ d with wait := .arguments .cursorAddress [col] } : Decoder).step s row =
          ({ d with wait := .idle, responses := d.responses ++ [] },
            effectWith .cursorAddress [col, row] s) := rfl
      rw [effectWith_address d.policy, ← hidle] at hrow
      simp only [Token.bytes, run_cons, run_nil, step_opcode hidle hop, hcol, hrow]
      simp [report, Token.notifications, Token.responses]
  | command byte =>
      have hknown : s.model.hasCommandPrefix = true := ht
      have hop : opcode? s.model 0o36 = some .command := by simp [opcode?, hknown]
      have hlast : ({ d with wait := .arguments .command [] } : Decoder).step s byte =
          ({ d with wait := .idle, responses := d.responses ++ answersTo .command [byte] s.model },
            effectWith .command [byte] s) := rfl
      have hanswer : answersTo .command [byte] s.model =
          (Token.command byte).responses s.model := by
        simp [answersTo, Token.responses]
      rw [hanswer, ← hidle] at hlast
      simp only [Token.bytes, run_cons, run_nil, step_opcode hidle hop, hlast]
      simp only [report, Token.notifications, List.append_nil]
      rfl

theorem model_tokenEffect (policy : AttributeOffPolicy) (t : Token) :
    (t.effect policy s).model = s.model := by
  cases t with
  | code byte => exact (sameKind_effect policy byte s).model
  | address col row =>
      rw [← effectWith_address policy]
      exact (sameKind_effectWith _ _ s).model
  | command byte => exact (sameKind_effectWith .command [byte] s).model

theorem model_tokens (policy : AttributeOffPolicy) (tokens : List Token) :
    (tokens.foldl (fun s t => t.effect policy s) s).model = s.model := by
  induction tokens generalizing s with
  | nil => rfl
  | cons t tokens ih => exact ih.trans (model_tokenEffect policy t)

/-- How a stream is cut into chunks makes no difference. -/
theorem run_chunks (d : Decoder) (s : Screen) (chunks : List (List UInt8)) :
    chunks.foldl (fun p chunk => p.1.run p.2 chunk) (d, s) = d.run s chunks.flatten := by
  induction chunks generalizing d s with
  | nil => rfl
  | cons chunk chunks ih =>
      rw [List.foldl_cons, List.flatten_cons, run_append]
      exact ih _ _

theorem run_tokens (hidle : d.wait = .idle) {tokens : List Token}
    (ht : ∀ t ∈ tokens, t.IsToken s.model) :
    d.run s (tokens.flatMap Token.bytes) =
      ({ d with
          notifications := d.notifications ++ tokens.flatMap Token.notifications
          responses := d.responses ++ tokens.flatMap (Token.responses s.model) },
        tokens.foldl (fun s t => t.effect d.policy s) s) := by
  induction tokens generalizing d s with
  | nil => simp
  | cons t tokens ih =>
      have hhead := ht t List.mem_cons_self
      have hmodel := model_tokenEffect (s := s) d.policy t
      have htail : ∀ u ∈ tokens, u.IsToken (t.effect d.policy s).model := by
        intro u hu
        rw [hmodel]
        exact ht u (List.mem_cons_of_mem t hu)
      have hrest := ih (d := d.report s.model t) hidle htail
      rw [List.flatMap_cons, run_append, run_bytes hidle hhead, hrest, hmodel]
      simp [report]

/-- What the decoder waits for after the beginning of a token. -/
def Wait.after : List UInt8 → Wait
  | [] => .idle
  | 0o20 :: given => .arguments .cursorAddress given
  | _ :: given => .arguments .command given

theorem run_unfinished (hidle : d.wait = .idle) {bytes : List UInt8}
    (h : Token.IsUnfinished s.model bytes) :
    d.run s bytes = ({ d with wait := .after bytes }, s) := by
  have hop : opcode? s.model 0o20 = some .cursorAddress := rfl
  cases h with
  | nothing =>
      rw [run_nil, Wait.after, ← hidle]
  | address =>
      rw [run_cons, run_nil, step_opcode hidle hop]
      rfl
  | column col =>
      rw [run_cons, run_cons, run_nil, step_opcode hidle hop]
      rfl
  | command known =>
      have hcommand : opcode? s.model 0o36 = some .command := by simp [opcode?, known]
      rw [run_cons, run_nil, step_opcode hidle hcommand]
      rfl

theorem after_eq_idle_iff {model : Model} {bytes : List UInt8}
    (h : Token.IsUnfinished model bytes) : Wait.after bytes = .idle ↔ bytes = [] := by
  cases h <;> simp [Wait.after]

theorem after_eq_arguments_iff {model : Model} {bytes : List UInt8}
    (h : Token.IsUnfinished model bytes) (op : Opcode) (given : List UInt8) :
    Wait.after bytes = .arguments op given ↔ bytes = op.code :: given := by
  cases h <;> cases op <;> simp [Wait.after, Opcode.code]

/-- Reading byte by byte is reading token by token. -/
theorem run_eq_tokens (hidle : d.wait = .idle) (stream : List UInt8) :
    d.run s stream =
      ({ d with
          wait := .after (Token.cut s.model.hasCommandPrefix stream).2
          notifications := d.notifications ++
            (Token.cut s.model.hasCommandPrefix stream).1.flatMap Token.notifications
          responses := d.responses ++
            (Token.cut s.model.hasCommandPrefix stream).1.flatMap (Token.responses s.model) },
        (Token.cut s.model.hasCommandPrefix stream).1.foldl (fun s t => t.effect d.policy s) s) := by
  have hwhole := Token.flatten_cut s.model.hasCommandPrefix stream
  have hall : ∀ t ∈ (Token.cut s.model.hasCommandPrefix stream).1, t.IsToken s.model :=
    fun t ht => Token.isToken_of_mem_cut ht
  have htokens := run_tokens hidle hall
  have hrest : Token.IsUnfinished ((Token.cut s.model.hasCommandPrefix stream).1.foldl
      (fun s t => t.effect d.policy s) s).model
      (Token.cut s.model.hasCommandPrefix stream).2 := by
    rw [model_tokens]
    exact Token.isUnfinished_cut s.model stream
  conv_lhs => rw [← hwhole, run_append, htokens]
  refine run_unfinished ?_ hrest
  exact hidle

theorem notifications_eq_replicate (tokens : List Token) :
    tokens.flatMap Token.notifications = List.replicate (tokens.count (.code 0o07)) .bell := by
  induction tokens with
  | nil => rfl
  | cons t tokens ih =>
      rw [List.flatMap_cons, ih, List.count_cons]
      by_cases hbell : t = .code 0o07
      · subst hbell
        simp [Token.notifications, List.replicate_succ]
      · have hquiet : t.notifications = [] := by
          cases t <;> simp_all [Token.notifications]
        simp [hquiet, hbell]

theorem responses_eq_replicate (model : Model) (tokens : List Token) :
    tokens.flatMap (Token.responses model) =
      if model.answersModelQuery then
        List.replicate (tokens.count (.command 'C'.toUInt8)) (modelAnswer model)
      else [] := by
  induction tokens with
  | nil => simp
  | cons t tokens ih =>
      rw [List.flatMap_cons, ih, List.count_cons]
      by_cases hquery : t = .command 'C'.toUInt8
      · subst hquery
        cases hasked : model.answersModelQuery <;>
          simp [Token.responses, hasked, List.replicate_succ]
      · have hquiet : t.responses model = [] := by
          cases t <;> simp_all [Token.responses]
        simp [hquiet, hquery]

/-- The decoder implements the grammar: a stream that comes to a fresh decoder
in any chunks has the effects of its tokens, one after another; the decoder then
holds the token that is not finished, a bell for every 007, and on a D211 an
answer for every question. -/
theorem chunks_eq_tokens (policy : AttributeOffPolicy) (s : Screen)
    (chunks : List (List UInt8)) :
    let tokens := (Token.cut s.model.hasCommandPrefix chunks.flatten).1
    let rest := (Token.cut s.model.hasCommandPrefix chunks.flatten).2
    let out := chunks.foldl (fun p chunk => p.1.run p.2 chunk) (fresh policy, s)
    tokens.flatMap Token.bytes ++ rest = chunks.flatten ∧
      out.2 = tokens.foldl (fun s t => t.effect policy s) s ∧
      (out.1.wait = .idle ↔ rest = []) ∧
      (∀ op given, out.1.wait = .arguments op given ↔ rest = op.code :: given) ∧
      out.1.notifications = List.replicate (tokens.count (.code 0o07)) .bell ∧
      out.1.responses =
        if s.model = .d211 then
          List.replicate (tokens.count (.command 'C'.toUInt8))
            [0o36, 'o'.toUInt8, '#'.toUInt8, 0o111, 0o100, 0o101]
        else [] := by
  intro tokens rest out
  have hout : out = (fresh policy).run s chunks.flatten := run_chunks (fresh policy) s chunks
  have hrest := Token.isUnfinished_cut s.model chunks.flatten
  have hanswers := responses_eq_replicate s.model tokens
  rw [run_eq_tokens rfl] at hout
  rw [hout]
  refine ⟨Token.flatten_cut _ _, rfl, after_eq_idle_iff hrest, after_eq_arguments_iff hrest,
    notifications_eq_replicate tokens, ?_⟩
  change tokens.flatMap (Token.responses s.model) = _
  rw [hanswers]
  cases s.model <;> rfl

end Decoder

end DasherTerminal
