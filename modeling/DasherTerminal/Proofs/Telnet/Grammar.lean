import DasherTerminal.Telnet.Item

/-!
# Filtering what a telnet host sends

The items that a host sends come through the filter as their data, and requests
are answered one by one. Where the calls of the filter cut the stream makes no
difference, not even inside a command.
-/

namespace DasherTerminal.Telnet

namespace Phase

/-- What the filter makes of pieces, one call after another. -/
def calls (p : Phase) : List (List UInt8) → List Outcome
  | [] => []
  | piece :: rest => p.run piece :: (p.run piece).phase.calls rest

/-- The phase in which those calls leave the filter. -/
def after (p : Phase) (pieces : List (List UInt8)) : Phase :=
  pieces.foldl (fun q piece => (q.run piece).phase) p

theorem run_flatten (p : Phase) (pieces : List (List UInt8)) :
    p.run pieces.flatten =
      ⟨p.after pieces, (p.calls pieces).flatMap Outcome.data,
        (p.calls pieces).flatMap Outcome.replies⟩ := by
  induction pieces generalizing p with
  | nil => rfl
  | cons piece pieces ih =>
      have hrest := ih (p.run piece).phase
      rw [List.flatten_cons, run_append, hrest]
      rfl

end Phase

namespace Item

theorem run_command {code : UInt8} (plain : isPlainCommand code = true) :
    Phase.data.run [iac, code] = ⟨.data, [], []⟩ := by
  have hplain : (code ≠ iac ∧ code ≠ sb) ∧ Verb.ofByte? code = none := by
    simpa [isPlainCommand] using plain
  obtain ⟨⟨hiac, hsb⟩, hverb⟩ := hplain
  simp [Phase.run, Phase.step, hiac, hsb, hverb]

/-- The option of a request is any byte, also one that means something else
elsewhere. -/
theorem run_request (verb : Verb) (option : UInt8) :
    Phase.data.run [iac, verb.byte, option] = ⟨.data, [], (request verb option).replies⟩ := by
  have hbyte : verb.byte ≠ iac := by
    cases verb <;> decide
  have hrun : Phase.data.run [iac, verb.byte, option] =
      ⟨.data, [], ((answer? verb option).map fun a => [iac, a.byte, option]).getD []⟩ := by
    simp [Phase.run, Phase.step, hbyte]
  rw [hrun]
  cases verb <;> rfl

theorem run_subnegotiation (payload : List UInt8) :
    Phase.data.run ([iac, sb] ++ escape payload ++ [iac, se]) = ⟨.data, [], []⟩ := by
  have hopen : Phase.data.run [iac, sb] = ⟨.subnegotiation, [], []⟩ := by decide
  have hclose : Phase.subnegotiation.run [iac, se] = ⟨.data, [], []⟩ := by decide
  rw [Phase.run_append, Phase.run_append, hopen, run_escape_subnegotiation, hclose]
  rfl

/-- An item leaves the filter as it found it. -/
theorem run_wire (item : Item) :
    Phase.data.run item.wire = ⟨.data, item.content, item.replies⟩ := by
  cases item with
  | data bytes => exact run_escape bytes
  | command code plain => exact run_command plain
  | request verb option => exact run_request verb option
  | subnegotiation payload => exact run_subnegotiation payload

theorem run_wires (items : List Item) :
    Phase.data.run (items.flatMap wire) =
      ⟨.data, items.flatMap content, items.flatMap replies⟩ := by
  induction items with
  | nil => rfl
  | cons item items ih =>
      rw [List.flatMap_cons, Phase.run_append, run_wire, ih]
      rfl

end Item

/-- The filter takes every sequence of items for what it is, in whatever pieces
it comes; what was escaped comes back. -/
theorem calls_of_wires (items : List Item) (pieces : List (List UInt8))
    (hcut : pieces.flatten = items.flatMap Item.wire) :
    (Phase.data.calls pieces).flatMap Outcome.data = items.flatMap Item.content ∧
      (Phase.data.calls pieces).flatMap Outcome.replies = items.flatMap Item.replies ∧
      Phase.data.after pieces = .data ∧
      ∀ bytes : List UInt8, Phase.data.run (escape bytes) = ⟨.data, bytes, []⟩ := by
  have hcalls := Phase.run_flatten .data pieces
  rw [hcut, Item.run_wires] at hcalls
  obtain ⟨hphase, hdata, hreplies⟩ := Outcome.mk.inj hcalls
  exact ⟨hdata.symm, hreplies.symm, hphase.symm, run_escape⟩

/-- A data byte 255, a request about option 255 and a payload with 255 before
240, cut inside every one of them. -/
theorem calls_of_wires_cut :
    let items : List Item :=
      [.data [0x61, 255], .request .will 255, .subnegotiation [24, 255, 240], .command 241 rfl,
        .request .doIt 3, .request .dont 1, .data [0x62]]
    let pieces : List (List UInt8) :=
      [[0x61, 255], [255, 255, 251], [255, 255], [250, 24, 255], [255, 240, 255], [], [240, 255],
        [241, 255, 253], [3, 255, 254], [1, 0x62]]
    pieces.flatten = items.flatMap Item.wire ∧
      (Phase.data.calls pieces).flatMap Outcome.data = [0x61, 255, 0x62] ∧
      (Phase.data.calls pieces).flatMap Outcome.replies = [255, 254, 255, 255, 251, 3] := by
  intro items pieces
  have hcut : pieces.flatten = items.flatMap Item.wire := by decide
  obtain ⟨hdata, hreplies, _, _⟩ := calls_of_wires items pieces hcut
  refine ⟨hcut, ?_, ?_⟩
  · rw [hdata]
    rfl
  · rw [hreplies]
    rfl

end DasherTerminal.Telnet
