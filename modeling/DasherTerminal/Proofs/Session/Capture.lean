import Mathlib
import DasherTerminal.Proofs.Session.Looks

/-!
# What a capture holds

While a sink stays open, what is written to it are the pieces for which their
readers found the flag down, whole, once and in order. That does not depend on
where a link leads: a loopback has a reader like any other, and what it brings
back is written too.
-/

namespace DasherTerminal

namespace Files

theorem entry?_put (f : Files) (location : Location) (e : Entry) :
    Files.entry? (f.put location e) location = some e := by
  simp [put, entry?]

def appendAll (f : Files) (location : Location) (pieces : List (List UInt8)) : Option Files :=
  pieces.foldlM (fun f piece => f.append location piece) f

@[simp] theorem appendAll_nil (f : Files) (location : Location) :
    f.appendAll location [] = some f := rfl

theorem appendAll_singleton (f : Files) (location : Location) (piece : List UInt8) :
    f.appendAll location [piece] = f.append location piece := by
  simp [appendAll]

theorem appendAll_append (f : Files) (location : Location) (a b : List (List UInt8)) :
    f.appendAll location (a ++ b) =
      (f.appendAll location a).bind fun f => f.appendAll location b :=
  List.foldlM_append

/-- An ordinary file holds all that was written to it. -/
theorem entry?_appendAll {f f' : Files} {location : Location} {old : List UInt8}
    {pieces : List (List UInt8)} (hfile : f.entry? location = some (.file old))
    (h : f.appendAll location pieces = some f') :
    f'.entry? location = some (.file (old ++ pieces.flatten)) := by
  induction pieces generalizing f old with
  | nil =>
      obtain rfl := Option.some.inj h
      rw [hfile, List.flatten_nil, List.append_nil]
  | cons piece pieces ih =>
      rw [appendAll, List.foldlM_cons, append, hfile] at h
      rw [List.flatten_cons, ← List.append_assoc]
      exact ih (f.entry?_put location _) h

end Files

namespace Session

variable {s : Session}

/-- If the sink is still there, the piece is written to it. -/
theorem append_of_record {location : Location} {piece : List UInt8}
    (h : (s.record piece).capture = some location) :
    s.capture = some location ∧ s.files.append location piece = some (s.record piece).files := by
  unfold record at h ⊢
  split at h
  · next hnone =>
      rw [hnone] at h
      cases h
  · next sink hsink =>
      split at h
      · next files happend =>
          obtain rfl : sink = location := Option.some.inj (hsink.symm.trans h)
          exact ⟨hsink, by simp only [happend]⟩
      · cases h

end Session

namespace Threads

variable {m m' : Threads}

/-! ### What is written -/

/-- The piece that a move of the reader copies. -/
def ReaderMove.copied? (move : ReaderMove) (hand : Hand) : Option (List UInt8) :=
  match move, hand with
  | .copy, .uncopied piece => some piece
  | _, _ => none

def copy? (m : Threads) : Move → Option (List UInt8)
  | .reader move => move.copied? m.hand
  | _ => none

/-- The sink that a move sets. -/
def sink? (m : Threads) : Move → Option Location
  | .request _ (.startCapture path) =>
    match m.session.files.openForWriting path false with
    | .ok (location, _) => some location
    | .error _ => none
  | _ => none

/-- A reader writes what it copies, and nothing else. -/
theorem written_effect {number : Nat} {move : ReaderMove} {hand : Hand} {location : Location}
    (hcapture : (m.effect number move hand).session.capture = some location) :
    m.session.capture = some location ∧
      m.session.files.appendAll location (move.copied? hand).toList =
        some (m.effect number move hand).session.files := by
  unfold effect at hcapture ⊢
  split at hcapture
  · next piece =>
      obtain ⟨hsink, happend⟩ := Session.append_of_record hcapture
      rw [ReaderMove.copied?, Option.toList_some, Files.appendAll_singleton]
      exact ⟨hsink, happend⟩
  · exact ⟨hcapture, rfl⟩
  · next hcopy hprocess =>
      have hnothing : move.copied? hand = none := by
        unfold ReaderMove.copied?
        split
        · exact absurd rfl (hcopy _ rfl)
        · rfl
      rw [hnothing]
      exact ⟨hcapture, rfl⟩

theorem openForWriting_of_sink? {out : Outside} {r : Request}
    (hsink : m.sink? (.request out r) = none) (path : String) (hr : r = .startCapture path) :
    ∃ cause, m.session.files.openForWriting path false = .error cause := by
  rw [hr, sink?] at hsink
  split at hsink
  · cases hsink
  · next cause hcause => exact ⟨cause, hcause⟩

theorem copy?_eq_none {move : Move} (hmove : ∀ move', move ≠ .reader move') :
    m.copy? move = none := by
  cases move with
  | reader move => exact absurd rfl (hmove move)
  | _ => rfl

/-- A move that sets no sink, when a sink is there after it. -/
theorem written_step? {move : Move} {location : Location} (h : m.step? move = some m')
    (hsink : m.sink? move = none) (hcapture : m'.session.capture = some location) :
    m.session.capture = some location ∧
      m.session.files.appendAll location (m.copy? move).toList = some m'.session.files := by
  have hspared : m.session.Spares m'.session → m.copy? move = none →
      m.session.capture = some location ∧
        m.session.files.appendAll location (m.copy? move).toList = some m'.session.files := by
    intro hspares hcopy
    rw [hcopy, Option.toList_none, Files.appendAll_nil, hspares.files]
    refine ⟨?_, rfl⟩
    rcases hspares.capture with hsame | hnone
    · exact hsame ▸ hcapture
    · rw [hnone] at hcapture
      cases hcapture
  cases move with
  | arrival a =>
      obtain ⟨s, hs, rfl⟩ := Option.map_eq_some_iff.mp h
      exact hspared (Session.spares_arrive? hs) rfl
  | merge =>
      obtain ⟨l, hlink, rfl⟩ := Option.map_eq_some_iff.mp h
      exact hspared ⟨rfl, .inl rfl⟩ rfl
  | reader move =>
      rw [step?, readerStep?] at h
      split at h
      · next l hlink =>
          split at h
          · cases h
          · obtain ⟨r, hr, rfl⟩ := Option.map_eq_some_iff.mp h
            exact written_effect hcapture
      · cases h
  | request out r =>
      rw [step?] at h
      split at h
      · cases h
        exact hspared (m.spares_request (openForWriting_of_sink? hsink)) rfl
      · cases h
  | proceed out => exact hspared (spares_rests_proceed? h).1 rfl
  | blinkTimer =>
      cases h
      exact hspared ⟨rfl, .inl rfl⟩ rfl

/-- If no move of a run sets a sink, and a sink is there at its end, it was there
all the time, and what was copied was written to it. -/
theorem written_run {moves : List Move} {location : Location} (hsink : m.seen sink? moves = [])
    (hcapture : (m.run moves).session.capture = some location) :
    m.session.capture = some location ∧
      m.session.files.appendAll location (m.seen copy? moves) =
        some (m.run moves).session.files := by
  induction moves generalizing m with
  | nil => exact ⟨hcapture, rfl⟩
  | cons move moves ih =>
      rw [run_cons, next] at hcapture ⊢
      rw [seen] at hsink ⊢
      split at hsink
      · next m' hstep =>
          obtain ⟨hfirst, hrest⟩ := List.append_eq_nil_iff.mp hsink
          rw [hstep, Option.getD_some] at hcapture ⊢
          obtain ⟨hcapture', hwritten⟩ := ih hrest hcapture
          obtain ⟨hcapture, hcopied⟩ :=
            written_step? hstep (Option.toList_eq_nil_iff.mp hfirst) hcapture'
          refine ⟨hcapture, ?_⟩
          simp only [Files.appendAll_append, hcopied, Option.bind_some, hwritten]
      · next hstep =>
          rw [hstep, Option.getD_none] at hcapture ⊢
          exact ih hsink hcapture

/-! ### What is copied -/

/-- The piece in hand for which the flag was down. -/
def Hand.accepted : Hand → List UInt8
  | .uncopied piece => piece
  | _ => []

def onTime (looks : List Look) : List UInt8 := (looks.filter Look.isOnTime).flatMap Look.piece

theorem onTime_append (a b : List Look) : onTime (a ++ b) = onTime a ++ onTime b := by
  simp [onTime]

/-- A piece for which the flag is down is in hand until it is copied. -/
theorem Reading.Moves.accepted {r r' : Reading} {move : ReaderMove} (h : r.Moves move r') :
    r.hand.accepted ++ (if r.link.stopping then [] else (move.looked? r.hand).getD []) =
      (move.copied? r.hand).getD [] ++ r'.hand.accepted := by
  cases h with
  | read hand => simp [hand, ReaderMove.looked?, ReaderMove.copied?, Hand.accepted]
  | retry => simp [ReaderMove.looked?, ReaderMove.copied?]
  | finish => simp [ReaderMove.looked?, ReaderMove.copied?]
  | discard hand flag =>
      simp [hand, flag, ReaderMove.copied?, Hand.accepted]
  | accept hand flag =>
      simp [hand, flag, ReaderMove.looked?, ReaderMove.copied?, Hand.accepted]
  | drop hand => simp [hand, ReaderMove.looked?, ReaderMove.copied?]
  | take hand => simp [hand, ReaderMove.looked?, ReaderMove.copied?, Hand.accepted]
  | copy hand => simp [hand, ReaderMove.looked?, ReaderMove.copied?, Hand.accepted]
  | process hand => simp [hand, ReaderMove.looked?, ReaderMove.copied?, Hand.accepted]

/-- A piece for which the flag was down is copied before anything else is taken
in hand. -/
theorem copied_step? {move : Move} (h : m.step? move = some m') :
    m.hand.accepted ++ onTime (m.look? move).toList =
      (m.copy? move).toList.flatten ++ m'.hand.accepted := by
  by_cases hmove : ∃ move', move = .reader move'
  · obtain ⟨move', rfl⟩ := hmove
    obtain ⟨l, r, hlink, -, hmoves, -, hhand, -, -⟩ := reader_of_step? h
    have haccepted := hmoves.accepted
    have hlooks : onTime (m.look? (.reader move')).toList =
        if l.stopping then [] else (move'.looked? m.hand).getD [] := by
      rw [look?_reader hlink]
      cases move'.looked? m.hand <;> cases hflag : l.stopping <;>
        simp [onTime, Look.isOnTime]
    have hcopies : (m.copy? (.reader move')).toList.flatten = (move'.copied? m.hand).getD [] := by
      rw [copy?]
      cases move'.copied? m.hand <;> simp
    rw [hlooks, hcopies, hhand]
    exact haccepted
  · have hother : ∀ move', move ≠ .reader move' := fun move' he => hmove ⟨move', he⟩
    rw [look?_eq_none hother, copy?_eq_none hother, (rests_step? h hother).hand_eq]
    exact List.append_nil _

/-- What is looked at on time in a run is what is copied, but for a piece that is
in hand before or after it. -/
theorem copied_run (m : Threads) (moves : List Move) :
    m.hand.accepted ++ onTime (m.seen look? moves) =
      (m.seen copy? moves).flatten ++ (m.run moves).hand.accepted := by
  induction moves generalizing m with
  | nil => simp [seen, onTime]
  | cons move moves ih =>
      rw [seen, seen, run_cons, next]
      cases hstep : m.step? move with
      | none => exact ih m
      | some m' =>
          simp only [Option.getD_some, onTime_append, List.flatten_append]
          rw [← List.append_assoc, copied_step? hstep, List.append_assoc, ih m', List.append_assoc]

/-! ### The capture -/

def ofHost (looks : List Look) : List UInt8 := (looks.filter Look.isOfHost).flatMap Look.piece

/-- To leave some elements out changes nothing exactly if they come to nothing. -/
theorem flatMap_filter_eq_iff {α β : Type} (p : α → Bool) (f : α → List β) (xs : List α) :
    (xs.filter p).flatMap f = xs.flatMap f ↔ ∀ x ∈ xs, p x = false → f x = [] := by
  induction xs with
  | nil => simp
  | cons x xs ih =>
      cases hp : p x with
      | true => simp [hp, ih]
      | false =>
          rw [List.filter_cons_of_neg (by simp [hp]), List.flatMap_cons, List.forall_mem_cons]
          constructor
          · intro heq
            have hshorter : ((xs.filter p).flatMap f).length ≤ (xs.flatMap f).length :=
              (List.filter_sublist.flatMap f).length_le
            have hlength := congrArg List.length heq
            rw [List.length_append] at hlength
            have hnothing : f x = [] := List.eq_nil_of_length_eq_zero (by omega)
            rw [hnothing, List.nil_append] at heq
            exact ⟨fun _ => hnothing, ih.mp heq⟩
          · rintro ⟨hx, hxs⟩
            rw [hx hp, List.nil_append]
            exact ih.mpr hxs

theorem ofHost_eq_onTime_iff (looks : List Look) :
    ofHost looks = onTime looks ↔
      ∀ x ∈ looks, x.late = false → x.target = none → x.piece = [] := by
  have hfilter : ofHost looks =
      ((looks.filter Look.isOnTime).filter fun x => x.target.isSome).flatMap Look.piece := by
    rw [ofHost, List.filter_filter]
    rfl
  rw [hfilter, onTime, flatMap_filter_eq_iff]
  simp [Look.isOnTime]

/-- While no sink is set and the writes succeed, what is written to the sink that
is there are the pieces for which readers found the flag down: whole, once, in
order, and nothing else. Those of hosts are all of them exactly if no loopback
brought anything back. -/
theorem captured_in_order (setup : Terminal.Setup) (encoder : Encoder) (files : Files)
    (before moves : List Move) (location : Location)
    (hsink : ((start (.fresh setup) encoder files).run before).seen sink? moves = [])
    (hcapture : (((start (.fresh setup) encoder files).run before).run moves).session.capture =
      some location) :
    let m := (start (.fresh setup) encoder files).run before
    let m' := m.run moves
    let looks := m.seen look? moves
    let copies := m.seen copy? moves
    m.session.capture = some location ∧
    m.session.files.appendAll location copies = some m'.session.files ∧
    (∀ old, m.session.files.entry? location = some (.file old) →
      m'.session.files.entry? location = some (.file (old ++ copies.flatten))) ∧
    m.hand.accepted ++ onTime looks = copies.flatten ++ m'.hand.accepted ∧
    (∀ i, ∃ new, m'.delivered i = m.delivered i ++ new ∧
      m.pending i ++ new = lookedAt looks i ++ m'.pending i) ∧
    (∀ x ∈ looks, (m'.accounts.map Account.target)[x.link]? = some x.target) ∧
    looks.Pairwise Look.Before ∧
    (m.hand.accepted ++ ofHost looks = copies.flatten ++ m'.hand.accepted ↔
      ∀ x ∈ looks, x.late = false → x.target = none → x.piece = []) := by
  intro m m' looks copies
  have horderly : m.Orderly (.fresh setup) := ((orderly_start _ encoder files).run before).orderly
  have hbefore := (tally_start (.fresh setup) encoder files).run (orderly_start _ encoder files) before
  have htally : m.Tally m' looks := (Tally.refl hbefore.aimed).run horderly moves
  obtain ⟨hthere, hwritten⟩ := written_run hsink hcapture
  have hcopied : m.hand.accepted ++ onTime looks = copies.flatten ++ m'.hand.accepted :=
    m.copied_run moves
  refine ⟨hthere, hwritten, ?_, hcopied, htally.delivered, htally.target, htally.ordered, ?_⟩
  · intro old hfile
    exact Files.entry?_appendAll hfile hwritten
  · rw [← hcopied, List.append_cancel_left_eq]
    exact ofHost_eq_onTime_iff looks

/-- A capture is started before anything else happens. -/
theorem run_startCapture :
    (start (.fresh default) default .empty).run [.request .fair (.startCapture "c")] =
      { start (.fresh default) default .empty with
        session := { (start (.fresh default) default .empty).session with
          files := ⟨[(.here ["c"], .file [])]⟩
          capture := some (.here ["c"]) } } := by
  have hopen : Files.empty.openForWriting "c" false =
      .ok (.here ["c"], ⟨[(.here ["c"], .file [])]⟩) := by
    cbv
  have hfree : (start (.fresh default) default .empty).task = .free := rfl
  have hfiles : (start (.fresh default) default .empty).session.files = .empty := rfl
  rw [run_cons, run_nil, next, step?, if_pos hfree, Option.getD_some,
    request_eq_undergo _ _ rfl, Session.perform, Session.startCapture, hfiles, hopen]
  rfl

/-- A host is there, and leaves: the last of its pieces comes late. -/
def hostLeft : List Move :=
  [.request .fair (.connect (.telnet "mv" 23)), .proceed .fair, .proceed .fair, .proceed .fair,
    .reader .finish, .proceed .fair, .proceed .fair,
    .arrival (.bytes [0x41, 0x42]), .reader (.read 2), .reader .look, .reader .copy,
    .reader .look, .reader .process, .reader .look, .reader .process,
    .arrival (.bytes [0x43]), .reader (.read 1),
    .request .fair .disconnect, .proceed .fair, .proceed .fair, .reader .look]

theorem captured_in_order_hostLeft :
    let m := (start (.fresh default) default .empty).run [.request .fair (.startCapture "c")]
    m.seen sink? hostLeft = [] ∧
      (m.run hostLeft).session.capture = some (.here ["c"]) ∧
      m.seen look? hostLeft =
        [⟨1, some (.telnet "mv" 23), [0x41, 0x42], false⟩,
          ⟨1, some (.telnet "mv" 23), [0x43], true⟩] ∧
      Files.entry? (m.run hostLeft).session.files (.here ["c"]) = some (.file [0x41, 0x42]) := by
  intro m
  have hm : m = _ := run_startCapture
  have hsink : m.seen sink? hostLeft = [] := by
    rw [hm]
    decide +kernel
  have hcapture : (m.run hostLeft).session.capture = some (.here ["c"]) := by
    rw [hm]
    decide +kernel
  have hfile : m.session.files.entry? (.here ["c"]) = some (.file []) := by
    rw [hm]
    decide +kernel
  have hcopies : m.seen copy? hostLeft = [[0x41, 0x42]] := by
    rw [hm]
    decide +kernel
  have hlooks : m.seen look? hostLeft =
      [⟨1, some (.telnet "mv" 23), [0x41, 0x42], false⟩,
        ⟨1, some (.telnet "mv" 23), [0x43], true⟩] := by
    rw [hm]
    decide +kernel
  obtain ⟨-, -, hwritten, -⟩ :=
    captured_in_order default default .empty [.request .fair (.startCapture "c")] hostLeft
      (.here ["c"]) hsink hcapture
  have hfile' := hwritten [] hfile
  rw [hcopies] at hfile'
  exact ⟨hsink, hcapture, hlooks, hfile'⟩

/-- Without a host what is typed comes back, and is written to the sink. -/
theorem echo_captured :
    let m := (start (.fresh default) default .empty).run [.request .fair (.startCapture "c")]
    let moves : List Move :=
      [.request .fair (.sendBytes [0x41]), .reader (.read 1), .reader .look, .reader .copy]
    m.hand = .empty ∧ m.seen sink? moves = [] ∧
      (m.run moves).session.capture = some (.here ["c"]) ∧
      m.seen look? moves = [⟨0, none, [0x41], false⟩] ∧ ofHost (m.seen look? moves) = [] ∧
      m.session.files.entry? (.here ["c"]) = some (.file []) ∧
      Files.entry? (m.run moves).session.files (.here ["c"]) = some (.file [0x41]) := by
  rw [run_startCapture]
  decide +kernel

end Threads

end DasherTerminal
