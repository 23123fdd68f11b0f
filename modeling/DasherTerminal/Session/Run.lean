import DasherTerminal.Session.Basic

/-!
# Runs of a session

A session lives through events in any order: requests of the user with an
outside of their own, arrivals from the host and single steps of the reader.
Runs are events one after another, so a run is cut anywhere without a
difference.
-/

namespace DasherTerminal

inductive Event where
  /-- The user asks for something; the outside says how calls turn out. -/
  | request (out : Outside) (r : Request)
  | arrival (a : Arrival)
  | readerStep
  | blinkTimer

namespace Session

/-- The session after an event. Nothing arrives for a reader that does not wait,
and a reader that has nothing to do makes no step. -/
def next (s : Session) : Event → Session
  | .request out r => (s.perform out r).2
  | .arrival a => (s.arrive? a).getD s
  | .readerStep => s.readerStep?.getD s
  | .blinkTimer => s.tickBlink

def run (s : Session) (events : List Event) : Session := events.foldl next s

@[simp] theorem run_nil (s : Session) : s.run [] = s := rfl

@[simp] theorem run_cons (s : Session) (e : Event) (events : List Event) :
    s.run (e :: events) = (s.next e).run events := rfl

theorem run_append (s : Session) (a b : List Event) : s.run (a ++ b) = (s.run a).run b := by
  simp [run]

end Session

end DasherTerminal
