import DasherTerminal.Canvas.Paragraph
import DasherTerminal.Link.Status
import DasherTerminal.Model
import DasherTerminal.Screen.Size

/-!
# The status line
-/

namespace DasherTerminal.View

structure StatusInfo where
  status : LinkStatus
  model : Model
  size : ScreenSize
  blinkEnabled : Bool
  capturing : Bool
  template : Option String
  message : Option String
  waiting : Bool
  deriving DecidableEq, Repr

def statusStyle : Style := .colors .white .darkGray

def statusEntries (info : StatusInfo) : List Span :=
  let link := if info.status.isOnline then Color.lightGreen else Color.gray
  [.styled s!" {info.status.icon} {info.status.text} " (statusStyle.withFg link),
    .styled s!"│ {info.model.name} " statusStyle.bold,
    .styled s!"│ {info.size.text} " statusStyle,
    .styled (if info.blinkEnabled then "│ blink on " else "│ blink off ") statusStyle] ++
  (if info.capturing then [.styled "│ REC " (statusStyle.withFg .lightRed).bold] else []) ++
  (info.template.map fun name => Span.styled s!"│ keys: {name} " statusStyle).toList ++
  (info.message.map fun text => Span.styled s!"│ {text} " (statusStyle.withFg .yellow)).toList

def statusHint (waiting : Bool) : Span :=
  if waiting then .styled " ^] … " (.colors .black .cyan)
  else .styled " Ctrl+] ? help " (statusStyle.withFg .gray)

/-- The line for a given width: the hint is at the right end if there is room. -/
def statusSpans (info : StatusInfo) (width : Nat) : Line :=
  let entries := statusEntries info
  let hint := statusHint info.waiting
  let used := entries.foldl (fun n s => n + s.width) hint.width
  entries ++ [⟨List.replicate (width - used) ' ', statusStyle⟩, hint]

def statusLine (info : StatusInfo) (area : Rect) (c : Canvas) : Canvas :=
  (c.restyle area statusStyle).paragraph area [statusSpans info area.width]

end DasherTerminal.View
