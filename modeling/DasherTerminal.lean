import DasherTerminal.Canvas.Basic
import DasherTerminal.Canvas.Frame
import DasherTerminal.Canvas.Paragraph
import DasherTerminal.Canvas.Rect
import DasherTerminal.Canvas.Style
import DasherTerminal.CommandLine.Arguments
import DasherTerminal.CommandLine.Configuration
import DasherTerminal.CommandLine.Help
import DasherTerminal.CommandLine.Opt
import DasherTerminal.Console.Basic
import DasherTerminal.Console.Mode
import DasherTerminal.Console.Setting
import DasherTerminal.Fault
import DasherTerminal.Files.Basic
import DasherTerminal.Files.Path
import DasherTerminal.Input.Action
import DasherTerminal.Input.KeyEvent
import DasherTerminal.Input.Mode
import DasherTerminal.Json.Printer
import DasherTerminal.Json.Reader
import DasherTerminal.Json.Value
import DasherTerminal.Keyboard.Encoder
import DasherTerminal.Keyboard.Key
import DasherTerminal.Keyboard.Table
import DasherTerminal.Keyboard.Template
import DasherTerminal.Link.Loopback
import DasherTerminal.Link.Program
import DasherTerminal.Link.Status
import DasherTerminal.Link.Target
import DasherTerminal.Main
import DasherTerminal.Model
import DasherTerminal.Protocol.Decoder
import DasherTerminal.Protocol.SelfTest
import DasherTerminal.Protocol.Terminal
import DasherTerminal.Protocol.Token
import DasherTerminal.Screen.Attributes
import DasherTerminal.Screen.Basic
import DasherTerminal.Screen.Cell
import DasherTerminal.Screen.Grid
import DasherTerminal.Screen.History
import DasherTerminal.Screen.Size
import DasherTerminal.Screen.Snapshot
import DasherTerminal.Screen.Wrapping
import DasherTerminal.Session.Basic
import DasherTerminal.Session.Outside
import DasherTerminal.Session.Run
import DasherTerminal.Session.Window
import DasherTerminal.Shell.Arithmetic
import DasherTerminal.Shell.Builtin
import DasherTerminal.Shell.Calling
import DasherTerminal.Shell.Condition
import DasherTerminal.Shell.Course
import DasherTerminal.Shell.Execution
import DasherTerminal.Shell.Expansion
import DasherTerminal.Shell.Fields
import DasherTerminal.Shell.Format
import DasherTerminal.Shell.Grammar
import DasherTerminal.Shell.Interactive
import DasherTerminal.Shell.Listing
import DasherTerminal.Shell.Pattern
import DasherTerminal.Shell.Program
import DasherTerminal.Shell.Quoting
import DasherTerminal.Shell.Redirection
import DasherTerminal.Shell.Script
import DasherTerminal.Shell.Source
import DasherTerminal.Shell.Syntax
import DasherTerminal.Shell.Token
import DasherTerminal.Shell.World
import DasherTerminal.Startup
import DasherTerminal.Telnet.Connection
import DasherTerminal.Telnet.Filter
import DasherTerminal.Telnet.Item
import DasherTerminal.Telnet.Reader
import DasherTerminal.Text.Blank
import DasherTerminal.Text.Cluster
import DasherTerminal.Text.Decimal
import DasherTerminal.Text.Numeral
import DasherTerminal.Text.Property
import DasherTerminal.Text.Utf8
import DasherTerminal.Text.Width
import DasherTerminal.View.Crt
import DasherTerminal.View.Dialog
import DasherTerminal.View.Help
import DasherTerminal.View.Layout
import DasherTerminal.View.Legends
import DasherTerminal.View.Scrollback
import DasherTerminal.View.StatusLine
import DasherTerminal.View.TextField
import DasherTerminal.Proofs.Screen.Change
import DasherTerminal.Proofs.Screen.Sound
import DasherTerminal.Proofs.Terminal.Operation
import DasherTerminal.Proofs.Screen.Strict
import DasherTerminal.Proofs.Terminal.Strict
import DasherTerminal.Proofs.Protocol.Grammar
import DasherTerminal.Proofs.Screen.Replica
import DasherTerminal.Proofs.Terminal.Monitor
import DasherTerminal.Proofs.Screen.Page
import DasherTerminal.Proofs.Terminal.Wrapping
import DasherTerminal.Proofs.Terminal.Feed
import DasherTerminal.Proofs.Telnet.Grammar
import DasherTerminal.Proofs.Telnet.Delivery
import DasherTerminal.Proofs.Session.Threads
import DasherTerminal.Proofs.Session.Moves
import DasherTerminal.Proofs.Session.Queue
import DasherTerminal.Proofs.Session.Schedule
import DasherTerminal.Proofs.Session.Reading
import DasherTerminal.Proofs.Session.Order
import DasherTerminal.Proofs.Session.Answers
import DasherTerminal.Proofs.Screen.Scroll
import DasherTerminal.Proofs.Terminal.Footprint
import DasherTerminal.Proofs.Protocol.Effect
import DasherTerminal.Proofs.Terminal.Painting
import DasherTerminal.Proofs.Screen.Row
import DasherTerminal.Proofs.Protocol.Alike
import DasherTerminal.Proofs.Protocol.Reach
import DasherTerminal.Proofs.Protocol.Pattern
import DasherTerminal.Proofs.Terminal.SelfTest
import DasherTerminal.Proofs.Session.Links
import DasherTerminal.Proofs.Terminal.Scrollback
import DasherTerminal.Proofs.Text.Blank
import DasherTerminal.Proofs.Text.Decimal
import DasherTerminal.Proofs.Link.Address
import DasherTerminal.Proofs.Json.Strings
import DasherTerminal.Proofs.Json.Values
import DasherTerminal.Proofs.Keyboard.Template
import DasherTerminal.Proofs.Session.Frame
import DasherTerminal.Proofs.Session.Looks
import DasherTerminal.Proofs.Session.Capture
import DasherTerminal.Proofs.Protocol.Unseen
import DasherTerminal.Proofs.Protocol.Reverse
import DasherTerminal.Proofs.Terminal.Models
import DasherTerminal.Proofs.Terminal.Rendering
import DasherTerminal.Proofs.Session.Overlays
import DasherTerminal.Proofs.Telnet.Exchange
import DasherTerminal.Proofs.Telnet.Settling
import DasherTerminal.Proofs.Link.Loopback
import DasherTerminal.Proofs.Telnet.Refusal
import DasherTerminal.Proofs.Terminal.Mail
import DasherTerminal.Proofs.Session.Polls
import DasherTerminal.Proofs.Keyboard.Bindings
import DasherTerminal.Proofs.Terminal.Switching
import DasherTerminal.Proofs.Session.Entries
import DasherTerminal.Proofs.Text.Utf8
import DasherTerminal.Proofs.View.TextField
import DasherTerminal.Proofs.Keyboard.Echo
import DasherTerminal.Proofs.Canvas.Paragraph
import DasherTerminal.Proofs.Text.Plain
import DasherTerminal.Proofs.View.Spans
import DasherTerminal.Proofs.View.Crt
import DasherTerminal.Proofs.View.Legends
import DasherTerminal.Proofs.View.Scrollback
import DasherTerminal.Proofs.Terminal.Query
import DasherTerminal.Proofs.Session.Echo
import DasherTerminal.Proofs.Screen.Report
import DasherTerminal.Proofs.Session.Sizes
import DasherTerminal.Proofs.View.Dialog
