import DasherTerminal.Shell.Program

/-!
# The shell's own commands

The commands that a shell does itself, as far as they need no other command to be
done. Each gives a status, or a complaint that also ends the shell if the command
is a special one.
-/

namespace DasherTerminal.Shell

namespace Builtin

/-- What comes of a command: a status or a complaint. -/
abbrev Outcome := Except Chars Nat

abbrev Body := List Chars → Run Outcome

/-- The commands whose complaints end the shell, and whose assignments stay. -/
def special : List String :=
  [".", ":", "break", "continue", "eval", "exec", "exit", "export", "local", "readonly", "return",
    "set", "shift", "times", "trap", "unset"]

def regular : List String :=
  ["[", "alias", "bg", "cd", "chdir", "command", "echo", "false", "fg", "getopts", "hash", "jobs",
    "kill", "printf", "pwd", "read", "test", "true", "type", "ulimit", "umask", "unalias", "wait"]

def isSpecial (name : Chars) : Bool := special.contains (String.ofList name)

def isBuiltin (name : Chars) : Bool := isSpecial name || regular.contains (String.ofList name)

/-! ### Arguments -/

/-- The options at the start of arguments, by their letters, and what follows. -/
def options (allowed : List Char) : List Chars → Except Chars (List Char × List Chars)
  | [] => .ok ([], [])
  | ['-', '-'] :: rest => .ok ([], rest)
  | ('-' :: c :: cs) :: rest =>
    match (c :: cs).find? fun l => !allowed.contains l with
    | some bad => .error ("Illegal option -".toList ++ [bad])
    | none => (options allowed rest).map fun (ls, rest) => (c :: cs ++ ls, rest)
  | rest => .ok ([], rest)

def number (word : Chars) : Except Chars Nat :=
  match Text.Numeral.digits? 10 word with
  | some (n, []) => .ok n
  | _ => .error ("Illegal number: ".toList ++ word)

def assignment (word : Chars) : Except Chars (Chars × Option Chars) :=
  let name := word.takeWhile (· ≠ '=')
  if isName name then
    .ok (name, if name.length < word.length then some (word.drop (name.length + 1)) else none)
  else .error (name ++ ": bad variable name".toList)

def deliver (name text : Chars) (status : Nat) : Run Outcome := do
  if ← Run.write 1 text then return .ok status
  Run.complain (name ++ ": I/O error".toList)
  return .ok 1

/-! ### Output -/

def echo : Body := fun words => deliver "echo".toList (Format.echo words) 0

def printf : Body := fun words => do
  match options [] words with
  | .error what => return .error what
  | .ok (_, []) => return .error "usage: printf format [arg ...]".toList
  | .ok (_, format :: arguments) =>
    let printed := Format.print format arguments
    for c in printed.complaints do
      Run.complain c
    let status := if !printed.isSound then 2 else if printed.complaints.isEmpty then 0 else 1
    deliver "printf".toList printed.text status

/-! ### Input -/

/-- How much can come in from a console or a text at most. -/
def inputBound : Run Nat := do
  let w ← get
  let typed := w.future.foldl (fun n s =>
    match s with
    | .typed bytes => n + 2 * bytes.length + 1
    | _ => n + 1) (w.console.ready.length + w.console.line.length)
  return w.texts.foldl (fun n t => n + t.2.length) typed + 2

/-- Read a line character by character. A backslash keeps the character after it
from separating fields, and takes a line end away. Tells whether the line ended. -/
def readLine (raw : Bool) : Run (Bool × List Fields.LineChar) := do
  go (← inputBound) false []
where
  /-- The same with at most so many characters, after some that were read. -/
  go : Nat → Bool → List Fields.LineChar → Run (Bool × List Fields.LineChar)
    | 0, _, line => return (false, line.reverse)
    | n + 1, escaped, line => do
      match ← Run.read .shell 0 1 with
      | some [c] =>
        if c = '\x00' then go n escaped line
        else if escaped then go n false (if c = '\n' then line else ⟨c, true⟩ :: line)
        else if c = '\\' && !raw then go n true line
        else if c = '\n' then return (true, line.reverse)
        else go n false (⟨c, false⟩ :: line)
      | _ => return (false, line.reverse)

/-- The options of the reading command: whether backslashes are plain, the prompt,
and the names of variables. -/
def readOptions (raw : Bool) (prompt : Chars) : Nat → List Chars →
    Except Chars (Bool × Chars × List Chars)
  | 0, words => .ok (raw, prompt, words)
  | _ + 1, ['-', '-'] :: rest => .ok (raw, prompt, rest)
  | n + 1, ('-' :: c :: cs) :: rest =>
    let more := if cs.isEmpty then rest else ('-' :: cs) :: rest
    if c = 'r' then readOptions true prompt n more
    else if c = 'p' then
      match cs, rest with
      | [], [] => .error "No arg for -p option".toList
      | [], p :: rest => readOptions raw p n rest
      | _, _ => readOptions raw cs n rest
    else .error ("Illegal option -".toList ++ [c])
  | _ + 1, words => .ok (raw, prompt, words)

def read : Body := fun words => do
  match readOptions false [] (words.flatten.length + 1) words with
  | .error what => return .error what
  | .ok (raw, prompt, names) =>
    if (← Run.channel? 0) = some .console then Run.emit 2 prompt
    if names.isEmpty then return .error "arg count".toList
    let (ended, line) ← readLine raw
    let values := Fields.ofLine (← Run.separators) names.length line
    for (name, value) in names.zip values do
      if !isName name then return .error (name ++ ": bad variable name".toList)
      Run.assign name value
    return .ok (if ended then 0 else 1)

/-! ### Variables -/

def mark (words : List Chars) (f : Variable → Variable) : Run Outcome := do
  match options ['p'] words with
  | .error what => return .error what
  | .ok (_, words) =>
    for word in words do
      match assignment word with
      | .error what => return .error what
      | .ok (name, value) =>
        if let some value := value then Run.assign name value
        Run.change fun s =>
          let old := (s.bindings.lookup name).getD ⟨none, false, false⟩
          { s with bindings := (name, f old) :: s.bindings.filter (·.1 ≠ name) }
    return .ok 0

def unset : Body := fun words => do
  match options ['v', 'f'] words with
  | .error what => return .error what
  | .ok (letters, names) =>
    for name in names do
      if letters.getLast? = some 'f' then
        Run.change fun s => { s with functions := s.functions.filter (·.1 ≠ name) }
      else
        if !isName name then return .error (name ++ ": bad variable name".toList)
        if (((← Run.shell).bindings.lookup name).map (·.constant)) = some true then
          return .error (name ++ ": is read only".toList)
        Run.restore name none
    return .ok 0

/-- Make variables belong to the function that is being done. -/
def localize : Body := fun words => do
  if !(← Run.shell).inFunction then return .error "not in a function".toList
  for word in words do
    match assignment word with
    | .error what => return .error what
    | .ok (name, value) =>
      Run.change fun s => { s with locals := (name, s.bindings.lookup name) :: s.locals }
      if let some value := value then Run.assign name value
  return .ok 0

def shift : Body := fun words => do
  match (words.head?.map number).getD (.ok 1) with
  | .error what => return .error what
  | .ok n =>
    let s ← Run.shell
    if s.arguments.length < n then return .error "can't shift that many".toList
    Run.change fun s => { s with arguments := s.arguments.drop n }
    return .ok 0

/-- The options of a shell in the order in which they are shown, with their long
names. -/
def shellOptions : List (Char × String) :=
  [('u', "nounset"), ('b', "notify"), ('a', "allexport"), ('C', "noclobber"), ('E', "emacs"),
    ('V', "vi"), ('v', "verbose"), ('x', "xtrace"), ('s', "stdin"), ('n', "noexec"),
    ('m', "monitor"), ('i', "interactive"), ('I', "ignoreeof"), ('f', "noglob"), ('e', "errexit")]

def setOption (letter : Char) (on : Bool) : Run Unit :=
  Run.change fun s =>
    { s with options := (shellOptions.map (·.1)).filter fun l =>
        if l = letter then on else s.options.contains l }

/-- Set the options at the start of arguments: the arguments that follow, if there
are any or a mark says so. -/
def setOptions : Nat → List Chars → Run (Except Chars (Option (List Chars)))
  | 0, _ => return .ok none
  | _ + 1, [] => return .ok none
  | n + 1, word :: rest => do
    match word with
    | ['-', '-'] => return .ok (some rest)
    | ['-'] => return .ok (if rest.isEmpty then none else some rest)
    | sign :: c :: cs =>
      if sign ≠ '-' ∧ sign ≠ '+' then return .ok (some (word :: rest))
      if c = 'o' then
        match rest with
        | [] => return .ok none
        | name :: rest =>
          match shellOptions.find? fun o => o.2 == String.ofList name with
          | some (letter, _) =>
            setOption letter (sign = '-')
            setOptions n rest
          | none => return .error ("Illegal option -o ".toList ++ name)
      else
        match (c :: cs).find? fun l => !(shellOptions.map (·.1)).contains l with
        | some bad => return .error ("Illegal option -".toList ++ [bad])
        | none =>
          for letter in c :: cs do
            setOption letter (sign = '-')
          setOptions n rest
    | _ => return .ok (some (word :: rest))

def setAll : Body := fun words => do
  match ← setOptions (words.length + 1) words with
  | .error what => return .error what
  | .ok arguments =>
    if let some arguments := arguments then Run.change fun s => { s with arguments }
    return .ok 0

/-! ### The end of things -/

/-- The status that an argument asks for, or the last one. -/
def statusOf (words : List Chars) : Run (Except Chars Nat) := do
  match words with
  | [] => return .ok (← Run.shell).status
  | word :: _ => return (number word).map (· % 256)

def exit : Body := fun words => do
  match ← statusOf words with
  | .error what => return .error what
  | .ok status =>
    Run.setStatus status
    throw .ended

def leaveFunction : Body := fun words => do
  match ← statusOf words with
  | .error what => return .error what
  | .ok status =>
    Run.setStatus status
    throw .returned

/-- End loops, or begin their next turn. -/
def leave (halt : Nat → Halt) : Body := fun words => do
  match (words.head?.map number).getD (.ok 1) with
  | .error what => return .error what
  | .ok 0 => return .error ("Illegal number: 0".toList)
  | .ok n =>
    let loops := (← Run.shell).loops
    if loops = 0 then return .ok 0
    Run.setStatus 0
    throw (halt (min n loops))

def trapName? (word : Chars) : Option String :=
  let names : List (String × String) :=
    [("0", "EXIT"), ("1", "HUP"), ("2", "INT"), ("3", "QUIT"), ("6", "ABRT"), ("9", "KILL"),
      ("10", "USR1"), ("12", "USR2"), ("13", "PIPE"), ("14", "ALRM"), ("15", "TERM"),
      ("17", "CHLD"), ("18", "CONT"), ("19", "STOP"), ("20", "TSTP"), ("21", "TTIN"),
      ("22", "TTOU"), ("28", "WINCH")]
  let text := String.ofList word
  (names.find? fun (n, s) => text == n || text.toUpper == s || text.toUpper == "SIG" ++ s).map
    (·.2)

def quoted (text : Chars) : Chars :=
  '\'' :: (text.flatMap fun c => if c = '\'' then "'\"'\"'".toList else [c]) ++ ['\'']

def trap : Body := fun words => do
  let words := if words.head? = some ['-', '-'] then words.drop 1 else words
  match words with
  | [] =>
    for (name, action) in (← Run.shell).traps.reverse do
      Run.emit 1 ("trap -- ".toList ++ quoted action ++ ' ' :: name.toList ++ ['\n'])
    return .ok 0
  | first :: rest =>
    let (action, signals) :=
      if rest.isEmpty then (none, words)
      else if first = ['-'] then (none, rest)
      else (some first, rest)
    for word in signals do
      match trapName? word with
      | none =>
        Run.emit 2 ("trap: ".toList ++ word ++ ": bad trap\n".toList)
        return .ok 1
      | some name =>
        Run.change fun s =>
          let others := s.traps.filter (·.1 ≠ name)
          { s with traps := (action.map (name, ·)).toList ++ others }
    return .ok 0

/-- Send a signal, which only the shell itself can get. -/
def kill (shellNumber : Nat) : Body := fun words => do
  let (signal, words) :=
    match words with
    | ['-', 's'] :: name :: rest => (trapName? name, rest)
    | ('-' :: name) :: rest => (trapName? name, rest)
    | _ => (some "TERM", words)
  let mut status := 0
  for word in words do
    if word = (toString shellNumber).toList then
      match signal with
      | none => return .error "invalid signal number or name".toList
      | some name =>
        if name = "EXIT" ∨ name = "CHLD" ∨ name = "WINCH" ∨ name = "CONT" then pure ()
        else
          match (← Run.shell).traps.lookup name with
          | some [] => pure ()
          | some _ => modify fun w => { w with caught := w.caught ++ [name] }
          | none => throw (.killed name)
    else
      Run.complain "No such process\n".toList
      status := 1
  return .ok status

/-! ### Other commands -/

def test (name : Chars) : Body := fun words => do
  match Condition.ofCommand (← Run.outside) name words with
  | .ok result => return .ok (if result then 0 else 1)
  | .error fault => return .error fault.message

/-- Go to another directory. It is only seen whether it is there. -/
def cd : Body := fun words => do
  match words with
  | [] => return .ok 0
  | path :: _ =>
    if Run.askFile (← get).files 'd' path then return .ok 0
    return .error ("can't cd to ".toList ++ path)

/-- What a name stands for, in words and as it is called. Nothing if it stands for
nothing. -/
def describe? (reserved : List String) (name : Chars) : Run (Option (String × Chars)) := do
  let text := String.ofList name
  if reserved.contains text then return some ("is a shell keyword", name)
  if isSpecial name then return some ("is a special shell builtin", name)
  if (← Run.shell).functions.any (·.1 = name) then return some ("is a shell function", name)
  if isBuiltin name then return some ("is a shell builtin", name)
  if Program.known.contains text then
    let path := "/usr/bin/" ++ text
    return some ("is " ++ path, path.toList)
  if text.contains '/' && (Program.find? text).isSome then return some ("is " ++ text, name)
  return none

def type : Body := fun words => do
  let mut status := 0
  for name in words do
    match ← describe? reserved name with
    | some (what, _) => Run.emit 1 (name ++ ' ' :: what.toList ++ ['\n'])
    | none =>
      Run.emit 1 (name ++ ": not found\n".toList)
      status := 127
  return .ok status

/-- What a command of the shell does that needs no other command. -/
def body (name : Chars) : Body :=
  match String.ofList name with
  | "echo" => echo
  | "printf" => printf
  | "read" => read
  | "test" | "[" => test name
  | "false" => fun _ => return .ok 1
  | "exit" => exit
  | "return" => leaveFunction
  | "break" => leave .left
  | "continue" => leave .next
  | "shift" => shift
  | "set" => setAll
  | "unset" => unset
  | "export" => fun words => mark words fun v => { v with exported := true }
  | "readonly" => fun words => mark words fun v => { v with constant := true }
  | "local" => localize
  | "trap" => trap
  | "cd" | "chdir" => cd
  | "type" => type
  | "umask" => fun words => deliver name (if words.isEmpty then "0022\n".toList else []) 0
  | "times" => fun _ => deliver name "0m0.000000s 0m0.000000s\n0m0.000000s 0m0.000000s\n".toList 0
  | _ => fun _ => return .ok 0

end Builtin

end DasherTerminal.Shell
