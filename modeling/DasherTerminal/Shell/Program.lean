import DasherTerminal.Console.Setting
import DasherTerminal.Shell.Condition
import DasherTerminal.Shell.Format
import DasherTerminal.Shell.Listing
import DasherTerminal.Shell.World

/-!
# Programs

The programs of this computer that a shell or a terminal can start. Each gets its
name and its arguments and gives a status. Of most it is only known that they are
there; they show nothing.
-/

namespace DasherTerminal.Shell

namespace Program

def known : List String :=
  ["[", "arch", "awk", "b2sum", "base32", "base64", "basename", "basenc", "bash", "bunzip2",
    "bzcat", "bzip2", "cat", "chcon", "chgrp", "chmod", "chown", "cksum", "clear", "cmp", "comm",
    "cp", "csplit", "cut", "dash", "date", "dd", "df", "diff", "dir", "dircolors", "dirname",
    "dmesg", "dpkg", "du", "echo", "egrep", "env", "expand", "expr", "factor", "false", "fgrep",
    "find", "fmt", "fold", "getconf", "getent", "grep", "groups", "gunzip", "gzip", "head",
    "hostid", "hostname", "id", "infocmp", "install", "ipcs", "join", "kill", "ldd", "link", "ln",
    "locale", "logger", "login", "logname", "ls", "lsblk", "mawk", "md5sum", "mkdir", "mkfifo",
    "mknod", "mktemp", "more", "mount", "mountpoint", "mv", "newgrp", "nice", "nl", "nohup",
    "nproc", "numfmt", "od", "passwd", "paste", "pathchk", "perl", "pinky", "pr", "printenv",
    "printf", "ptx", "pwd", "rbash", "readlink", "realpath", "reset", "rev", "rm", "rmdir",
    "runcon", "script", "sed", "seq", "setsid", "sh", "sha1sum", "sha224sum", "sha256sum",
    "sha384sum", "sha512sum", "shred", "shuf", "sleep", "sort", "split", "stat", "stdbuf", "stty",
    "su", "sum", "sync", "tabs", "tac", "tail", "tar", "tee", "test", "tic", "timeout", "toe",
    "touch", "tput", "tr", "true", "truncate", "tset", "tsort", "tty", "umount", "uname",
    "unexpand", "uniq", "unlink", "users", "vdir", "wall", "wc", "which", "who", "whoami",
    "xargs", "yes", "zcat", "zgrep"]

def find? (name : String) : Option String :=
  known.find? fun k => name == k || name == "/bin/" ++ k || name == "/usr/bin/" ++ k

/-! ### Paths -/

def pathOf (name : Chars) : String :=
  (String.fromUTF8? ⟨(Chars.toBytes name).toArray⟩).getD (String.ofList name)

def reason (fault : SystemFault) : Chars :=
  (((fault.message.splitOn " (os error").head?).getD fault.message).toList

end Program

namespace Run

/-- Where a path leads that stands for a descriptor or the console. -/
def specialChannel? (path : String) : Run (Option (Option Channel)) := do
  match path with
  | "/dev/tty" => return some (some .console)
  | "/dev/stdin" | "/dev/fd/0" => return some (← channel? 0)
  | "/dev/stdout" | "/dev/fd/1" => return some (← channel? 1)
  | "/dev/stderr" | "/dev/fd/2" => return some (← channel? 2)
  | _ => return none

def openInput (name : Chars) : Run (Except SystemFault Channel) := do
  let path := Program.pathOf name
  match ← specialChannel? path with
  | some (some channel) => return .ok channel
  | some none => return .error .notFound
  | none =>
    let files := (← get).files
    match files.locate path with
    | .error fault => return .error fault
    | .ok location =>
      match files.entry? location with
      | some (.file bytes) => return .ok (.text (← newText (.ofBytes bytes)))
      | some .directory => return .error .isDirectory
      | some _ => return .ok .sink
      | none => return .error .notFound

def openOutput (name : Chars) (keep : Bool) : Run (Except SystemFault Channel) := do
  let path := Program.pathOf name
  match ← specialChannel? path with
  | some (some channel) => return .ok channel
  | some none => return .error .notFound
  | none =>
    let w ← get
    match w.files.openForWriting path keep with
    | .error fault => return .error fault
    | .ok (location, files) =>
      set { w with files }
      match files.entry? location with
      | some .sink => return .ok .sink
      | some .full => return .ok .full
      | _ => return .ok (.file location)

def askFile (files : Files) (letter : Char) (name : Chars) : Bool :=
  match (files.locate (Program.pathOf name)).toOption.bind files.entry? with
  | none => false
  | some e =>
    match letter with
    | 'f' => match e with | .file _ => true | _ => false
    | 'd' | 'k' => e == .directory
    | 'c' => e == .sink || e == .full
    | 's' => match e with | .file bytes => !bytes.isEmpty | _ => e == .directory
    | 'e' | 'r' | 'w' | 'O' | 'G' => true
    | 'x' => e == .directory
    | _ => false

def outside : Run Condition.Outside := do
  let w ← get
  return {
    ofFile := askFile w.files
    isConsole := fun n =>
      0 ≤ n && w.shell.descriptors.lookup n.toNat == some .console }

end Run

namespace Program

abbrev Body := Chars → List Chars → Run Nat

def complain (name what : Chars) : Run Unit := Run.emit 2 (name ++ ": ".toList ++ what ++ ['\n'])

def refuse (name : Chars) (what : Chars) : Run Nat := do
  complain name what
  Run.emit 2 ("Try '".toList ++ name ++ " --help' for more information.\n".toList)
  return 1

def refuseOption (name option : Chars) : Run Nat :=
  match option with
  | '-' :: '-' :: _ => refuse name ("unrecognized option '".toList ++ option ++ ['\''])
  | _ => refuse name ("invalid option -- '".toList ++ option.drop 1 ++ ['\''])

def deliver (name text : Chars) (status : Nat) : Run Nat := do
  if ← Run.write 1 text then return status
  complain name "write error: No space left on device".toList
  return 1

def echo : Body := fun name words => do
  let isOption (w : Chars) : Bool :=
    w.head? == some '-' && 2 ≤ w.length && (w.drop 1).all fun c => ['n', 'e', 'E'].contains c
  let letters := (words.takeWhile isOption).flatMap (·.drop 1)
  let words := words.dropWhile isOption
  let escapes := (letters.filter (· ≠ 'n')).getLast? = some 'e'
  let (text, ended) :=
    if escapes then unescape (([' '].intercalate words).length + 1) ([' '].intercalate words)
    else ([' '].intercalate words, false)
  deliver name (if letters.contains 'n' || ended then text else text ++ ['\n']) 0
where
  /-- Replace escapes, also those with hexadecimal digits. -/
  unescape : Nat → Chars → Chars × Bool
    | 0, _ => ([], false)
    | _ + 1, [] => ([], false)
    | n + 1, '\\' :: cs =>
      let next (c : Char) (rest : Chars) : Chars × Bool :=
        let (text, ended) := unescape n rest
        (c :: text, ended)
      match cs with
      | 'c' :: _ => ([], true)
      | 'x' :: rest =>
        let (c, length) := Format.numbered 16 2 rest
        if length = 0 then next '\\' cs else next c (rest.drop length)
      | '0' :: rest =>
        let (c, length) := Format.numbered 8 3 rest
        next c (rest.drop length)
      | _ =>
        let (c, length) := Format.escaped cs
        next c (cs.drop length)
    | n + 1, c :: cs =>
      let (text, ended) := unescape n cs
      (c :: text, ended)

def printf : Body := fun name words => do
  let words := if words.head? = some ['-', '-'] then words.drop 1 else words
  match words with
  | [] => refuse name "missing operand".toList
  | format :: arguments =>
    let printed := Format.print format arguments
    for c in printed.complaints do
      complain name c
    deliver name printed.text (if printed.complaints.isEmpty then 0 else 1)

/-- Read a descriptor to its end and list it. Tells where the listing stands. -/
def list (l : Listing) (p : Listing.Progress) (descriptor : Nat) :
    Run (Option Listing.Progress) := do
  let w ← get
  let typed := w.future.foldl (fun n s =>
    match s with
    | .typed bytes => n + bytes.length + 1
    | _ => n + 1) (w.console.ready.length + w.console.line.length)
  go (typed + 2) p
where
  piece : Nat := 131072
  /-- The same, with at most so many pieces. -/
  go : Nat → Listing.Progress → Run (Option Listing.Progress)
    | 0, p => return some p
    | n + 1, p => do
      match ← Run.read .program descriptor piece with
      | none => return none
      | some [] => return some p
      | some text =>
        let (shown, p) := l.render p text
        discard <| Run.write 1 shown
        go n p

/-- The status of a program that a trapped signal ended. -/
def interrupted : Nat := 130

def cat : Body := fun name words => do
  let options := words.takeWhile (· ≠ ['-', '-'])
  let isOption (w : Chars) : Bool := w.head? == some '-' && w ≠ ['-']
  let mut l := Listing.plain
  for w in options.filter isOption do
    match w with
    | '-' :: '-' :: _ =>
      match l.longOption? (String.ofList w) with
      | some m => l := m
      | none => return ← refuseOption name w
    | _ =>
      for c in w.drop 1 do
        match l.option? c with
        | some m => l := m
        | none => return ← refuseOption name ['-', c]
  let names := options.filter (!isOption ·) ++ words.drop (options.length + 1)
  let mut status := 0
  let mut p := Listing.Progress.start
  for file in if names.isEmpty then [['-']] else names do
    if file = ['-'] then
      match ← list l p 0 with
      | some q => p := q
      | none => return interrupted
    else
      match ← Run.openInput file with
      | .error fault =>
        complain name (file ++ ": ".toList ++ reason fault)
        status := 1
      | .ok channel =>
        let before ← Run.channel? 0
        Run.connect 0 (some channel)
        let q ← list l p 0
        Run.connect 0 before
        match q with
        | some q => p := q
        | none => return interrupted
  return status

/-- How long a word asks to sleep. Nothing if it is no time. -/
def duration? (word : Chars) : Option Format.Fraction :=
  match Format.decimal? word with
  | some (false, f, rest) =>
    if [[], ['s'], ['m'], ['h'], ['d']].contains rest then some f else none
  | _ => none

def sleep : Body := fun name words => do
  let words := if words.head? = some ['-', '-'] then words.drop 1 else words
  match words with
  | [] => refuse name "missing operand".toList
  | _ =>
    if let some option := words.find? fun w => w.head? = some '-' && w ≠ ['-'] then
      return ← refuseOption name
        (if option.take 2 = ['-', '-'] then option else option.take 2)
    let times := words.map fun w => (w, duration? w)
    let bad := times.filter (·.2.isNone)
    if bad.isEmpty then
      if times.all fun t => (t.2.map (·.numerator)) = some 0 then return 0
      if ← Run.sleep then return 0 else return interrupted
    for (w, _) in bad do
      complain name ("invalid time interval '".toList ++ w ++ ['\''])
    Run.emit 2 ("Try '".toList ++ name ++ " --help' for more information.\n".toList)
    return 1

def stty : Body := fun name words => do
  if (← Run.channel? 0) ≠ some .console then
    complain name "'standard input': Inappropriate ioctl for device".toList
    return 1
  match (← get).console.setBy (words.map String.ofList) with
  | .ok (console, shown) =>
    modify fun w => { w with console }
    deliver name shown.toList 0
  | .error fault =>
    if fault.hasHint then refuse name fault.message.toList
    else
      complain name fault.message.toList
      return 1

def test : Body := fun name words => do
  match Condition.ofCommand (← Run.outside) name words with
  | .ok result => return if result then 0 else 1
  | .error fault =>
    complain name fault.message
    return 2

def body (program : String) : Body :=
  match program with
  | "echo" => echo
  | "printf" => printf
  | "cat" => cat
  | "sleep" => sleep
  | "stty" => stty
  | "test" | "[" => test
  | "false" => fun _ _ => return 1
  | _ => fun _ _ => return 0

end Program

end DasherTerminal.Shell
