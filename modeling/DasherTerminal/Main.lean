import DasherTerminal.Startup

/-!
# The command

Reads the files that the command line names, lets the program run on them,
prints what it says and writes back the files that it changed.
-/

namespace DasherTerminal.Main

def pathsOf (words : List String) : List String :=
  match CommandLine.Arguments.parse words with
  | .ok a => [a.template, a.capture, a.logFile].filterMap id
  | .error _ => []

def directoryOf (path : String) : String :=
  let above := "/".intercalate (Path.names path).dropLast
  if Path.isAbsolute path then "/" ++ above else if above.isEmpty then "." else above

def entryAt? (path : String) : IO (Option Entry) := do
  try
    return some (.file (← IO.FS.readBinFile path).toList)
  catch _ =>
    try
      discard <| IO.FS.Handle.mk path .read
      return some .directory
    catch _ => return none

def load (paths : List String) : IO Files := do
  let mut files := Files.empty
  for path in paths do
    for place in [directoryOf path, path] do
      if let some entry ← entryAt? place then
        files := files.put (.ofPath place) entry
  return files

/-- Write back the file at a path, if it is another one than before. -/
def store (before after : Files) (path : String) : IO Unit := do
  if let some bytes := after.content? path then
    if before.content? path ≠ some bytes then
      IO.FS.writeBinFile path ⟨bytes.toArray⟩

end DasherTerminal.Main

open DasherTerminal in
def main (words : List String) : IO UInt32 := do
  let paths := Main.pathsOf words
  let files ← Main.load paths
  let ending := Startup.run .computer files words
  for path in paths do
    Main.store files ending.files path
  (← IO.getStdout).putStr ending.output
  (← IO.getStderr).putStr ending.errors
  return ending.code.toUInt32
