import TypedContent.Command.Program

/-!
# The command line

Reads the part of the file system that a command may need into a tree, runs the program on it, and
carries the changes of the tree over to the file system.  There is no transport for requests, so no
server can be reached.
-/

namespace TypedContent.Main

open Files

def locationOf (path : String) : Location := (Path.ofString path).parts

def absolute (l : Location) : String := "/" ++ "/".intercalate l

/-- Adds a file or a directory, and all that is below it, to a tree. -/
partial def load (path : String) (t : Tree) : IO Tree := do
  let here ← IO.FS.realPath path
  let l := locationOf here.toString
  if ← here.isDir then
    let mut t := (t.withParents l).insert l .directory
    for entry in ← here.readDir do
      t ← load entry.path.toString t
    return t
  else
    return (t.withParents l).insert l (.file (← IO.FS.readBinFile here))

/-- Adds what a path leads to, if that can be read. -/
def loadIfThere (path : String) (t : Tree) : IO Tree :=
  try load path t catch _ => pure t

/-- Words that may name something outside of the current directory. -/
def outsideWords (words : List String) : List String :=
  (words.map fun w => (w.splitOn "=").getLast?.getD w).filter fun w =>
    w.startsWith "/" || w.startsWith ".."

/-- The part of the file system that a command may need: what is below the current directory, the
settings files above it, and what the words name. -/
def treeFor (current : Location) (words : List String) : IO Tree := do
  let mut t ← load (absolute current) Tree.empty
  for i in List.range current.length do
    t ← loadIfThere (absolute (current.take i ++ [Settings.fileName])) t
  for w in outsideWords words do
    t ← loadIfThere w t
  return t

/-- Makes the file system agree with a changed tree. -/
def store (before after : Tree) : IO Unit := do
  for (l, _) in before.entries do
    if (after.find? l).isNone then IO.FS.removeFile (absolute l)
  for (l, e) in after.entries.reverse do
    if before.find? l ≠ some e then
      match e with
      | .directory => IO.FS.createDirAll (absolute l)
      | .file bytes => IO.FS.writeBinFile (absolute l) bytes

def variableNames : List String :=
  Settings.Field.variableNames.map (·.1) ++
    ["EPISYNC_LOG_LEVEL", "EPISYNC_LOG_FILE", "EPISYNC_LOG_FILE_LEVEL"]

def environment : IO (List (String × String)) :=
  variableNames.filterMapM fun n => do
    let v ← IO.getEnv n
    pure (v.map fun v => (n, v))

/-- A time of day, of the clock that runs since the machine was started. -/
def clock (milliseconds : Nat) : String :=
  let two (n : Nat) : String := (if n < 10 then "0" else "") ++ toString n
  let seconds := milliseconds / 1000
  two (seconds / 3600 % 24) ++ ":" ++ two (seconds / 60 % 60) ++ ":" ++ two (seconds % 60)

def start (words : List String) : IO UInt32 := do
  let current := locationOf (← IO.FS.realPath ".").toString
  let tree ← treeFor current words
  let world : Command.World :=
    ⟨⟨tree, current, noFaults⟩, ← environment, fun _ => .unreachable "no transport"⟩
  let o := Command.run ⟨clock (← IO.monoMsNow), "0", "worker"⟩ world words
  store tree o.disk.tree
  IO.print o.out
  IO.eprint o.err
  return o.code.toUInt32

end TypedContent.Main

def main (words : List String) : IO UInt32 := TypedContent.Main.start words
