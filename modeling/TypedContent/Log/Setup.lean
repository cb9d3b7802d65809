import TypedContent.Files.Disk
import TypedContent.Log.Layout

/-!
# Setting up logging

Records go to the console, and to a file if one is asked for.  A record is written if its logger
lets it through and the output takes its level.  Loggers of libraries are kept quiet.
-/

namespace TypedContent.Log

open Files

/-- An output for records of at least a level. -/
structure Output where
  level : Int
  layout : Layout
  timePattern : Option String

structure Setup where
  console : Output
  file : Option (Path × Output)
  /-- The levels of single loggers; zero leaves the decision to the logger above. -/
  levels : List (String × Int)

/-- What is asked for. -/
structure Wanted where
  level : Option String
  file : Option Path
  fileLevel : Option String
  quietLibraries : Bool

namespace Setup

/-- Loggers of libraries, which write much. -/
def libraries : List String := ["urllib3", "concurrent.futures"]

def consoleOutput (level : Int) : Output :=
  let layout := Layout.forConsole level
  ⟨level, layout, layout.clockPattern?⟩

def fileOutput (level : Int) : Output := ⟨level, .detailed, some Layout.filePattern⟩

/-- The level of the file is that of the console unless it is given. -/
def fileLevel (consoleLevel : Int) : Option String → Int
  | none => consoleLevel
  | some "" => consoleLevel
  | some name => Level.ofName (some name)

/-- Opens the file for the log; a new one is empty. -/
def openFile (d : Disk) (p : Path) : Except AccessError Disk :=
  if p.hasNul then .error .nulInPath
  else match d.locate p with
    | .error c => .error (.disk (.system c p))
    | .ok l =>
      match d.tree.find? l with
      | some (.file _) => .ok d
      | some .directory => .error (.disk (.system .isDirectory p))
      | none => .ok (d.setTree (d.tree.insert l (.file ByteArray.empty)))

/-- Sets up logging; `levels` are those that loggers of libraries have before. -/
def make (w : Wanted) (levels : List (String × Int)) (d : Disk) : Except AccessError (Setup × Disk) :=
  let level := Level.ofName w.level
  let levels := if w.quietLibraries && decide (Level.debug < level) then
      libraries.map fun n => (n, Level.warning)
    else levels
  match w.file with
  | none => .ok (⟨consoleOutput level, none, levels⟩, d)
  | some p =>
    let p := p.resolve d.current
    match openFile d p with
    | .error e => .error e
    | .ok d => .ok (⟨consoleOutput level, some (p, fileOutput (fileLevel level w.fileLevel)), levels⟩, d)

/-- The root lets through what any output takes. -/
def rootLevel (s : Setup) : Int :=
  match s.file with
  | none => s.console.level
  | some (_, f) => min s.console.level f.level

/-- A logger and those above it, nearest first. -/
def chain (logger : String) : List String :=
  let parts := logger.splitOn "."
  (List.range parts.length).map fun i => ".".intercalate (parts.take (parts.length - i))

/-- The level from which on a logger lets records through. -/
def levelFor (s : Setup) (logger : String) : Int :=
  ((chain logger).findSome? fun n => (s.levels.lookup n).filter (· ≠ 0)).getD s.rootLevel

def letsThrough (s : Setup) (r : Record) : Bool :=
  decide (0 < r.level) && decide (s.levelFor r.logger ≤ r.level)

/-- The records that an output shows, a line for each. -/
def text (s : Setup) (o : Output) (stamp : Stamp) (events : List Event) : String :=
  let records := (events.filterMap Event.record?).filter fun r =>
    s.letsThrough r && decide (o.level ≤ r.level)
  String.join (records.map fun r => o.layout.render stamp r ++ "\n")

def consoleText (s : Setup) (stamp : Stamp) (events : List Event) : String :=
  s.text s.console stamp events

/-- Whether an event wrote over what is at a location. -/
def overwrites (d : Disk) (l : Location) : Event → Bool
  | .overwritten p => (d.locate p).toOption == some l
  | .record _ => false

/-- The events since a location was last written over. -/
def sinceOverwritten (d : Disk) (l : Location) (events : List Event) : List Event :=
  (events.reverse.takeWhile (!overwrites d l ·)).reverse

/-- Adds to the log file what it shows of the events that led to the disk.  A file that has been
removed is gone, and one that has been written over lost what was added before. -/
def writeFile (s : Setup) (stamp : Stamp) (events : List Event) (d : Disk) : Disk :=
  match s.file with
  | none => d
  | some (p, o) =>
    match d.entry p with
    | .ok (l, .file bytes) =>
      let added := s.text o stamp (sinceOverwritten d l events)
      d.setTree (d.tree.insert l (.file (bytes ++ added.toUTF8)))
    | _ => d

end Setup

end TypedContent.Log
