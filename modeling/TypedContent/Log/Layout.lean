import TypedContent.Log.Level

/-!
# Layouts

How a record is shown: in detail, with the time, with the level, or bare.  The detailed layout
also names the thread and the place in the program.
-/

namespace TypedContent.Log

inductive Layout where
  | detailed
  | timed
  | leveled
  | bare
  deriving DecidableEq

/-- What a record does not know itself: when and where it was written, and by which worker. -/
structure Stamp where
  time : String
  place : String
  worker : String

namespace Layout

/-- The layout as a pattern of named parts. -/
def pattern : Layout → String
  | .detailed =>
    "%(asctime)s %(levelname)-5s [%(threadName)s] %(name)s:%(lineno)d — %(message)s"
  | .timed => "%(asctime)s %(message)s"
  | .leveled => "%(levelname)s: %(message)s"
  | .bare => "%(message)s"

/-- The console shows the more, the lower its level is. -/
def forConsole (level : Int) : Layout :=
  if level ≤ Level.debug then .detailed
  else if level ≤ Level.info then .timed
  else if level ≤ Level.critical then .leveled
  else .bare

/-- The pattern of the time on the console, for layouts that show it. -/
def clockPattern? : Layout → Option String
  | .detailed => some "%H:%M:%S"
  | .timed => some "%H:%M:%S"
  | _ => none

/-- The pattern of the time in files. -/
def filePattern : String := "%Y-%m-%d %H:%M:%S"

/-- Blanks on the right up to a width. -/
def padRight (width : Nat) (s : String) : String :=
  s ++ String.ofList (List.replicate (width - s.length) ' ')

def render (l : Layout) (s : Stamp) (r : Record) : String :=
  match l with
  | .detailed => s.time ++ " " ++ padRight 5 (Level.shown r.level) ++ " [" ++
      (if r.onWorker then s.worker else "MainThread") ++ "] " ++ r.logger ++ ":" ++ s.place ++
      " — " ++ r.message
  | .timed => s.time ++ " " ++ r.message
  | .leveled => Level.shown r.level ++ ": " ++ r.message
  | .bare => r.message

end Layout

end TypedContent.Log
