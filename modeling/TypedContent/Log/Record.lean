import TypedContent.Files.Path

/-!
# Log records

What happens during a run is told in records.  A record names its logger and its level, and whether
a worker thread or the main thread wrote it.  Between the records it is noted which files were
written over, since a log file that is written over loses what it held.
-/

namespace TypedContent.Log

namespace Level

def debug : Int := 10
def info : Int := 20
def warning : Int := 30
def error : Int := 40
def critical : Int := 50

end Level

structure Record where
  logger : String
  level : Int
  onWorker : Bool
  message : String

inductive Event where
  | record (r : Record)
  | overwritten (file : Files.Path)

namespace Event

/-- A record of the main thread. -/
def main (logger : String) (level : Int) (message : String) : Event :=
  record ⟨logger, level, false, message⟩

/-- The same event on a worker thread. -/
def asWorker : Event → Event
  | record r => record { r with onWorker := true }
  | e => e

def record? : Event → Option Record
  | record r => some r
  | overwritten _ => none

end Event

end TypedContent.Log
