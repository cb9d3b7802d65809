import TypedContent.Log.Record
import TypedContent.Text.Casing

/-!
# Levels

Levels have names, in which case does not matter, and numbers.  A level without a name is shown by
its number.
-/

namespace TypedContent.Log.Level

def notSet : Int := 0

/-- The names that are understood. -/
def names : List (String × Int) :=
  [("DEBUG", debug), ("INFO", info), ("WARN", warning), ("WARNING", warning), ("ERROR", error),
   ("CRITICAL", critical), ("FATAL", critical), ("NOTSET", notSet)]

/-- The level of a name; a name that is missing or unknown stands for warnings. -/
def ofName (name : Option String) : Int :=
  (name.bind fun n => names.lookup (String.ofList (Text.Casing.upper n.toList))).getD warning

/-- The names that are shown. -/
def shownNames : List (Int × String) :=
  [(debug, "DEBUG"), (info, "INFO"), (warning, "WARNING"), (error, "ERROR"),
   (critical, "CRITICAL"), (notSet, "NOTSET")]

def shown (level : Int) : String :=
  (shownNames.lookup level).getD ("Level " ++ toString level)

/-- The variables that set up logging. -/
def variableName : String := "EPISYNC_LOG_LEVEL"

/-- Which records a command shows. -/
structure Verbosity where
  debug : Bool
  verbose : Bool
  quiet : Bool

/-- The name of the level: that of the strongest wish, else that in the environment. -/
def choose (v : Verbosity) (environ : List (String × String)) : String :=
  if v.debug then "DEBUG"
  else if v.verbose then "INFO"
  else if v.quiet then "ERROR"
  else match environ.lookup variableName with
    | none => "WARNING"
    | some "" => "WARNING"
    | some name => name

end TypedContent.Log.Level
