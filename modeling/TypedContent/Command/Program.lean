import TypedContent.Command.Preload
import TypedContent.Log.Setup

/-!
# The program

The program finds the command that its words name, sets up logging, and carries the command out.
Words are read group by group: those of a command are read only when logging has been set up.
-/

namespace TypedContent.Command

open Files

def version : String := "0.1.0"

def rootSpec : Spec where
  path := "episync"
  arguments := " COMMAND [ARGS]..."
  options := [⟨["--version"], false⟩, ⟨["--verbose", "-v"], false⟩, ⟨["--quiet", "-q"], false⟩,
    ⟨["--debug"], false⟩]
  isGroup := true

def modelsSpec : Spec := ⟨"episync models", " COMMAND [ARGS]...", [], true⟩

def preloadSpec : Spec := ⟨"episync preload", " COMMAND [ARGS]...", [], true⟩

/-! ## Groups -/

/-- What comes of the words of a group: an outcome at once, or a command and its words. -/
inductive Chosen (α : Type) where
  | ended (o : Outcome)
  | command (options : Words) (what : α) (words : List String)

/-- The outcome of an option that ends the program wherever it stands. -/
def eager? (d : Disk) (s : Spec) (w : Words) : Option Outcome :=
  w.keys.findSome? fun key =>
    if key = "--version" then some (.printed d ("episync, version " ++ version ++ "\n"))
    else if key = "--help" then some (.printed d (s.usage ++ "\n"))
    else none

/-- A word that should be one of the given commands but begins like an option is read as one. -/
def unknown (d : Disk) (s : Spec) (commands : List String) (name : String) (rest : List String) :
    Outcome :=
  let missing := Outcome.misused d s (.noSuchCommand name (Text.Similar.closest commands name))
  if name.toList.head? = some '-' then
    match s.read (name :: rest) with
    | .error m => .misused d s m
    | .ok w => (eager? d s w).getD missing
  else missing

/-- Finds the command of a group that the words name. -/
def choose {α : Type} (d : Disk) (s : Spec) (commands : List (String × α)) (words : List String) :
    Chosen α :=
  if words.isEmpty then .ended { Outcome.printed d "" with code := 2, err := s.usage ++ "\n" }
  else match s.read words with
    | .error m => .ended (.misused d s m)
    | .ok w =>
      match eager? d s w, w.arguments with
      | some o, _ => .ended o
      | none, [] => .ended (.misused d s .missingCommand)
      | none, name :: rest =>
        match commands.lookup name with
        | some c => .command w c rest
        | none => .ended (unknown d s (commands.map (·.1)) name rest)

/-! ## Commands -/

inductive ModelsCommand where
  | sync
  | list

inductive Group where
  | models
  | preload

def runModels (world : World) (quiet : Bool) (words : List String) : Outcome :=
  let d := world.disk
  match choose d modelsSpec [("sync", ModelsCommand.sync), ("list", .list)] words with
  | .ended o => o
  | .command _ .sync words => syncSpec.perform d words (checkWords d) (sync world quiet)
  | .command _ .list words => listSpec.perform d words (checkWords d) (list world)

def runPreload (world : World) (words : List String) : Outcome :=
  let d := world.disk
  match choose d preloadSpec [("apply", ())] words with
  | .ended o => o
  | .command _ () words => applySpec.perform d words (checkApply d) (apply world)

/-! ## The whole program -/

/-- What logging is set up with. -/
def wantedLog (options : Words) (environ : List (String × String)) : Log.Wanted :=
  let debug := options.isGiven "--debug"
  { level := some (Log.Level.choose
      ⟨debug, options.isGiven "--verbose", options.isGiven "--quiet"⟩ environ)
    file := ((environ.lookup "EPISYNC_LOG_FILE").filter (· ≠ "")).map Path.ofString
    fileLevel := environ.lookup "EPISYNC_LOG_FILE_LEVEL"
    quietLibraries := !debug }

/-- The outcome of a command that runs under a logging setup. -/
def runGroup (world : World) (options : Words) (group : Group) (words : List String) : Outcome :=
  match group with
  | .models => runModels world (options.isGiven "--quiet") words
  | .preload => runPreload world words

/-- Runs the program.  What a command prints is not styled; what it logs goes to the error output and
to the log file. -/
def run (stamp : Log.Stamp) (world : World) (words : List String) : Outcome :=
  match choose world.disk rootSpec [("models", Group.models), ("preload", .preload)] words with
  | .ended o => o.unstyled
  | .command options group words =>
    match Log.Setup.make (wantedLog options world.environ) [] world.disk with
    | .error e => .crashed world.disk [] (.access e)
    | .ok (setup, disk) =>
      let o := (runGroup { world with disk } options group words).unstyled
      { o with
        err := setup.consoleText stamp o.log ++ o.err
        disk := setup.writeFile stamp o.log o.disk }

end TypedContent.Command
