import TypedContent.Preload.Expansion
import TypedContent.Preload.Pairs

/-!
# Loaders

A build hands every file to a loader and goes on with what the loader makes of it.
-/

namespace TypedContent.Preload

open Files Schema

/-- What a loader is told of the file: its directory, its path, and the options. -/
structure LoaderContext where
  directory : Path
  resource : String
  options : Json

/-- Why there is no context for a file. -/
inductive ContextFault where
  | access (e : AccessError)
  | options (e : PairsFault)

namespace LoaderContext

/-- The context of a file, its path made absolute. -/
def ofFile (d : Disk) (file : Path) (fields : List (String × Json)) :
    Except AccessError LoaderContext :=
  if file.hasNul then .error .nulInPath
  else
    let path := file.resolve d.current
    .ok ⟨path.parent, path.toString, .obj fields⟩

/-- The context of a file, with options in any form. -/
def ofFileWith (d : Disk) (file : Path) (options : Json) : Except ContextFault LoaderContext :=
  match ofFile d file [], optionFields options with
  | .error e, _ => .error (.access e)
  | .ok _, .error e => .error (.options e)
  | .ok c, .ok fields => .ok { c with options := .obj fields }

/-- A context for a source that is in no file. -/
def ofDirectory (directory : Path) : Json → Except Invalid LoaderContext
  | .obj fields => .ok ⟨directory, "", .obj fields⟩
  | _ => .error ⟨"LoaderContext", [⟨[.field "options"], .dictionary⟩]⟩

/-- Expands the placeholder of a source. -/
def expand (c : LoaderContext) (d : Disk) (source : String) :
    List Log.Event × Except Failure String :=
  expandWith d c.directory c.options c.resource source

end LoaderContext

inductive LoadFailure where
  | noContext
  | expansion (e : Failure)

inductive Loader where
  | preload
  | empty

namespace Loader

def all : List (String × Loader) := [("empty", .empty), ("preload", .preload)]

/-- The message for a name that is no loader's. -/
def unknownMessage (name : String) : String :=
  "Unknown loader '" ++ name ++ "', expected one of: " ++ ", ".intercalate (all.map (·.1))

def named? (name : String) : Option Loader := all.lookup name

/-- What the loader makes of a source.  Without a context, nothing can be expanded. -/
def run (d : Disk) (source : String) :
    Loader → Option LoaderContext → List Log.Event × Except LoadFailure String
  | .empty, _ => ([], .ok "")
  | .preload, none => ([], .error .noContext)
  | .preload, some c =>
    let (log, result) := c.expand d source
    (log, result.mapError .expansion)

end Loader

/-- The text of a failure; some refusals of patterns have none. -/
def Failure.message : Failure → String
  | .options e => e.message
  | .pattern glob e =>
    match e.message? with
    | some reason => "Invalid PreLoad pattern '" ++ glob ++ "': " ++ reason
    | none => ""
  | .collision c => c.message
  | .access e => e.message

end TypedContent.Preload
