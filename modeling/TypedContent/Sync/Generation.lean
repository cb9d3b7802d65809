import TypedContent.Files.Disk
import TypedContent.Schema.Definition
import TypedContent.Sync.Client
import TypedContent.TypeScript.Model
import TypedContent.TypeScript.Registry

/-!
# Generating files

The model of a type is generated from the definition that the server gives for its identifier, and
then stored in the model directory.  Everything is checked before anything is stored.
-/

namespace TypedContent.Sync

open Files Schema TypeScript

/-! ## Storing -/

def storeLogger : String := "episync.core.services.generators.model_file"

/-- A file that was to be stored: the disk afterwards, and where the file is. -/
structure Stored where
  disk : Disk
  log : List Log.Event
  outcome : Except AccessError Path

/-- Stores a generated file in a directory. -/
def storeFile (d : Disk) (directory : Path) (f : SourceFile) : Stored :=
  let target := directory.join (Path.ofString f.path)
  match d.writeText target f.content with
  | .error e => ⟨d, [], .error e⟩
  | .ok d => ⟨d, [.overwritten target, .main storeLogger Log.Level.debug ("Wrote " ++
      target.toString ++ " (" ++ toString f.content.length ++ " bytes)")], .ok target⟩

/-! ## Models -/

/-- Why the model of a type could not be generated. -/
inductive ModelError where
  | unfetched (guid : String)
  | invalid (e : Invalid)
  /-- The definition is that of another type. -/
  | otherName (guid found expected : String)
  | collision (c : Collision)
  | storing (e : AccessError)

def ModelError.message : ModelError → String
  | .unfetched guid => "unable to fetch definition " ++ guid
  | .invalid e => "invalid definition: " ++ e.message
  | .otherName guid found expected =>
    "definition " ++ guid ++ " describes '" ++ found ++ "', expected '" ++ expected ++ "'"
  | .collision c => c.message
  | .storing e => e.message

/-- The model of a type, from what the server gave for its identifier. -/
def modelOf (t : TypeSummary) (names : List String) : Option Json → Except ModelError SourceFile
  | none => .error (.unfetched t.guid)
  | some payload =>
    match TypeDefinition.ofJson payload with
    | .error e => .error (.invalid e)
    | .ok d =>
      if d.name = t.name then
        match modelFile d names with
        | .error c => .error (.collision c)
        | .ok f => .ok f
      else .error (.otherName t.guid d.name t.name)

structure Generated where
  log : List Log.Event
  exchange : Exchange
  outcome : Except ModelError SourceFile

/-- Fetches the definition of a type and generates its model. -/
def generateModel (c : Client) (d : Disk) (t : TypeSummary) (names : List String) : Generated :=
  let r := c.request d (.type t.guid) ("model " ++ t.name)
  ⟨r.log, r.exchange, modelOf t names r.payload⟩

/-- Stores the model of a type. -/
def storeModel (d : Disk) (directory : Path) (name : String) (f : SourceFile) :
    Disk × List Log.Event × Except ModelError Path :=
  let s := storeFile d directory f
  match s.outcome with
  | .error e => (s.disk, s.log, .error (.storing e))
  | .ok target => (s.disk, s.log ++ [.main logger Log.Level.info
      ("  - " ++ Identifier.dataName name ++ " written to " ++ target.toString)], .ok target)

/-! ## The registry -/

/-- A registry that was to be stored. -/
structure StoredRegistry where
  disk : Disk
  log : List Log.Event
  outcome : Except AccessError Path

/-- Stores the registry of all types. -/
def storeRegistry (d : Disk) (directory : Path) (names : List String) : StoredRegistry :=
  let s := storeFile d directory (registryFile names)
  match s.outcome with
  | .error e => ⟨s.disk, s.log ++ [.main logger Log.Level.error
      ("Unable to write type mapper: " ++ e.message)], .error e⟩
  | .ok target =>
    ⟨s.disk, s.log ++ [.main logger Log.Level.info "Written type mapper"], .ok target⟩

/-- The entry of a report for a registry that could not be stored. -/
def registryError (e : AccessError) : String := registryFileName ++ ": " ++ e.message

end TypedContent.Sync
