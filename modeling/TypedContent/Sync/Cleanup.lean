import TypedContent.Files.Disk
import TypedContent.Log.Record
import TypedContent.Sync.Client
import TypedContent.TypeScript.Registry

/-!
# Removing stale files

A file directly in the model directory is stale if its name without the ending is neither the name
of the registry nor to be kept.  Directories stay.
-/

namespace TypedContent.Sync

open Files

/-- Whether a file is stale when the stems in `keep` are to be kept. -/
def isStale (keep : List String) (name : String) : Bool :=
  let stem := Path.stemOf name
  stem != TypeScript.registryName && !keep.contains stem

/-- The names in a directory, in ascending order. -/
def sortedNames (entries : List (String × Entry)) : List String :=
  (entries.map (·.1)).mergeSort fun a b => decide (a ≤ b)

/-- What a removal of files did.  It stops at an entry that the system does not even look up. -/
structure Cleanup where
  disk : Disk
  log : List Log.Event
  removed : List String
  errors : List String
  stopped : Option DiskError

/-- Removes the stale files among entries of these names, one after the other; one that cannot be
removed does not stop the others. -/
def removeStale (directory : Path) (keep : List String) : List String → Disk → Cleanup
  | [], d => ⟨d, [], [], [], none⟩
  | name :: names, d =>
    match d.isFile (directory.child name) with
    | .error e => ⟨d, [], [], [], some e⟩
    | .ok false => removeStale directory keep names d
    | .ok true =>
      if isStale keep name then
        match d.remove (directory.child name) with
        | .ok d =>
          let rest := removeStale directory keep names d
          let r := Log.Event.main logger Log.Level.info
            ("  - Removed old model: " ++ Path.stemOf name)
          { rest with log := r :: rest.log, removed := name :: rest.removed }
        | .error e =>
          let rest := removeStale directory keep names d
          let r := Log.Event.main logger Log.Level.error
            ("  - Unable to remove " ++ name ++ ": " ++ e.message)
          { rest with
            log := r :: rest.log
            errors := ("remove " ++ name ++ ": " ++ e.message) :: rest.errors }
      else removeStale directory keep names d

/-- The directory of models cannot be listed. -/
structure ListError where
  directory : Path
  cause : AccessError

def ListError.message (e : ListError) : String :=
  "unable to list " ++ e.directory.toString ++ ": " ++ e.cause.message

/-- Removes the stale files of a directory. -/
def clearModels (d : Disk) (directory : Path) (keep : List String) :
    List Log.Event × Except ListError Cleanup :=
  let started := Log.Event.main logger Log.Level.info "Cleaning model directory"
  match d.list directory with
  | .error e => ([started], .error ⟨directory, e⟩)
  | .ok entries => ([started], .ok (removeStale directory keep (sortedNames entries) d))

end TypedContent.Sync
