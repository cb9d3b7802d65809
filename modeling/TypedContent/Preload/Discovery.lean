import TypedContent.Collision
import TypedContent.Log.Record
import TypedContent.Preload.Glob
import TypedContent.Preload.Options

/-!
# Discovery of modules

The modules of a directory are the files that the pattern selects, without hidden ones, without
stories and styles, and without those that the options exclude, in the order of their paths.
-/

namespace TypedContent.Preload

open Files

/-- A file to preload.  `directory` is its directory below the searched one, empty for that one. -/
structure Module where
  file : Path
  name : String
  directory : String
  specifier : String
  binding : String

/-- Why the modules of a source could not be determined. -/
inductive Failure where
  | options (e : OptionsError)
  | pattern (pattern : String) (e : GlobError)
  | collision (c : Collision)
  | access (e : AccessError)

def logger : String := "episync.core.services.preload"

/-- The endings of files that lie beside components and are never preloaded. -/
def auxiliaryEndings : List String :=
  [".stories.tsx", ".stories.ts", ".styles.tsx", ".styles.ts", ".style.tsx", ".style.ts"]

def endsWith (s ending : String) : Bool := ending.toList.isSuffixOf s.toList

/-- An excluding pattern that begins with `**/` also excludes files that lie directly in the
directory. -/
def isExcluded (exclude : Option String) (relative : String) : Bool :=
  auxiliaryEndings.any (endsWith relative) ||
    match exclude with
    | none => false
    | some "" => false
    | some pattern => matchesWildcard pattern relative ||
        ("**/".toList.isPrefixOf pattern.toList &&
          matchesWildcard (String.ofList (pattern.toList.drop 3)) relative)

def isHidden (names : List String) : Bool := names.any fun n => n.toList.head? == some '.'

/-- The file name without the extension, unless nothing would be left. -/
def moduleName (extension fileName : String) : String :=
  if extension ≠ "" ∧ endsWith fileName extension ∧ fileName ≠ extension then
    String.ofList (fileName.toList.take (fileName.length - extension.length))
  else fileName

def relativeText (names : List String) : String := "/".intercalate names

/-- The module of the file that `names` lead to. -/
def moduleOf (directory : Path) (base extension : String) (names : List String) : Module :=
  let name := moduleName extension (names.getLast?.getD "")
  let above := relativeText names.dropLast
  { file := Glob.below directory names
    name
    directory := above
    specifier := base ++ (if above = "" then "" else above ++ "/") ++ name
    binding := String.ofList (above.toList.filter (· ≠ '/')) ++ name }

/-- The first binding that several modules share. -/
def bindingCollision? (modules : List Module) : Option Collision :=
  modules.findSome? fun m =>
    match modules.filter fun n => n.binding = m.binding with
    | first :: second :: rest =>
      some ⟨"PreLoad binding", m.binding, (first :: second :: rest).map (·.specifier)⟩
    | _ => none

/-- The files among what a pattern selected, hidden ones left out. -/
def visibleFiles (d : Disk) (directory : Path) (selected : List (List String)) :
    Except DiskError (List (List String)) :=
  selected.filterM fun names => do
    let file ← d.isFile (Glob.below directory names)
    pure (file && !isHidden names)

def sortedByText (files : List (List String)) : List (List String) :=
  files.mergeSort fun a b => decide (relativeText a ≤ relativeText b)

/-- The modules of a directory, in the order of their paths: one for each visible file that the
pattern selects and that is not excluded.  Two modules of one binding are a failure; a directory
that does not exist has no modules. -/
def discoverModules (d : Disk) (directory : Path) (base : String) (o : Options) :
    List Log.Event × Except Failure (List Module) :=
  let fromDisk {α : Type} : Except DiskError α → Except Failure α
    | .ok a => .ok a
    | .error e => .error (.access (.disk e))
  match d.isDirectory directory with
  | .error e => ([], .error (.access (.disk e)))
  | .ok false =>
    ([.main logger Log.Level.warning
      ("  - PreLoad directory does not exist: " ++ directory.toString)], .ok [])
  | .ok true =>
    match Glob.ofString o.pattern with
    | .error e => ([], .error (.pattern o.pattern e))
    | .ok glob =>
      match fromDisk (do visibleFiles d directory (← glob.select d directory)) with
      | .error e => ([], .error e)
      | .ok files =>
        let files := sortedByText files
        let skipped := files.filter fun names => isExcluded o.exclude (relativeText names)
        let log := skipped.map fun names =>
          Log.Event.main logger Log.Level.debug ("  - Skipping " ++ relativeText names)
        let modules := (files.filter fun names => !isExcluded o.exclude (relativeText names)).map
          (moduleOf directory base o.extension)
        match bindingCollision? modules with
        | some c => (log, .error (.collision c))
        | none => (log, .ok modules)

end TypedContent.Preload
