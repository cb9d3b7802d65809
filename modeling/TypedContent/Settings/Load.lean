import TypedContent.Settings.Basic
import TypedContent.Settings.EnvFile

/-!
# Finding the settings

Settings come from the settings file, then from the environment files, then from the variables of
the process, then from overrides; each source is stronger than those before it.
-/

namespace TypedContent.Settings

open Files

def fileName : String := "episync.yml"

/-- The first of some files that is there. -/
def firstFile (d : Disk) : List Path → Except DiskError (Option Path)
  | [] => .ok none
  | p :: ps => do
    if ← d.isFile p then pure (some p) else firstFile d ps

/-- The settings file in a directory or the nearest one above it; the current directory if none is
given. -/
def findFile (d : Disk) (from? : Option Path) : Except AccessError (Option Path) :=
  let from' := from?.getD ⟨.here, []⟩
  if from'.hasNul then .error .nulInPath
  else
    let directory := from'.resolve d.current
    match firstFile d ((directory :: directory.ancestors).map (·.child fileName)) with
    | .ok p => .ok p
    | .error e => .error (.disk e)

/-! ## Sources -/

/-- The values of the fields that are given. -/
abbrev Values := Field → Option Given

def Values.none : Values := fun _ => Option.none

def Values.set (vs : Values) (f : Field) (g : Given) : Values :=
  fun f' => if f' = f then some g else vs f'

/-- Sets fields one after the other. -/
def Values.setAll (vs : Values) (given : List (Field × Given)) : Values :=
  given.foldl (fun vs e => vs.set e.1 e.2) vs

/-- The settings in a settings file, in its order. -/
def readFile (d : Disk) (path : Path) : Except Failure (List (Field × Given)) :=
  match d.readText path with
  | .error (.access (.disk e)) => .error (.config (.unreadable path e))
  | .error e => .error (.reading e)
  | .ok text =>
    match Yaml.read text.toList with
    | .error .malformed => .error (.config (.notYaml path))
    | .error f => .error (.value f)
    | .ok ⟨.null, _⟩ => .ok []
    | .ok ⟨.map _, entries⟩ => .ok ((Yaml.Value.textEntries entries).filterMap fun (k, v) =>
        (Field.keys.lookup k).map fun f => (f, Given.ofYaml v))
    | .ok ⟨v, _⟩ => .error (.config (.notMapping path v.kindName))

/-- The fields that variables set. -/
def ofVariables (pairs : List (String × String)) : List (Field × Given) :=
  Field.variableNames.filterMap fun (name, f) => (pairs.lookup name).map fun s => (f, .text s)

/-- The assignments of some environment files; those without any are left out. -/
def readEnvFiles (d : Disk) : List Path → List Log.Event × Except ReadError (List (Path × List (String × String)))
  | [] => ([], .ok [])
  | p :: ps =>
    match EnvFile.read d p with
    | (log, .error e) => (log, .error e)
    | (log, .ok pairs) =>
      match readEnvFiles d ps with
      | (more, .error e) => (log ++ more, .error e)
      | (more, .ok rest) => (log ++ more, .ok (if pairs.isEmpty then rest else (p, pairs) :: rest))

/-- An empty variable of the process sets nothing. -/
def ofProcess (environ : List (String × String)) : List (Field × Given) :=
  ofVariables (environ.filter fun (_, v) => v ≠ "")

def ofOverrides (overrides : List (String × Json)) : List (Field × Given) :=
  overrides.filterMap fun (name, v) =>
    match v with
    | .null => none
    | v => (Field.names.lookup name).map fun f => (f, Given.ofJson v)

/-- The first overridden field that cannot be. -/
def fixedOverride? (overrides : List (String × Json)) : Option String :=
  (overrides.find? fun (name, v) =>
    Field.fixedNames.contains name && !(v matches .null)).map (·.1)

/-! ## All together -/

/-- Checks the values that won, first of all the flag; `fixed?` is a field that cannot be
overridden but is. -/
def settle (root : Path) (environment : Environment) (sources : List Path)
    (fixed? : Option String) (vs : Values) : Except Failure Configuration :=
  match (vs .insecure).elim (some false) Given.asFlag? with
  | none => .error .longInteger
  | some insecure =>
    let url := (vs .serverUrl).getD (.other false)
    if url.isPresent then
      match fixed?, Schema.both (checkServerUrl url) (checkModelDir (vs .modelDir)) with
      | some name, _ => .error (.repeated name)
      | none, .error violations => .error (.config (.invalid ⟨"SyncConfig", violations⟩))
      | none, .ok (serverUrl, modelDir) =>
        .ok { rootDir := root, environment, serverUrl, modelDir, sources, insecure }
    else .error (.config .noServer)

/-- Where the settings of a project come from. -/
structure Request where
  root : Option Path
  environment : String
  overrides : List (String × Json)
  environ : List (String × String)

/-- The project's directory: the one that is given, else that of the settings file, else the
current one. -/
def projectRoot (d : Disk) (given file : Option Path) : Path :=
  match given, file with
  | some root, _ => root.resolve d.current
  | none, some file => file.parent
  | none, none => ⟨.root, d.current⟩

def load (d : Disk) (r : Request) : List Log.Event × Except Failure Configuration :=
  match Environment.ofName? r.environment with
  | none => ([], .error (.config (.unknownEnvironment r.environment)))
  | some environment =>
    match findFile d r.root with
    | .error e => ([], .error (.reading (.access e)))
    | .ok file =>
      let root := projectRoot d r.root file
      let log := file.toList.map fun p =>
        Log.Event.main logger Log.Level.debug ("Loading sync config from " ++ p.toString)
      match file.elim (.ok []) (readFile d) with
      | .error e => (log, .error e)
      | .ok ofFile =>
        match readEnvFiles d ((envFileNames r.environment).map root.child) with
        | (more, .error e) => (log ++ more, .error (.reading e))
        | (more, .ok envs) =>
          let given := ofFile ++ envs.flatMap (fun e => ofVariables e.2) ++ ofProcess r.environ ++
            ofOverrides r.overrides
          let sources := file.toList ++ envs.map (·.1)
          match settle root environment sources (fixedOverride? r.overrides)
              (Values.none.setAll given) with
          | .error e => (log ++ more, .error e)
          | .ok s => (log ++ more ++ [.main logger Log.Level.info
              ("Using Episerver at " ++ s.serverUrl ++ " (" ++ s.environment.name ++ ")")], .ok s)

theorem Values.set_apply (vs : Values) (f f' : Field) (g : Given) :
    vs.set f g f' = if f' = f then some g else vs f' := rfl

end TypedContent.Settings
