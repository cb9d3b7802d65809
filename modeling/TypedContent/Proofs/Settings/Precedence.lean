import TypedContent.Proofs.Fallible
import TypedContent.Proofs.Settings.Loading

/-!
# Which layer a setting comes from

Seven layers give settings, and each has its own notion of giving one.  `Layers` holds what they
hold, for every project whose files can be read (`nonempty_layers`), and `Layers.values` says what
each gives for a field, the strongest first.  Loading overwrites the weaker values by the stronger
ones, which comes to taking the first that is given (`Layers.setAll_eq_winner`); so it sees nothing
but the winners (`Layers.exists_settle`), and `outcome_settle_eq_some_iff` says what it makes of
them.
-/

namespace TypedContent.Settings

open Files

/-! ## The last value counts -/

/-- What a list gives for a field, in its order. -/
def valuesFor (f : Field) (given : List (Field × Given)) : List Given :=
  given.filterMap fun e => if e.1 = f then some e.2 else none

theorem valuesFor_append (f : Field) (xs ys : List (Field × Given)) :
    valuesFor f (xs ++ ys) = valuesFor f xs ++ valuesFor f ys := List.filterMap_append

theorem setAll_apply (vs : Values) (given : List (Field × Given)) (f : Field) :
    vs.setAll given f = (valuesFor f given).getLast?.or (vs f) := by
  induction given generalizing vs with
  | nil => rfl
  | cons e given ih =>
    have hcons : valuesFor f (e :: given) = (if e.1 = f then [e.2] else []) ++ valuesFor f given := by
      by_cases he : e.1 = f <;> simp [valuesFor, he]
    rw [show vs.setAll (e :: given) = (vs.set e.1 e.2).setAll given from rfl, ih,
      Values.set_apply, hcons, List.getLast?_append]
    by_cases he : e.1 = f
    · simp [he]
    · simp [he, Ne.symm he]

/-! ## What a layer gives for a field -/

/-- The variable that sets a field. -/
def Field.variable : Field → String
  | serverUrl => "EPI_URL"
  | modelDir => "EPI_MODEL_PATH"
  | insecure => "EPI_INSECURE"

theorem Field.variableNames_eq :
    variableNames = [serverUrl, modelDir, insecure].map fun f => (f.variable, f) := rfl

/-- A settings file gives what its last key for the field has. -/
def fromEntries (f : Field) (entries : List (String × Yaml.Value)) : Option Given :=
  (entries.filterMap fun e =>
    if Field.keys.lookup e.1 = some f then some (Given.ofYaml e.2) else none).getLast?

/-- An environment file gives what it assigns to the field's variable, be it empty. -/
def fromAssignments (f : Field) (pairs : List (String × String)) : Option Given :=
  (pairs.lookup f.variable).map .text

/-- The process gives the value of the field's variable unless it is empty. -/
def fromEnviron (f : Field) (environ : List (String × String)) : Option Given :=
  (environ.find? fun e => e.1 = f.variable ∧ e.2 ≠ "").map (.text ·.2)

/-- Overrides give the last value under the field's name that is not null. -/
def fromOverrides (f : Field) (overrides : List (String × Json)) : Option Given :=
  (overrides.filterMap fun e =>
    if Field.names.lookup e.1 = some f ∧ !(e.2 matches .null) then some (Given.ofJson e.2)
    else none).getLast?

/-- A value is one for a field if its key is. -/
theorem bind_of_key (f : Field) (key : Option Field) (g : Given) :
    ((key.map fun f => (f, g)).bind fun e => if e.1 = f then some e.2 else none) =
      if key = some f then some g else none := by
  cases key <;> simp

/-- The settings among the entries of a settings file. -/
def ofEntries (entries : List (String × Yaml.Value)) : List (Field × Given) :=
  entries.filterMap fun (k, v) => (Field.keys.lookup k).map fun f => (f, Given.ofYaml v)

theorem getLast?_valuesFor_ofEntries (f : Field) (entries : List (String × Yaml.Value)) :
    (valuesFor f (ofEntries entries)).getLast? = fromEntries f entries := by
  simp only [valuesFor, ofEntries, List.filterMap_filterMap, bind_of_key, fromEntries]

theorem getLast?_valuesFor_ofOverrides (f : Field) (overrides : List (String × Json)) :
    (valuesFor f (ofOverrides overrides)).getLast? = fromOverrides f overrides := by
  rw [valuesFor, ofOverrides, List.filterMap_filterMap, fromOverrides]
  congr 2
  funext ⟨name, v⟩
  cases v with
  | null => simp
  | _ => simp [bind_of_key]

theorem getLast?_valuesFor_ofVariables (f : Field) (pairs : List (String × String)) :
    (valuesFor f (ofVariables pairs)).getLast? = fromAssignments f pairs := by
  have hbind (f' : Field) (o : Option String) :
      ((o.map fun s => (f', Given.text s)).bind fun e => if e.1 = f then some e.2 else none) =
        if f' = f then o.map .text else none := by
    cases o <;> simp
  simp only [valuesFor, ofVariables, Field.variableNames_eq, List.filterMap_filterMap,
    List.filterMap_map, Function.comp_apply, hbind, fromAssignments]
  cases f <;> simp [List.filterMap_cons] <;> split <;> simp [*]

theorem fromAssignments_filter (f : Field) (environ : List (String × String)) :
    fromAssignments f (environ.filter fun (_, v) => v ≠ "") = fromEnviron f environ := by
  unfold fromAssignments fromEnviron
  induction environ with
  | nil => rfl
  | cons e environ ih =>
    obtain ⟨name, v⟩ := e
    by_cases hv : v = ""
    · rw [List.filter_cons_of_neg (by simp [hv]), List.find?_cons_of_neg (by simp [hv]), ih]
    · rw [List.filter_cons_of_pos (by simp [hv])]
      by_cases hname : name = f.variable
      · rw [List.find?_cons_of_pos (by simp [hname, hv]), hname, List.lookup_cons_self]
        rfl
      · rw [List.find?_cons_of_neg (by simp [hname]), ← ih, List.lookup_cons,
          show (f.variable == name) = false by simpa using Ne.symm hname]

/-! ## The layers of a project -/

/-- A settings file holds nothing or a mapping, of which the text keys count. -/
inductive HoldsEntries (d : Disk) (p : Path) : List (String × Yaml.Value) → Prop
  | empty {text : String} {contents : Yaml.Contents} : d.readText p = .ok text →
      Yaml.read text.toList = .ok contents → contents.root = .null → HoldsEntries d p []
  | mapping {text : String} {contents : Yaml.Contents} {isEmpty : Bool} : d.readText p = .ok text →
      Yaml.read text.toList = .ok contents → contents.root = .map isEmpty →
      HoldsEntries d p (Yaml.Value.textEntries contents.entries)

theorem HoldsEntries.readFile_eq {d : Disk} {p : Path} {entries : List (String × Yaml.Value)}
    (h : HoldsEntries d p entries) :
    readFile d p = .ok (ofEntries entries) := by
  cases h with
  | @empty text contents htext hread hroot =>
    obtain ⟨root, _⟩ := contents
    obtain rfl := hroot
    simp [readFile, htext, hread, ofEntries]
  | @mapping text contents _ htext hread hroot =>
    obtain ⟨root, _⟩ := contents
    obtain rfl := hroot
    simp only [readFile, htext, hread, ofEntries]

/-- What the layers of a project hold whose directory is given.  All files that settings come from
were looked for and, where they are there, read. -/
structure Layers (d : Disk) (r : Request) where
  root : Path
  environment : Environment
  file : Option Path
  entries : List (String × Yaml.Value)
  assignments : String → List (String × String)
  rooted : r.root = some root
  known : r.environment = environment.name
  found : findFile d r.root = .ok file
  holds : file.elim (entries = []) (HoldsEntries d · entries)
  reads : ∀ name ∈ envFileNames environment.name,
    (EnvFile.read d ((root.resolve d.current).child name)).2 = .ok (assignments name)

/-- Environment files give what they assign, those without any assignment left out or not. -/
theorem readEnvFiles_eq {d : Disk} {directory : Path} {names : List String}
    {assignments : String → List (String × String)}
    (h : ∀ name ∈ names, (EnvFile.read d (directory.child name)).2 = .ok (assignments name)) :
    ∃ envs, (readEnvFiles d (names.map directory.child)).2 = .ok envs ∧
      envs.flatMap (fun e => ofVariables e.2) =
        names.flatMap fun name => ofVariables (assignments name) := by
  induction names with
  | nil => exact ⟨[], rfl, rfl⟩
  | cons name names ih =>
    obtain ⟨envs, hrest, hgiven⟩ := ih fun other ho => h other (List.mem_cons_of_mem name ho)
    refine ⟨_, readEnvFiles_cons_eq_ok_iff.mpr
      ⟨assignments name, envs, h name List.mem_cons_self, hrest, rfl⟩, ?_⟩
    rw [List.flatMap_cons, ← hgiven]
    split
    · rename_i hempty
      rw [List.isEmpty_iff.mp hempty]
      rfl
    · rw [List.flatMap_cons]

theorem exists_holdsEntries {d : Disk} {p : Path} {ofFile : List (Field × Given)}
    (h : readFile d p = .ok ofFile) : ∃ entries, HoldsEntries d p entries := by
  unfold readFile at h
  split at h
  · contradiction
  · contradiction
  · rename_i text htext
    split at h
    · contradiction
    · contradiction
    · rename_i hread
      exact ⟨[], .empty htext hread rfl⟩
    · rename_i hread
      exact ⟨_, .mapping htext hread rfl⟩
    · contradiction

theorem exists_reads {d : Disk} {ps : List Path} {envs : List (Path × List (String × String))}
    (h : (readEnvFiles d ps).2 = .ok envs) {p : Path} (hp : p ∈ ps) :
    ∃ pairs, (EnvFile.read d p).2 = .ok pairs := by
  induction ps generalizing envs with
  | nil => cases hp
  | cons q ps ih =>
    obtain ⟨pairs, rest, hread, hrest, -⟩ := readEnvFiles_cons_eq_ok_iff.mp h
    rcases List.mem_cons.mp hp with rfl | hp
    · exact ⟨pairs, hread⟩
    · exact ih hrest hp

/-- Whatever is loaded from a given directory comes from layers. -/
theorem nonempty_layers {d : Disk} {r : Request} {config : Configuration} {root : Path}
    (hload : (load d r).2 = .ok config) (hroot : r.root = some root) : Nonempty (Layers d r) := by
  obtain ⟨environment, file, ofFile, envs, h⟩ := exists_loaded hload
  have hknown : environment.name = r.environment := by
    simpa using List.find?_some (show Environment.all.find? _ = some environment from h.known)
  have hentries : ∃ entries, file.elim (entries = []) (HoldsEntries d · entries) := by
    cases file with
    | none => exact ⟨[], rfl⟩
    | some p => exact exists_holdsEntries h.read
  obtain ⟨entries, hentries⟩ := hentries
  have hreads (name : String) : ∃ pairs, name ∈ envFileNames environment.name →
      (EnvFile.read d ((root.resolve d.current).child name)).2 = .ok pairs := by
    by_cases hname : name ∈ envFileNames environment.name
    · have hread := h.readEnvs
      rw [hroot, ← hknown] at hread
      obtain ⟨pairs, hpairs⟩ := exists_reads hread (List.mem_map_of_mem hname)
      exact ⟨pairs, fun _ => hpairs⟩
    · exact ⟨[], fun hmem => absurd hmem hname⟩
  choose assignments hreads using hreads
  exact ⟨{ root, environment, file, entries, assignments
           rooted := hroot
           known := hknown.symm
           found := h.found
           holds := hentries
           reads := hreads }⟩

namespace Layers

variable {d : Disk} {r : Request}

/-- What the layers give for a field, the strongest first. -/
def values (l : Layers d r) (f : Field) : List (Option Given) :=
  [fromOverrides f r.overrides, fromEnviron f r.environ] ++
    (envFileNames l.environment.name).reverse.map (fun name =>
      fromAssignments f (l.assignments name)) ++
    [fromEntries f l.entries]

/-- The strongest layer that gives anything for a field gives this. -/
def Wins (l : Layers d r) (f : Field) (g : Given) : Prop :=
  ∃ stronger weaker, l.values f = stronger ++ some g :: weaker ∧ ∀ o ∈ stronger, o = none

def winner (l : Layers d r) : Values := fun f => (l.values f).findSome? id

theorem wins_iff (l : Layers d r) {f : Field} {g : Given} : l.Wins f g ↔ l.winner f = some g := by
  unfold Wins winner
  rw [List.findSome?_eq_some_iff]
  constructor
  · rintro ⟨stronger, weaker, hvalues, hnone⟩
    exact ⟨stronger, some g, weaker, hvalues, rfl, hnone⟩
  · rintro ⟨stronger, o, weaker, hvalues, rfl, hnone⟩
    exact ⟨stronger, weaker, hvalues, hnone⟩

theorem winner_eq_none_iff (l : Layers d r) {f : Field} :
    l.winner f = none ↔ ∀ g, ¬ l.Wins f g := by
  simp only [wins_iff, Option.eq_none_iff_forall_ne_some, ne_eq]

/-- What the layers give together, the strongest last. -/
def given (l : Layers d r) : List (Field × Given) :=
  ofEntries l.entries ++
    ((envFileNames l.environment.name).flatMap fun name => ofVariables (l.assignments name)) ++
    ofProcess r.environ ++ ofOverrides r.overrides

/-- Overwriting weaker values by stronger ones leaves the winners. -/
theorem setAll_eq_winner (l : Layers d r) : Values.none.setAll l.given = l.winner := by
  funext f
  have henvs : (valuesFor f ((envFileNames l.environment.name).flatMap fun name =>
      ofVariables (l.assignments name))).getLast? =
      ((envFileNames l.environment.name).reverse.map fun name =>
        fromAssignments f (l.assignments name)).findSome? id := by
    rw [valuesFor, List.filterMap_flatMap, List.getLast?_flatMap, List.findSome?_map]
    congr 1
    funext name
    exact getLast?_valuesFor_ofVariables f (l.assignments name)
  have hprocess : (valuesFor f (ofProcess r.environ)).getLast? = fromEnviron f r.environ := by
    rw [ofProcess, getLast?_valuesFor_ofVariables, fromAssignments_filter]
  rw [setAll_apply, given, valuesFor_append, valuesFor_append, valuesFor_append,
    List.getLast?_append, List.getLast?_append, List.getLast?_append, henvs, hprocess,
    getLast?_valuesFor_ofEntries, getLast?_valuesFor_ofOverrides, winner, values,
    List.findSome?_append, List.findSome?_append]
  cases fromOverrides f r.overrides <;> cases fromEnviron f r.environ <;>
    simp [Values.none]

/-- Loading settles the winners. -/
theorem exists_settle (l : Layers d r) :
    ∃ sources, (load d r).2 = settle (l.root.resolve d.current) l.environment sources
      (fixedOverride? r.overrides) l.winner := by
  have hread : l.file.elim (.ok []) (readFile d) = .ok (ofEntries l.entries) := by
    have hholds := l.holds
    cases hfile : l.file with
    | none =>
      rw [hfile] at hholds
      rw [show l.entries = [] from hholds]
      rfl
    | some p =>
      rw [hfile] at hholds
      exact HoldsEntries.readFile_eq hholds
  have hroot : projectRoot d r.root l.file = l.root.resolve d.current := by
    rw [l.rooted]
    rfl
  obtain ⟨envs, hreads, henvs⟩ := readEnvFiles_eq l.reads
  refine ⟨l.file.toList ++ envs.map (·.1), ?_⟩
  rw [← l.setAll_eq_winner, given, ← henvs]
  simp only [load, l.known, Environment.ofName?_name, l.found, hread, hroot]
  generalize readEnvFiles d _ = files at hreads ⊢
  obtain ⟨more, o⟩ := files
  obtain rfl : o = .ok envs := hreads
  simp only
  split
  · rename_i hsettled
    exact hsettled.symm
  · rename_i hsettled
    exact hsettled.symm

end Layers

/-! ## What is made of the winners -/

/-- The settings of a success. -/
def outcome (o : Except Failure Configuration) : Option (String × String × Bool) :=
  o.toOption.map fun c => (c.serverUrl, c.modelDir, c.insecure)

theorem outcome_settle_eq_some_iff {root : Path} {environment : Environment} {sources : List Path}
    {fixed? : Option String} {vs : Values} {url dir : String} {insecure : Bool} :
    outcome (settle root environment sources fixed? vs) = some (url, dir, insecure) ↔
      fixed?.isSome = false ∧
      (∃ g, vs .serverUrl = some g ∧ g.isPresent = true ∧ checkServerUrl g = .ok url) ∧
      checkModelDir (vs .modelDir) = .ok dir ∧
      (vs .insecure).elim (some false) Given.asFlag? = some insecure := by
  unfold settle outcome
  cases (vs .insecure).elim (some false) Given.asFlag? with
  | none => simp [Except.toOption]
  | some flag =>
    cases hurl : vs .serverUrl with
    | none => simp [Except.toOption, Given.isPresent]
    | some g =>
      cases hpresent : g.isPresent with
      | false => simp [Except.toOption, hpresent]
      | true =>
        cases fixed? with
        | some name => simp [Except.toOption, hpresent]
        | none =>
          cases hcheck : checkServerUrl g with
          | error vs' => cases checkModelDir (vs .modelDir) <;>
              simp [Except.toOption, Schema.both, hpresent, hcheck]
          | ok url' => cases checkModelDir (vs .modelDir) <;>
              simp [Except.toOption, Schema.both, hpresent, hcheck]

/-- A field that is no setting is overridden, by anything but null. -/
def OverridesFixed (overrides : List (String × Json)) : Prop :=
  ∃ name ∈ Field.fixedNames, ∃ v, (name, v) ∈ overrides ∧ v ≠ .null

theorem isSome_fixedOverride?_iff (overrides : List (String × Json)) :
    (fixedOverride? overrides).isSome = true ↔ OverridesFixed overrides := by
  unfold fixedOverride? OverridesFixed
  rw [Option.isSome_map, List.find?_isSome]
  constructor
  · rintro ⟨⟨name, v⟩, hmem, h⟩
    obtain ⟨hname, hv⟩ := Bool.and_eq_true_iff.mp h
    exact ⟨name, by simpa using hname, v, hmem, by rintro rfl; contradiction⟩
  · rintro ⟨name, hname, v, hmem, hv⟩
    refine ⟨(name, v), hmem, Bool.and_eq_true_iff.mpr ⟨by simpa using hname, ?_⟩⟩
    cases v with
    | null => contradiction
    | _ => rfl

/-- Two lists of what layers give, the strongest first, that are the same down to the first layer
that gives anything. -/
inductive SameToWinner : List (Option Given) → List (Option Given) → Prop
  | nil : SameToWinner [] []
  | none {xs ys : List (Option Given)} : SameToWinner xs ys →
      SameToWinner (Option.none :: xs) (Option.none :: ys)
  | some (g : Given) (xs ys : List (Option Given)) :
      SameToWinner (Option.some g :: xs) (Option.some g :: ys)

theorem SameToWinner.findSome?_eq {xs ys : List (Option Given)} (h : SameToWinner xs ys) :
    xs.findSome? id = ys.findSome? id := by
  induction h with
  | nil => rfl
  | none _ ih => simpa only [List.findSome?_cons, id] using ih
  | some g xs ys => rfl

namespace Layers

variable {d d' : Disk} {r r' : Request}

theorem outcome_eq_of_winner (l : Layers d r) (l' : Layers d' r')
    (hfixed : OverridesFixed r.overrides ↔ OverridesFixed r'.overrides)
    (hwinner : l.winner = l'.winner) : outcome (load d r).2 = outcome (load d' r').2 := by
  obtain ⟨sources, hload⟩ := l.exists_settle
  obtain ⟨sources', hload'⟩ := l'.exists_settle
  have hsome : (fixedOverride? r.overrides).isSome = (fixedOverride? r'.overrides).isSome := by
    rw [Bool.eq_iff_iff, isSome_fixedOverride?_iff, isSome_fixedOverride?_iff, hfixed]
  refine Option.ext fun ⟨url, dir, insecure⟩ => ?_
  rw [hload, hload', outcome_settle_eq_some_iff, outcome_settle_eq_some_iff, hsome, hwinner]

end Layers

/-- Loading depends on the winners alone: two loads with the same winners, in whatever layers and
projects, give the same settings or both none, and so what is weaker than a winner does not matter.
Fields that are no settings have no layer but the overrides, where they make every load fail. -/
theorem load_winners {d d' : Disk} {r r' : Request} (l : Layers d r) (l' : Layers d' r')
    (hfixed : OverridesFixed r.overrides ↔ OverridesFixed r'.overrides) :
    ((∀ f g, l.Wins f g ↔ l'.Wins f g) → outcome (load d r).2 = outcome (load d' r').2) ∧
    ((∀ f, SameToWinner (l.values f) (l'.values f)) →
      outcome (load d r).2 = outcome (load d' r').2) ∧
    ∀ c, (load d r).2 = .ok c →
      (∃ g, l.Wins .serverUrl g ∧ checkServerUrl g = .ok c.serverUrl) ∧
      (∀ g, l.Wins .modelDir g → checkModelDir (some g) = .ok c.modelDir) ∧
      ((∀ g, ¬ l.Wins .modelDir g) → c.modelDir = defaultModelDir) ∧
      (∀ g, l.Wins .insecure g → g.asFlag? = some c.insecure) ∧
      ((∀ g, ¬ l.Wins .insecure g) → c.insecure = false) := by
  refine ⟨fun hwins => ?_, fun hsame => ?_, fun c hc => ?_⟩
  · refine l.outcome_eq_of_winner l' hfixed (funext fun f => Option.ext fun g => ?_)
    rw [← l.wins_iff, ← l'.wins_iff, hwins]
  · exact l.outcome_eq_of_winner l' hfixed (funext fun f => (hsame f).findSome?_eq)
  · obtain ⟨sources, hload⟩ := l.exists_settle
    have houtcome : outcome (load d r).2 = some (c.serverUrl, c.modelDir, c.insecure) := by
      rw [hc]
      rfl
    rw [hload] at houtcome
    obtain ⟨-, ⟨g, hwins, -, hurl⟩, hdir, hflag⟩ := outcome_settle_eq_some_iff.mp houtcome
    refine ⟨⟨g, l.wins_iff.mpr hwins, hurl⟩, fun g hg => ?_, fun hnone => ?_, fun g hg => ?_,
      fun hnone => ?_⟩
    · rwa [l.wins_iff.mp hg] at hdir
    · rw [l.winner_eq_none_iff.mpr hnone] at hdir
      exact (Except.ok.inj hdir).symm
    · rwa [l.wins_iff.mp hg] at hflag
    · rw [l.winner_eq_none_iff.mpr hnone] at hflag
      exact (Option.some.inj hflag).symm

/-- A project with a settings file and an environment file. -/
def diskOf (settings assignments : String) : Disk where
  tree := ⟨[(["project"], .directory), (["project", fileName], .file settings.toUTF8),
    (["project", ".env"], .file assignments.toUTF8)]⟩
  current := []
  faults := noFaults

/-- The flag comes from the process, the model directory from an override. -/
def requestWith (environ : List (String × String)) : Request where
  root := some ⟨.root, ["project"]⟩
  environment := "development"
  overrides := [("model_dir", .str "models")]
  environ := ("EPI_INSECURE", "0") :: environ

def plainDisk : Disk := diskOf "url: http://a/\ninsecure: yes\n" "EPI_URL=http://b/\n"

/-- What is weaker than the winners differs from `plainDisk`, in part for the worse. -/
def clutteredDisk : Disk := diskOf "url: 7\n" "EPI_URL=http://b/\nEPI_MODEL_PATH=\n"

deriving instance DecidableEq for Given, Yaml.Value

theorem exists_layers (settings assignments : String) (environ : List (String × String))
    (entries : List (String × Yaml.Value)) (pairs : List (String × String))
    (hfound : (findFile (diskOf settings assignments) (requestWith environ).root).toOption =
      some (some ⟨.root, ["project", fileName]⟩))
    (hholds : (do
      let text ← ((diskOf settings assignments).readText ⟨.root, ["project", fileName]⟩).toOption
      let contents ← (Yaml.read text.toList).toOption
      some (contents.root, Yaml.Value.textEntries contents.entries)) = some (.map false, entries))
    (hreads : ∀ name ∈ envFileNames "development",
      (EnvFile.read (diskOf settings assignments) ⟨.root, ["project", name]⟩).2.toOption =
        some (if name = ".env" then pairs else [])) :
    ∃ l : Layers (diskOf settings assignments) (requestWith environ), ∀ f, l.values f =
      [fromOverrides f (requestWith environ).overrides, fromEnviron f (requestWith environ).environ,
        none, none, none, fromAssignments f pairs, fromEntries f entries] := by
  have hentries : HoldsEntries (diskOf settings assignments) ⟨.root, ["project", fileName]⟩
      entries := by
    obtain ⟨text, htext, hholds⟩ := Option.bind_eq_some_iff.mp hholds
    obtain ⟨contents, hcontents, hholds⟩ := Option.bind_eq_some_iff.mp hholds
    obtain ⟨hroot, rfl⟩ := Prod.mk.inj (Option.some.inj hholds)
    exact .mapping (Fallible.eq_ok_of_toOption htext) (Fallible.eq_ok_of_toOption hcontents) hroot
  refine ⟨{ root := ⟨.root, ["project"]⟩
            environment := .development
            file := some ⟨.root, ["project", fileName]⟩
            entries
            assignments := fun name => if name = ".env" then pairs else []
            rooted := rfl
            known := rfl
            found := Fallible.eq_ok_of_toOption hfound
            holds := hentries
            reads := fun name hname => Fallible.eq_ok_of_toOption (hreads name hname) },
    fun f => ?_⟩
  simp [Layers.values, envFileNames, Environment.name, fromAssignments]

/-- A weaker address that is none, and a weaker model directory that is blank, change nothing. -/
theorem load_winners_cluttered :
    ∃ (l : Layers plainDisk (requestWith []))
      (l' : Layers clutteredDisk (requestWith [("EPI_MODEL_PATH", "other")])),
      (OverridesFixed (requestWith []).overrides ↔
        OverridesFixed (requestWith [("EPI_MODEL_PATH", "other")]).overrides) ∧
      (∀ f, SameToWinner (l.values f) (l'.values f)) ∧
      outcome (load plainDisk (requestWith [])).2 = some ("http://b/", "models", false) ∧
      outcome (load clutteredDisk (requestWith [("EPI_MODEL_PATH", "other")])).2 =
        some ("http://b/", "models", false) := by
  obtain ⟨l, hl⟩ := exists_layers "url: http://a/\ninsecure: yes\n" "EPI_URL=http://b/\n" []
    [("url", .text "http://a/"), ("insecure", .bool true)] [("EPI_URL", "http://b/")]
    (by decide +kernel) (by decide +kernel) (by decide +kernel)
  obtain ⟨l', hl'⟩ := exists_layers "url: 7\n" "EPI_URL=http://b/\nEPI_MODEL_PATH=\n"
    [("EPI_MODEL_PATH", "other")] [("url", .int 7)]
    [("EPI_URL", "http://b/"), ("EPI_MODEL_PATH", "")]
    (by decide +kernel) (by decide +kernel) (by decide +kernel)
  have hfixed : OverridesFixed (requestWith []).overrides ↔
      OverridesFixed (requestWith [("EPI_MODEL_PATH", "other")]).overrides := Iff.rfl
  have hplain (f : Field) : l.values f = match f with
      | .serverUrl =>
        [none, none, none, none, none, some (.text "http://b/"), some (.text "http://a/")]
      | .modelDir => [some (.text "models"), none, none, none, none, none, none]
      | .insecure => [none, some (.text "0"), none, none, none, none, some (.flag true)] := by
    rw [hl]
    cases f <;> decide +kernel
  have hcluttered (f : Field) : l'.values f = match f with
      | .serverUrl => [none, none, none, none, none, some (.text "http://b/"), some (.number 7)]
      | .modelDir =>
        [some (.text "models"), some (.text "other"), none, none, none, some (.text ""), none]
      | .insecure => [none, some (.text "0"), none, none, none, none, none] := by
    rw [hl']
    cases f <;> decide +kernel
  have hsame (f : Field) : SameToWinner (l.values f) (l'.values f) := by
    rw [hplain, hcluttered]
    cases f with
    | serverUrl => exact .none (.none (.none (.none (.none (.some _ _ _)))))
    | modelDir => exact .some _ _ _
    | insecure => exact .none (.some _ _ _)
  have hload : outcome (load plainDisk (requestWith [])).2 = some ("http://b/", "models", false) := by
    decide +kernel
  refine ⟨l, l', hfixed, hsame, hload, ?_⟩
  rw [← hload]
  exact ((load_winners l l' hfixed).2.1 hsame).symm

end TypedContent.Settings
