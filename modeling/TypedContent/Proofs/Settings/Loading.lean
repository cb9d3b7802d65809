import TypedContent.Settings.Load

/-!
# Settings that were accepted

`Loaded` takes apart what led to a configuration, step by step, and `exists_loaded` finds the steps
of every configuration.  From them follows where its sources are (`Loaded.source`), that its paths
are absolute (`Loaded.anchor_modelPath`), and that its model directory is not blank
(`Loaded.modelDir`).
-/

namespace TypedContent.Settings

open Files

/-! ## Single steps -/

theorem firstFile_eq_some {d : Disk} {ps : List Path} {p : Path}
    (h : firstFile d ps = .ok (some p)) : p ∈ ps ∧ d.isFile p = .ok true := by
  induction ps with
  | nil => simp [firstFile] at h
  | cons q ps ih =>
    rw [firstFile] at h
    cases hq : d.isFile q with
    | error e => simp [hq, bind, Except.bind] at h
    | ok b =>
      cases b with
      | true =>
        simp only [hq, bind, Except.bind, if_true, pure, Except.pure, Except.ok.injEq,
          Option.some.injEq] at h
        exact h ▸ ⟨List.mem_cons_self, hq⟩
      | false =>
        simp only [hq, bind, Except.bind, Bool.false_eq_true, if_false] at h
        exact ⟨List.mem_cons_of_mem _ (ih h).1, (ih h).2⟩

/-- The settings file is in a directory with an absolute path. -/
theorem findFile_eq_some {d : Disk} {root : Option Path} {file : Path}
    (h : findFile d root = .ok (some file)) :
    d.isFile file = .ok true ∧ ∃ directory : Path, directory.anchor = .root ∧
      file = directory.child fileName := by
  unfold findFile at h
  simp only at h
  split at h
  · contradiction
  · split at h
    · obtain rfl := Except.ok.inj h
      rename_i hfirst
      obtain ⟨hmem, hfile⟩ := firstFile_eq_some hfirst
      obtain ⟨directory, hdir, rfl⟩ := List.mem_map.mp hmem
      refine ⟨hfile, directory, ?_, rfl⟩
      rcases List.mem_cons.mp hdir with rfl | hdir
      · rfl
      · obtain ⟨i, -, rfl⟩ := List.mem_map.mp hdir
        rfl
    · contradiction

/-- An environment file that assigns anything is there. -/
theorem isFile_of_read {d : Disk} {p : Path} {pairs : List (String × String)}
    (h : (EnvFile.read d p).2 = .ok pairs) (hne : pairs ≠ []) : d.isFile p = .ok true := by
  unfold EnvFile.read at h
  split at h
  · contradiction
  · exact absurd (Except.ok.inj h).symm hne
  · assumption

theorem readEnvFiles_cons_eq_ok_iff {d : Disk} {p : Path} {ps : List Path}
    {envs : List (Path × List (String × String))} :
    (readEnvFiles d (p :: ps)).2 = .ok envs ↔
      ∃ pairs rest, (EnvFile.read d p).2 = .ok pairs ∧ (readEnvFiles d ps).2 = .ok rest ∧
        envs = if pairs.isEmpty then rest else (p, pairs) :: rest := by
  rw [readEnvFiles]
  cases EnvFile.read d p with
  | mk log read =>
    cases readEnvFiles d ps with
    | mk more rest =>
      cases read with
      | error e => simp
      | ok pairs =>
        cases rest with
        | error e => simp
        | ok rest =>
          constructor
          · exact fun h => ⟨pairs, rest, rfl, rfl, (Except.ok.inj h).symm⟩
          · rintro ⟨_, _, ⟨rfl⟩, ⟨rfl⟩, rfl⟩
            rfl

theorem readEnvFiles_eq_ok {d : Disk} {ps : List Path}
    {envs : List (Path × List (String × String))} (h : (readEnvFiles d ps).2 = .ok envs) :
    ∀ e ∈ envs, e.1 ∈ ps ∧ d.isFile e.1 = .ok true := by
  induction ps generalizing envs with
  | nil =>
    obtain rfl := Except.ok.inj h
    simp
  | cons p ps ih =>
    obtain ⟨pairs, rest, hread, hrest, rfl⟩ := readEnvFiles_cons_eq_ok_iff.mp h
    have hbehind (e) (hmem : e ∈ rest) : e.1 ∈ p :: ps ∧ d.isFile e.1 = .ok true :=
      ⟨List.mem_cons_of_mem _ (ih hrest e hmem).1, (ih hrest e hmem).2⟩
    intro e he
    split at he
    · exact hbehind e he
    · rename_i hpairs
      rcases List.mem_cons.mp he with rfl | hmem
      · exact ⟨List.mem_cons_self, isFile_of_read hread (by simpa using hpairs)⟩
      · exact hbehind e hmem

theorem checkModelDir_eq_ok {given : Option Given} {s : String}
    (h : checkModelDir given = .ok s) : Text.trim s.toList ≠ [] := by
  unfold checkModelDir at h
  split at h
  · obtain rfl := Except.ok.inj h
    decide
  · simp only at h
    split at h
    · contradiction
    · split at h
      · contradiction
      · obtain rfl := Except.ok.inj h
        assumption

theorem settle_eq_ok {root : Path} {environment : Environment} {sources : List Path}
    {fixed? : Option String} {vs : Values} {config : Configuration}
    (h : settle root environment sources fixed? vs = .ok config) :
    config.rootDir = root ∧ config.sources = sources ∧
      checkModelDir (vs .modelDir) = .ok config.modelDir := by
  unfold settle at h
  split at h
  · contradiction
  · simp only at h
    split at h
    · split at h
      · contradiction
      · contradiction
      · rename_i hboth
        obtain rfl := Except.ok.inj h
        refine ⟨rfl, rfl, ?_⟩
        unfold Schema.both at hboth
        split at hboth
        · rename_i hdir
          rw [hdir, (Prod.mk.inj (Except.ok.inj hboth)).2]
        all_goals contradiction
    · contradiction

/-! ## All steps -/

/-- The steps that led to a configuration. -/
structure Loaded (d : Disk) (r : Request) (config : Configuration) (environment : Environment)
    (file : Option Path) (ofFile : List (Field × Given))
    (envs : List (Path × List (String × String))) : Prop where
  known : Environment.ofName? r.environment = some environment
  found : findFile d r.root = .ok file
  read : file.elim (.ok []) (readFile d) = .ok ofFile
  readEnvs : (readEnvFiles d ((envFileNames r.environment).map
    (projectRoot d r.root file).child)).2 = .ok envs
  settled : settle (projectRoot d r.root file) environment (file.toList ++ envs.map (·.1))
    (fixedOverride? r.overrides)
    (Values.none.setAll (ofFile ++ envs.flatMap (fun e => ofVariables e.2) ++ ofProcess r.environ ++
      ofOverrides r.overrides)) = .ok config

theorem exists_loaded {d : Disk} {r : Request} {config : Configuration}
    (h : (load d r).2 = .ok config) :
    ∃ environment file ofFile envs, Loaded d r config environment file ofFile envs := by
  unfold load at h
  cases henv : Environment.ofName? r.environment with
  | none => simp [henv] at h
  | some environment =>
    simp only [henv] at h
    cases hfile : findFile d r.root with
    | error e => simp [hfile] at h
    | ok file =>
      simp only [hfile] at h
      cases hread : file.elim (.ok []) (readFile d) with
      | error e => simp [hread] at h
      | ok ofFile =>
        simp only [hread] at h
        cases hfiles : readEnvFiles d ((envFileNames r.environment).map
            (projectRoot d r.root file).child) with
        | mk more o =>
          cases o with
          | error e => simp [hfiles] at h
          | ok envs =>
            simp only [hfiles] at h
            refine ⟨environment, file, ofFile, envs, henv, hfile, hread, by rw [hfiles], ?_⟩
            split at h
            · contradiction
            · rename_i hsettled
              obtain rfl := Except.ok.inj h
              exact hsettled

/-- The names that a source can have. -/
def sourceNames : List String :=
  fileName :: Environment.all.flatMap fun environment => envFileNames environment.name

namespace Loaded

variable {d : Disk} {r : Request} {config : Configuration} {environment : Environment}
  {file : Option Path} {ofFile : List (Field × Given)} {envs : List (Path × List (String × String))}

theorem modelDir (h : Loaded d r config environment file ofFile envs) :
    Text.trim config.modelDir.toList ≠ [] :=
  checkModelDir_eq_ok (settle_eq_ok h.settled).2.2

theorem anchor_rootDir (h : Loaded d r config environment file ofFile envs) :
    config.rootDir.anchor = .root := by
  rw [(settle_eq_ok h.settled).1]
  unfold projectRoot
  split
  · rfl
  · rename_i file
    obtain ⟨-, directory, hdirectory, rfl⟩ := findFile_eq_some h.found
    rw [Path.parent_child, hdirectory]
  · rfl

theorem anchor_modelPath (h : Loaded d r config environment file ofFile envs) :
    config.modelPath.anchor ≠ .here := by
  unfold Configuration.modelPath Path.join
  split
  · simp [h.anchor_rootDir]
  · assumption

/-- A source is a file that is there, under one of few names. -/
theorem source (h : Loaded d r config environment file ofFile envs) {source : Path}
    (hs : source ∈ config.sources) :
    d.isFile source = .ok true ∧
      ∃ (directory : Path) (name : String), source = directory.child name ∧ name ∈ sourceNames := by
  rw [(settle_eq_ok h.settled).2.1, List.mem_append] at hs
  rcases hs with hs | hs
  · obtain rfl := Option.mem_toList.mp hs
    obtain ⟨hfile, directory, -, rfl⟩ := findFile_eq_some h.found
    exact ⟨hfile, directory, fileName, rfl, List.mem_cons_self⟩
  · obtain ⟨e, he, rfl⟩ := List.mem_map.mp hs
    obtain ⟨hmem, hfile⟩ := readEnvFiles_eq_ok h.readEnvs e he
    obtain ⟨name, hname, hpath⟩ := List.mem_map.mp hmem
    refine ⟨hfile, _, name, hpath.symm, List.mem_cons_of_mem _ ?_⟩
    have hnamed : environment ∈ Environment.all ∧ environment.name = r.environment := by
      have hfound := h.known
      unfold Environment.ofName? at hfound
      exact ⟨List.mem_of_find?_eq_some hfound, by simpa using List.find?_some hfound⟩
    exact List.mem_flatMap.mpr ⟨environment, hnamed.1, hnamed.2 ▸ hname⟩

end Loaded

end TypedContent.Settings
