import TypedContent.Proofs.Fallible
import TypedContent.Proofs.Settings.Loading
import TypedContent.Proofs.Sync.Frame
import TypedContent.Sync.Memory

/-!
# Runs and the files of their settings

The files that settings come from are stale for every run, so what keeps them is only that a run
removes nothing outside its directory.  `sources_run` says what that comes to: a source stays if the
model path does not lead to the directory that it is in, and else it goes.
-/

namespace TypedContent.Settings

open Files Sync

/-- No source can be taken for a model or for the registry. -/
theorem sourceNames_foreign : ∀ name ∈ sourceNames,
    (name ≠ "" ∧ name ≠ "." ∧ name ≠ ".." ∧ '/' ∉ name.toList ∧ '\x00' ∉ name.toList) ∧
    Path.stemOf name ≠ TypeScript.registryName ∧
    (Path.stemOf name).toList.reverse.take 4 ≠ ['a', 't', 'a', 'D'] := by
  decide +kernel

theorem isName_of_mem_sourceNames {name : String} (h : name ∈ sourceNames) : Path.IsName name := by
  obtain ⟨⟨hempty, hdot, hdots, hslash, hnul⟩, -, -⟩ := sourceNames_foreign name h
  exact ⟨hempty, hdot, hdots, hslash, hnul⟩

theorem isStale_of_mem_sourceNames {name : String} (h : name ∈ sourceNames) (names : List String) :
    isStale (names.map Identifier.dataName) name = true := by
  obtain ⟨-, hregistry, hdata⟩ := sourceNames_foreign name h
  rw [← Bool.not_eq_false, isStale_eq_false_iff]
  rintro (hstem | hstem)
  · exact hregistry hstem
  · obtain ⟨n, -, hn⟩ := List.mem_map.mp hstem
    rw [← hn, Identifier.toList_dataName, List.reverse_append] at hdata
    exact hdata rfl

/-- A run keeps the sources of its settings exactly where its directory is not theirs. -/
theorem sources_run {d : Disk} {request : Request} {config : Configuration}
    (hload : (load d request).2 = .ok config) {j : Job} (hj : j.directory = config.modelPath)
    (s : Schedule) {source : Path} (hsource : source ∈ config.sources) :
    Text.trim config.modelDir.toList ≠ [] ∧
      ∃ (m : Location) (b : ByteArray), d.entry source = .ok (m, .file b) ∧
        ((d.makeDirectory j.directory).1.entry j.directory ≠ .ok (m.dropLast, .directory) →
          (j.run s d).disk.tree.file? m = some b) ∧
        ∀ r, (j.run s d).report = .ok r → r.aborted = false →
          (d.makeDirectory j.directory).1.entry j.directory = .ok (m.dropLast, .directory) →
          refusal? (d.makeDirectory j.directory).1 j.directory
            (r.typeNames.map Identifier.dataName) source.name = none →
          (j.run s d).disk.tree.file? m = none := by
  obtain ⟨environment, file, ofFile, envs, h⟩ := exists_loaded hload
  obtain ⟨hfile, directory, name, rfl, hname⟩ := h.source hsource
  obtain ⟨-, m, b, hentry⟩ := Disk.isFile_eq_ok_true_iff.mp hfile
  obtain ⟨hlocate, hb⟩ := Disk.entry_eq_ok_iff.mp hentry
  have hisName := isName_of_mem_sourceNames hname
  -- The source is an entry of its directory.
  obtain ⟨k, hk⟩ := Disk.hasDirectory_of_locate_child hlocate
  obtain rfl : m = k ++ [name] :=
    (Disk.locate_child_cases hk hlocate).resolve_right fun hup => hisName.ne_dots hup.1
  refine ⟨h.modelDir, _, b, hentry, fun houtside => ?_, fun r hr ha hinside hrefused => ?_⟩
  · rw [List.dropLast_concat] at houtside
    rw [file?_run_of_outside j s d fun l hl => ⟨?_, ?_⟩, Tree.file?_eq_some_iff.mpr hb]
    · rw [List.dropLast_concat]
      rintro rfl
      exact houtside hl
    · intro he
      have hanchor : j.directory.anchor ≠ .here := hj ▸ h.anchor_modelPath
      have hup := Disk.find?_dropLast_of_entry hanchor hl
      have hkept := (d.makeDirectory_extends j.directory).file? (k ++ [name])
      rw [Tree.file?_eq_some_iff.mpr hb, he, Tree.file?, hup] at hkept
      contradiction
  · obtain ⟨l, listed, types, c, g, hreached⟩ := exists_reached hr ha
    have hplace := hreached.prepared.place
    rw [List.dropLast_concat] at hinside
    rw [hinside] at hplace
    obtain ⟨rfl, -⟩ := Prod.mk.inj (Except.ok.inj hplace)
    rw [hreached.typeNames_eq, Path.name_child] at hrefused
    exact hreached.file?_run_of_stale hisName
      (isStale_of_mem_sourceNames hname _) hrefused

/-- A project with one environment file. -/
def projectDisk : Disk where
  tree := ⟨[(["project"], .directory),
    (["project", ".env"], .file "EPI_URL=http://localhost/\n".toUTF8)]⟩
  current := ["project"]
  faults := noFaults

/-- Settings whose model directory is given by `dir`. -/
def requestFor (dir : String) : Request where
  root := none
  environment := "development"
  overrides := [("model_dir", .str dir)]
  environ := []

/-- A run into a directory, against a server without types. -/
def jobFor (directory : Path) : Job where
  client := (MemoryServer.ofTypes "http://localhost/" []).client
  directory
  login := none
  workers := defaultWorkers

/-- What is loaded when the model directory is given by `dir`. -/
def loaded? (dir : String) : Option Configuration := (load projectDisk (requestFor dir)).2.toOption

theorem loaded?_eq_some {dir : String} {config : Configuration} (h : loaded? dir = some config) :
    (load projectDisk (requestFor dir)).2 = .ok config := Fallible.eq_ok_of_toOption h

/-- A directory below that of the project, which the run has to make first. -/
theorem sources_run_project :
    ∃ config, (load projectDisk (requestFor "src/Models")).2 = .ok config ∧
      (jobFor config.modelPath).directory = config.modelPath ∧
      ⟨.root, ["project", ".env"]⟩ ∈ config.sources ∧
      ∃ b, projectDisk.entry ⟨.root, ["project", ".env"]⟩ =
          .ok (["project", ".env"], .file b) ∧
        ((jobFor config.modelPath).run .sequential projectDisk).disk.tree.file?
          ["project", ".env"] = some b := by
  have hload : (loaded? "src/Models").map (fun c => (c.sources, c.modelPath)) =
      some ([⟨.root, ["project", ".env"]⟩], ⟨.root, ["project", "src", "Models"]⟩) := by
    decide +kernel
  have hplace : (projectDisk.entry ⟨.root, ["project", ".env"]⟩).toOption.map (·.1) =
      some ["project", ".env"] := by decide +kernel
  have hdirectory : ((projectDisk.makeDirectory ⟨.root, ["project", "src", "Models"]⟩).1.entry
      ⟨.root, ["project", "src", "Models"]⟩).toOption.map (·.1) =
        some ["project", "src", "Models"] := by decide +kernel
  obtain ⟨config, hconfig, hfields⟩ := Option.map_eq_some_iff.mp hload
  obtain ⟨hsources, hpath⟩ := Prod.mk.inj hfields
  have hsource : ⟨.root, ["project", ".env"]⟩ ∈ config.sources := by simp [hsources]
  obtain ⟨-, m, b, hentry, hkept, -⟩ := sources_run (j := jobFor config.modelPath)
    (loaded?_eq_some hconfig) rfl .sequential hsource
  simp only [hentry, Except.toOption, Option.map_some, Option.some.injEq] at hplace
  subst hplace
  refine ⟨config, loaded?_eq_some hconfig, rfl, hsource, b, hentry, hkept fun hinside => ?_⟩
  simp only [jobFor, hpath] at hinside
  simp [hinside, Except.toOption] at hdirectory

/-- A directory that is not blank may be that of the project, and then the run removes the very
file that the settings were read from. -/
theorem source_removed_project :
    ∃ config, (load projectDisk (requestFor ".")).2 = .ok config ∧
      ⟨.root, ["project", ".env"]⟩ ∈ config.sources ∧
      (projectDisk.tree.file? ["project", ".env"]).isSome = true ∧
      ((jobFor config.modelPath).run .sequential projectDisk).disk.tree.file? ["project", ".env"] =
        none := by
  have hload : (loaded? ".").map (fun c => (c.sources, c.modelPath)) =
      some ([⟨.root, ["project", ".env"]⟩], ⟨.root, ["project"]⟩) := by
    decide +kernel
  have hgone : (((jobFor ⟨.root, ["project"]⟩).run .sequential projectDisk).disk.tree.file?
      ["project", ".env"]).isNone = true := by
    decide +kernel
  obtain ⟨config, hconfig, hfields⟩ := Option.map_eq_some_iff.mp hload
  obtain ⟨hsources, hpath⟩ := Prod.mk.inj hfields
  refine ⟨config, loaded?_eq_some hconfig, by simp [hsources], by decide +kernel, ?_⟩
  rw [hpath]
  exact Option.isNone_iff_eq_none.mp hgone

end TypedContent.Settings
