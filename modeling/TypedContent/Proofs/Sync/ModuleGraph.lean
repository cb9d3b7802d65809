import TypedContent.Proofs.Declarations
import TypedContent.Proofs.Sync.CleanRun

/-!
# The module graph of a run

The files that a successful run leaves behind refer to one another only: `ClosedGraph` says which
stems they belong to and what is in them, and `exists_closedGraph` that every such run leaves one.
-/

namespace TypedContent.Sync

open Files Schema TypeScript

/-- What the model directory at `l` holds for the models told in `r`, whose stems are `stems`. -/
structure ClosedGraph (e : Disk) (p : Path) (l : Location) (r : Report) (stems : List String) :
    Prop where
  directory : e.entry p = .ok (l, .directory)
  written : r.written = stems.map fun x => (p.child (x ++ "Data.ts")).toString
  nodup : stems.Nodup
  /-- The file of a stem declares what others import from it, and itself imports declared stems. -/
  model : ∀ x ∈ stems, ∃ (definition : TypeDefinition) (targets : List String),
    e.tree.file? (l ++ [x ++ "Data.ts"]) =
      some (modelSections definition r.typeNames).text.toUTF8 ∧
    Declares (modelSections definition r.typeNames) x ∧
    (modelSections definition r.typeNames).get "imports" =
      .ok ("import \x7b ContentDelivery, Taxonomy, ComponentTypes \x7d from '@episerver/spa-core'" ::
        targets.map importOf) ∧
    ∀ y ∈ targets, y ∈ stems
  /-- The registry has the factories of these stems. -/
  registry : e.tree.file? (l ++ ["TypeMapper.ts"]) =
      some (registrySections r.typeNames).text.toUTF8 ∧
    (registrySections r.typeNames).get "factories" =
      .ok (("  protected factories : \x7b [dataModel: string]: " ++
        "() => Promise<Taxonomy.IContentType> \x7d = \x7b") ::
        stems.map factoryOf ++ ["  \x7d"])
  factory : ∀ x ∈ stems, (stems.map factoryOf).count (factoryOf x) = 1

namespace Reached

variable {j : Job} {s : Schedule} {d : Disk} {r : Report} {l : Location}
  {listed types : List TypeSummary} {c : Cleanup} {g : TypeSummary → Except ModelError SourceFile}

theorem nodup_stems (h : Reached j s d r l listed types c g) :
    (r.typeNames.map Identifier.stem).Nodup := by
  rw [h.typeNames_eq]
  exact List.Nodup.map_on
    (fun m hm n hn => Collision.stem_injOn h.prepared.apart hm hn) h.prepared.nodup_names

/-- The model of a type that did not fail, section by section. -/
theorem file?_modelAt (h : Reached j s d r l listed types c g) {t : TypeSummary} (ht : t ∈ types)
    (hok : failureOf j.directory c.disk l g t = none) :
    ∃ definition, definition.name = t.name ∧
      (j.run s d).disk.tree.file? (modelAt l t) =
        some (modelSections definition r.typeNames).text.toUTF8 := by
  obtain ⟨definition, file, -, hname, hfile, hstored⟩ := h.model ht hok
  refine ⟨definition, hname, ?_⟩
  rw [hstored, modelFile_content hfile, h.typeNames_eq]

end Reached

/-- A run that reports success leaves files that refer to one another only. -/
theorem exists_closedGraph {j : Job} {s : Schedule} {d : Disk} {r : Report}
    (h : (j.run s d).report = .ok r) (hstatus : r.status = "ok") :
    ∃ l, ClosedGraph (j.run s d).disk j.directory l r (r.typeNames.map Identifier.stem) := by
  obtain ⟨l, listed, types, c, g, hr, hfail, hregistry⟩ := exists_reached_of_ok h hstatus
  refine ⟨l, hr.sameDirectories.entry hr.prepared.place, ?_, hr.nodup_stems, ?_, ⟨?_, ?_⟩, ?_⟩
  · have hall : types.filter (fun t => (failureOf j.directory c.disk l g t).isNone) = types :=
      List.filter_eq_self.mpr fun t ht => by rw [hfail t ht]; rfl
    rw [hr.written_eq, hall, hr.typeNames_eq, List.map_map, List.map_map]
    exact List.map_congr_left fun t _ => by simp only [modelPath, modelFileName_eq, Function.comp]
  · intro x hx
    obtain ⟨name, hname, rfl⟩ := List.mem_map.mp hx
    rw [hr.typeNames_eq] at hname
    obtain ⟨t, ht, rfl⟩ := List.mem_map.mp hname
    obtain ⟨definition, hdef, hfile⟩ := hr.file?_modelAt ht (hfail t ht)
    refine ⟨definition, (references definition r.typeNames).map Identifier.stem, ?_, ?_, ?_, ?_⟩
    · rw [← modelFileName_eq]
      exact hfile
    · rw [← hdef]
      exact declares_modelSections definition _
    · exact congrArg Except.ok (importLines_eq definition _)
    · intro y hy
      obtain ⟨tag, htag, rfl⟩ := List.mem_map.mp hy
      exact List.mem_map_of_mem (mem_known_of_mem_references htag)
  · rw [hr.typeNames_eq]
    exact hr.registryFile hregistry
  · refine get_factories ?_
    rw [hr.typeNames_eq]
    exact hr.prepared.nodup_names
  · intro x hx
    refine List.count_eq_one_of_mem ?_ (List.mem_map_of_mem hx)
    exact hr.nodup_stems.map fun _ _ => factoryOf_inj.mp

/-- Two types that refer to each other, with names that are no identifiers. -/
def mutualJob : Job where
  client := (MemoryServer.ofTypes "https://example.org"
    [.obj [("name", .str "Start Page"), ("guid", .str "1"),
      ("properties", .arr [.obj [("name", .str "Teaser"), ("type", .str "2nd 'block'")]])],
     .obj [("name", .str "2nd 'block'"), ("guid", .str "2"),
      ("properties", .arr [.obj [("name", .str "Owner"), ("type", .str "Start Page")]])]]).client
  directory := ⟨.root, ["models"]⟩
  login := none
  workers := defaultWorkers

theorem exists_closedGraph_mutual :
    ∃ r, (mutualJob.run .sequential staleDisk).report = .ok r ∧ r.status = "ok" ∧
      r.typeNames.map Identifier.stem = ["Start_Page", "_2nd__block_"] ∧
      ∃ l, ClosedGraph (mutualJob.run .sequential staleDisk).disk mutualJob.directory l r
        (r.typeNames.map Identifier.stem) := by
  have hrun : ((mutualJob.run .sequential staleDisk).report.toOption.map fun r =>
      (r.status, r.typeNames.map Identifier.stem)) =
        some ("ok", ["Start_Page", "_2nd__block_"]) := by decide +kernel
  cases h : (mutualJob.run .sequential staleDisk).report with
  | error e => simp [h, Except.toOption] at hrun
  | ok r =>
    simp only [h, Except.toOption, Option.map_some, Option.some.injEq, Prod.mk.injEq] at hrun
    exact ⟨r, rfl, hrun.1, hrun.2, exists_closedGraph h hrun.1⟩

end TypedContent.Sync
