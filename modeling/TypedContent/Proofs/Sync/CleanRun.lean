import TypedContent.Proofs.Sync.Report
import TypedContent.Sync.Memory

/-!
# Runs without errors

A run that reports success and no errors leaves the model directory in agreement with the overview:
`Synchronized` says what is in it then, file by file, and `exists_synchronized` that every such run
gets there.
-/

namespace TypedContent.Sync

open Files Schema TypeScript

/-- What the client gave for an identifier, on a disk that the fan-out came across, is valid and
describes `definition`. -/
def Describes (j : Job) (s : Schedule) (types : List TypeSummary) (c : Cleanup) (guid : String)
    (definition : TypeDefinition) : Prop :=
  ∃ seen payload, FanOut.Meets (j.work types) s c.disk types seen ∧
    (j.client.answer seen (.type guid)).outcome = .ok payload ∧
    TypeDefinition.ofJson payload = .ok definition

/-- What `e` holds in and below the directory at `l` after a run that started on `d`, found `listed`
in the overview and cleaned up as `c` tells. -/
structure Synchronized (j : Job) (s : Schedule) (d e : Disk) (l : Location)
    (listed : List TypeSummary) (c : Cleanup) : Prop where
  overview : ∃ payload,
    (j.client.answer (d.makeDirectory j.directory).1 .overview).outcome = .ok payload ∧
      readOverview payload = .ok listed
  cleared : (clearModels (d.makeDirectory j.directory).1 j.directory
    ((overviewNames listed).map Identifier.dataName)).2 = .ok c
  directory : e.entry j.directory = .ok (l, .directory)
  model : ∀ name ∈ overviewNames listed, ∃ t definition file,
    listed.find? (fun t => t.name = name) = some t ∧
      Describes j s (uniqueTypes listed) c t.guid definition ∧
      modelFile definition (overviewNames listed) = .ok file ∧
      e.tree.file? (l ++ [modelFileName name]) = some file.content.toUTF8
  registry : e.tree.file? (l ++ [registryFileName]) =
    some (registryFile (overviewNames listed)).content.toUTF8
  /-- Of the other files those with a stem of the run stay as they were, and no others. -/
  other : ∀ name, Path.IsName name → name ≠ registryFileName →
    (∀ n ∈ overviewNames listed, name ≠ modelFileName n) →
    e.tree.file? (l ++ [name]) =
      if Path.stemOf name = registryName ∨
          Path.stemOf name ∈ (overviewNames listed).map Identifier.dataName then
        d.tree.file? (l ++ [name])
      else none
  subdirectory : ∀ name, d.tree.find? (l ++ [name]) = some .directory →
    e.tree.find? (l ++ [name]) = some .directory
  /-- Below subdirectories nothing changes, except that directories may have to be made for a path
  to the model directory that did not lead there yet. -/
  below : ∀ name inner rest,
    e.tree.find? (l ++ name :: inner :: rest) = d.tree.find? (l ++ name :: inner :: rest) ∨
      MadeOnTheWay d e j.directory (l ++ name :: inner :: rest) ∧
        ∀ k, d.entry j.directory ≠ .ok (k, .directory)

namespace Reached

variable {j : Job} {s : Schedule} {d : Disk} {r : Report} {l : Location}
  {listed types : List TypeSummary} {c : Cleanup} {g : TypeSummary → Except ModelError SourceFile}

/-- A type without a failure has its model, generated from what the client gave. -/
theorem model (h : Reached j s d r l listed types c g) {t : TypeSummary} (ht : t ∈ types)
    (hok : failureOf j.directory c.disk l g t = none) :
    ∃ definition file, Describes j s types c t.guid definition ∧ definition.name = t.name ∧
      modelFile definition (types.map (·.name)) = .ok file ∧
      (j.run s d).disk.tree.file? (modelAt l t) = some file.content.toUTF8 := by
  have hentry := h.settled.model t ht
  obtain ⟨seen, hmeets, hgen⟩ := h.generated t ht
  rw [generateModel_outcome] at hgen
  unfold failureOf at hok
  cases hg : g t with
  | error e => simp [hg, taskOutcome] at hok
  | ok file =>
    obtain ⟨payload, definition, hp, hd, hn, hf⟩ := modelOf_eq_ok_iff.mp (hgen.trans hg)
    refine ⟨definition, file, ⟨seen, payload, hmeets, eq_ok_of_usable_eq_some hp, hd⟩, hn, hf, ?_⟩
    rw [Tree.file?_eq_some_iff, h.disk, hentry, hg]
    cases hw : c.disk.writeAccess j.directory l (modelFileName t.name) with
    | error e => simp [hg, taskOutcome, hw, Except.mapError, Except.map] at hok
    | ok u => simp [modelEntry, hw, stored]

theorem other (h : Reached j s d r l listed types c g) (herr : c.errors = [])
    {name : String} (hname : Path.IsName name) (hr : name ≠ registryFileName)
    (hm : ∀ t ∈ types, name ≠ modelFileName t.name) :
    (j.run s d).disk.tree.file? (l ++ [name]) =
      if Path.stemOf name = registryName ∨ Path.stemOf name ∈ modelStems types then
        d.tree.file? (l ++ [name])
      else none := by
  have hcleanup : (j.run s d).disk.tree.file? (l ++ [name]) = c.disk.tree.file? (l ++ [name]) := by
    refine Tree.file?_congr (h.find?_eq ?_ fun t ht => ?_)
    · simpa [registryAt] using hr
    · simpa [modelAt] using hm t ht
  rw [hcleanup]
  cases hs : isStale (modelStems types) name with
  | true =>
    rw [if_neg fun hk => by simp [isStale_eq_false_iff.mpr hk] at hs]
    exact h.file?_of_stale hname (h.refusal?_eq_none herr) hs
  | false =>
    rw [if_pos (isStale_eq_false_iff.mp hs)]
    exact h.prepared.file?_of_fresh hs

theorem below (h : Reached j s d r l listed types c g) (name inner : String) (rest : List String) :
    (j.run s d).disk.tree.find? (l ++ name :: inner :: rest) =
        d.tree.find? (l ++ name :: inner :: rest) ∨
      MadeOnTheWay d (j.run s d).disk j.directory (l ++ name :: inner :: rest) ∧
        ∀ k, d.entry j.directory ≠ .ok (k, .directory) := by
  have hlen : ∀ m : Location, m.length ≤ l.length + 1 → l ++ name :: inner :: rest ≠ m := by
    intro m hm e
    have := congrArg List.length e
    simp only [List.length_append, List.length_cons] at this
    omega
  have hfind : (j.run s d).disk.tree.find? (l ++ name :: inner :: rest) =
      (d.makeDirectory j.directory).1.tree.find? (l ++ name :: inner :: rest) := by
    rw [h.find?_eq (hlen _ (by simp [registryAt])) fun t _ => hlen _ (by simp [modelAt]),
      h.prepared.cleanup]
    refine find?_removeStale h.prepared.place (fun _ _ _ => hlen _ (by simp)) (hlen _ ?_)
    rw [List.length_dropLast]
    omega
  by_cases hthere : ∃ k, d.entry j.directory = .ok (k, .directory)
  · obtain ⟨k, hk⟩ := hthere
    rw [hfind, Disk.makeDirectory_of_entry hk]
    exact .inl rfl
  · rw [hfind]
    refine ((d.makeDirectory_extends j.directory).find _).imp_right fun hmade => ?_
    exact ⟨hmade.of_sameDirectories h.sameDirectories, fun k hk => hthere ⟨k, hk⟩⟩

end Reached

/-- A run that reports success and no errors has made the directory agree with the overview. -/
theorem exists_synchronized {j : Job} {s : Schedule} {d : Disk} {r : Report}
    (h : (j.run s d).report = .ok r) (hstatus : r.status = "ok") (herrors : r.errors = []) :
    ∃ l listed c, Synchronized j s d (j.run s d).disk l listed c := by
  obtain ⟨l, listed, types, c, g, hr, hfail, hregistry⟩ := exists_reached_of_ok h hstatus
  have hclean : c.errors = [] := by
    rw [hr.errors_eq, List.append_eq_nil_iff, otherErrors, List.append_eq_nil_iff] at herrors
    exact herrors.1.1
  have hstems : modelStems types = (overviewNames listed).map Identifier.dataName := by
    rw [modelStems, hr.names_eq]
  obtain ⟨payload, hpayload, hread⟩ := Job.overview_eq_some_iff.mp hr.prepared.overview
  have hplace := hr.sameDirectories.entry hr.prepared.place
  refine ⟨l, listed, c, ?_, ?_, hplace, ?_, ?_, ?_, ?_, hr.below⟩
  · exact ⟨payload, eq_ok_of_usable_eq_some hpayload, hread⟩
  · rw [← hstems]
    exact hr.prepared.cleared
  · intro name hname
    rw [← hr.names_eq] at hname
    obtain ⟨t, ht, rfl⟩ := List.mem_map.mp hname
    obtain ⟨definition, file, hd, -, hf, hfile⟩ := hr.model ht (hfail t ht)
    have hu := hr.prepared.unique
    rw [hr.names_eq] at hf
    refine ⟨t, definition, file, ?_, hu ▸ hd, hf, hfile⟩
    rw [hu] at ht
    exact find?_eq_some_of_mem_distinctBy ht
  · rw [← hr.names_eq]
    exact hr.registryFile hregistry
  · intro name hname hreg hmodels
    rw [← hstems]
    refine hr.other hclean hname hreg fun t ht => hmodels _ ?_
    rw [← hr.names_eq]
    exact List.mem_map_of_mem ht
  · intro name hdir
    exact (hr.sameDirectories.directory _).mpr ((d.makeDirectory_extends _).directory hdir)

/-- A server that lists one name twice. -/
def pageJob : Job where
  client := (MemoryServer.ofTypes "https://example.org"
    [.obj [("name", .str "Page"), ("guid", .str "1")],
     .obj [("name", .str "Page"), ("guid", .str "2")]]).client
  directory := ⟨.root, ["models"]⟩
  login := none
  workers := defaultWorkers

def staleDisk : Disk where
  tree := ⟨[(["models"], .directory), (["models", "Old.ts"], .file .empty)]⟩
  current := []
  faults := noFaults

theorem exists_synchronized_page :
    ∃ r, (pageJob.run .sequential staleDisk).report = .ok r ∧ r.status = "ok" ∧ r.errors = [] ∧
      ∃ l listed c, Synchronized pageJob .sequential staleDisk
        (pageJob.run .sequential staleDisk).disk l listed c := by
  have hrun : ((pageJob.run .sequential staleDisk).report.toOption.map fun r =>
      (r.status, r.errors)) = some ("ok", []) := by decide +kernel
  cases h : (pageJob.run .sequential staleDisk).report with
  | error e => simp [h, Except.toOption] at hrun
  | ok r =>
    simp only [h, Except.toOption, Option.map_some, Option.some.injEq, Prod.mk.injEq] at hrun
    exact ⟨r, rfl, hrun.1, hrun.2, exists_synchronized h hrun.1 hrun.2⟩

end TypedContent.Sync
