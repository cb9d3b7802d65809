import Mathlib.Data.List.Nodup
import TypedContent.Proofs.Sync.Prelude

/-!
# Reports of whole runs

`failures_perm`: the failures of a fan-out are collected in some order, each of them once;
`failed_eq`: the names of the failed types are theirs, in the order of the types.

A run that is not given up reaches a settled fan-out, and `Reached` holds all there is to say of it.
`Reached.errors_eq` and `Reached.failed_eq` say what its report tells of the types that failed.
-/

namespace TypedContent.Sync

open Files Schema TypeScript

/-! ## Lists -/

section Lists

variable {α β : Type}

theorem filterMap_range_getElem? (f : α → Option β) (xs : List α) :
    (List.range xs.length).filterMap (fun i => xs[i]?.bind f) = xs.filterMap f := by
  induction xs with
  | nil => rfl
  | cons x xs ih =>
    rw [List.length_cons, List.range_succ_eq_map, List.filterMap_cons, List.filterMap_map,
      List.filterMap_cons]
    have htail : (List.range xs.length).filterMap
        ((fun i => (x :: xs)[i]?.bind f) ∘ Nat.succ) = xs.filterMap f := ih
    rw [htail]
    rfl

theorem map_filter_eq_filterMap (p : α → Bool) (f : α → β) (xs : List α) :
    (xs.filter p).map f = xs.filterMap fun x => if p x then some (f x) else none := by
  rw [← List.filterMap_eq_map, List.filterMap_filter]
  rfl

end Lists

/-! ## Collecting failures -/

/-- The name of a type that failed, and why. -/
def Task.failure? (t : Task) : Option (String × ModelError) :=
  match t.outcome with
  | .ok _ => none
  | .error e => some (t.type.name, e)

/-- The entry of a report for a type that failed. -/
def failureLine (failure : String × ModelError) : String := failure.1 ++ ": " ++ failure.2.message

namespace FanOut

theorem collectionOrder_perm (order : List Nat) (n : Nat) :
    (collectionOrder order n).Perm (List.range n) := by
  refine (List.perm_ext_iff_of_nodup (nodup_distinct _) List.nodup_range).mpr fun i => ?_
  rw [mem_distinct, List.mem_append, List.mem_filter, List.mem_range]
  constructor
  · rintro (⟨-, h⟩ | h)
    · exact of_decide_eq_true h
    · exact h
  · exact .inr

/-- All failures are collected, each of them once. -/
theorem failures_perm (f : FanOut) (order : List Nat) :
    (f.failures order).Perm (f.tasks.filterMap Task.failure?) := by
  have h := (collectionOrder_perm order f.tasks.length).filterMap
    fun i => f.tasks[i]?.bind Task.failure?
  rw [filterMap_range_getElem?] at h
  have hsame : f.failures order =
      (collectionOrder order f.tasks.length).filterMap fun i => f.tasks[i]?.bind Task.failure? := by
    unfold failures
    congr 1
    funext i
    cases f.tasks[i]? <;> rfl
  rwa [hsame]

theorem failed_eq (f : FanOut) : f.failed = (f.tasks.filterMap Task.failure?).map (·.1) := by
  rw [failed, List.map_filterMap]
  congr 1
  funext t
  unfold Task.failure?
  cases t.outcome <;> rfl

end FanOut

/-! ## Runs that reach their fan-out -/

/-- A run that reached its fan-out on the disk `c.disk` and generated `g` there. -/
structure Reached (j : Job) (s : Schedule) (d : Disk) (r : Report) (l : Location)
    (listed types : List TypeSummary) (c : Cleanup)
    (g : TypeSummary → Except ModelError SourceFile) : Prop where
  prepared : Prepared j.directory j.overview d l listed types c
  generated : ∀ t ∈ types,
    FanOut.Generates (FanOut.Meets (j.work types) s c.disk types) (j.work types) t (g t)
  settled : FanOut.Settled j.directory (types.map (·.name)) c.disk l types g
    (j.fanOut s types c.disk)
  disk : (j.run s d).disk = (j.fanOut s types c.disk).disk
  report : r = Job.conclude (j.prepared d types c) (j.fanOut s types c.disk) s.collection

/-- The name of a type with the reason of its failure, if it fails when `g` is generated. -/
def failureOf (p : Path) (base : Disk) (l : Location)
    (g : TypeSummary → Except ModelError SourceFile) (t : TypeSummary) :
    Option (String × ModelError) :=
  match taskOutcome base p l t (g t) with
  | .ok _ => none
  | .error e => some (t.name, e)

/-- The errors of a report that concern no type: those of the cleanup and that of the registry. -/
def otherErrors (p : Path) (c : Cleanup) (l : Location) : List String :=
  c.errors ++ match registryOutcome c.disk p l with
    | .ok _ => []
    | .error e => [registryError e]

/-- A run whose prelude makes ready for the fan-out reports what came of it. -/
theorem Prepared.exists_reached {j : Job} {d : Disk} {l : Location}
    {listed types : List TypeSummary} {c : Cleanup}
    (h : Prepared j.directory j.overview d l listed types c)
    (hp : prelude j.directory j.overview d = (c.disk, .ready types c)) (s : Schedule) :
    ∃ r g, (j.run s d).report = .ok r ∧ r.aborted = false ∧ Reached j s d r l listed types c g := by
  obtain ⟨g, hg, hsettled⟩ := FanOut.exists_settled h.ready s
  have hdisk := j.run_disk s d
  have hreport := j.run_report s d
  rw [Job.outline, hp] at hdisk hreport
  exact ⟨_, g, hreport, rfl, h, hg, hsettled, hdisk, rfl⟩

/-- A run that reports anything but that it was given up has reached its fan-out. -/
theorem exists_reached {j : Job} {s : Schedule} {d : Disk} {r : Report}
    (h : (j.run s d).report = .ok r) (ha : r.aborted = false) :
    ∃ l listed types c g, Reached j s d r l listed types c g := by
  have hreport := h
  rw [Job.run_report, Job.outline] at hreport
  cases hp : prelude j.directory j.overview d with
  | mk e x =>
    rw [hp] at hreport
    cases x with
    | unnamed | stopped => simp at hreport
    | noDirectory | noOverview | colliding | unlisted =>
      rw [← Except.ok.inj hreport] at ha
      simp [Report.abort] at ha
    | ready types c =>
      obtain ⟨rfl, l, listed, hprep⟩ := prelude_eq_ready hp
      obtain ⟨r', g, hr', -, hreached⟩ := hprep.exists_reached hp s
      obtain rfl := Except.ok.inj (h.symm.trans hr')
      exact ⟨l, listed, types, c, g, hreached⟩

namespace Reached

variable {j : Job} {s : Schedule} {d : Disk} {r : Report} {l : Location}
  {listed types : List TypeSummary} {c : Cleanup} {g : TypeSummary → Except ModelError SourceFile}

theorem names_eq (h : Reached j s d r l listed types c g) :
    types.map (·.name) = overviewNames listed := by
  rw [h.prepared.unique]
  exact map_name_uniqueTypes listed

theorem sameDirectories (h : Reached j s d r l listed types c g) :
    SameDirectories (d.makeDirectory j.directory).1 (j.run s d).disk := by
  rw [h.disk]
  exact h.prepared.sameDirectories.trans h.settled.same

/-- What a run does not store itself is as the cleanup left it. -/
theorem find?_eq (h : Reached j s d r l listed types c g) {m : Location} (hr : m ≠ registryAt l)
    (hm : ∀ t ∈ types, m ≠ modelAt l t) : (j.run s d).disk.tree.find? m = c.disk.tree.find? m := by
  rw [h.disk]
  exact h.settled.elsewhere m hr hm

/-- What was generated for a type comes of an answer that the client gives on some disk. -/
theorem generated_eq (h : Reached j s d r l listed types c g) {t : TypeSummary} (ht : t ∈ types) :
    ∃ seen, g t =
      modelOf t (types.map (·.name)) (usable (j.client.answer seen (.type t.guid)).outcome) := by
  obtain ⟨seen, -, hgen⟩ := h.generated t ht
  exact ⟨seen, by rw [← hgen, generateModel_outcome]; rfl⟩

theorem failures_eq (h : Reached j s d r l listed types c g) :
    (j.fanOut s types c.disk).tasks.filterMap Task.failure? =
      types.filterMap (failureOf j.directory c.disk l g) := by
  rw [h.settled.tasks, List.filterMap_map]
  rfl

theorem failed_eq_failures (h : Reached j s d r l listed types c g) :
    r.failed = (types.filterMap (failureOf j.directory c.disk l g)).map (·.1) := by
  rw [h.report, ← h.failures_eq]
  exact FanOut.failed_eq _

/-- The types that failed, in the order of the overview. -/
theorem failed_eq (h : Reached j s d r l listed types c g) :
    r.failed =
      (types.filter fun t => (failureOf j.directory c.disk l g t).isSome).map (·.name) := by
  rw [h.failed_eq_failures, List.map_filterMap, map_filter_eq_filterMap]
  congr 1
  funext t
  unfold failureOf
  cases taskOutcome c.disk j.directory l t (g t) <;> rfl

/-- The paths of the models of all other types, in the same order. -/
theorem written_eq (h : Reached j s d r l listed types c g) :
    r.written = (types.filter fun t => (failureOf j.directory c.disk l g t).isNone).map
      fun t => (modelPath j.directory t).toString := by
  rw [h.report]
  change ((j.fanOut s types c.disk).tasks.filterMap
    fun t => t.outcome.toOption).map (·.toString) = _
  rw [h.settled.tasks, List.filterMap_map, List.map_filterMap, map_filter_eq_filterMap]
  congr 1
  funext t
  change (taskOutcome c.disk j.directory l t (g t)).toOption.map _ = _
  unfold failureOf
  cases ho : taskOutcome c.disk j.directory l t (g t) with
  | error e => rfl
  | ok x =>
    rw [taskOutcome_eq_ok ho]
    rfl

theorem typeNames_eq (h : Reached j s d r l listed types c g) :
    r.typeNames = types.map (·.name) := by
  rw [h.report]
  rfl

theorem removed_eq (h : Reached j s d r l listed types c g) : r.removed = c.removed := by
  rw [h.report]
  rfl

theorem registry_eq (h : Reached j s d r l listed types c g) :
    r.registry = (registryOutcome c.disk j.directory l).toOption.map (·.toString) := by
  rw [h.report]
  change (j.fanOut s types c.disk).registryPath.map (·.toString) = _
  rw [FanOut.registryPath, h.settled.registry]
  cases registryOutcome c.disk j.directory l <;> rfl

theorem registryFile (h : Reached j s d r l listed types c g) (hok : r.registry.isSome = true) :
    (j.run s d).disk.tree.file? (registryAt l) =
      some (TypeScript.registryFile (types.map (·.name))).content.toUTF8 := by
  rw [h.registry_eq] at hok
  rw [Tree.file?_eq_some_iff, h.disk, h.settled.registryFile]
  cases hw : c.disk.writeAccess j.directory l registryFileName with
  | error e => simp [registryOutcome, hw, Except.map, Except.toOption] at hok
  | ok u => simp [registryEntry, hw, stored]

theorem errors_eq (h : Reached j s d r l listed types c g) :
    r.errors = otherErrors j.directory c l ++
      ((j.fanOut s types c.disk).failures s.collection).map failureLine := by
  rw [h.report]
  change c.errors ++ (j.fanOut s types c.disk).registryErrors ++ _ = _
  rw [FanOut.registryErrors, h.settled.registry, otherErrors]
  cases registryOutcome c.disk j.directory l <;> rfl

/-- The failures of a run, in some order. -/
theorem failures_perm (h : Reached j s d r l listed types c g) :
    ((j.fanOut s types c.disk).failures s.collection).Perm
      (types.filterMap (failureOf j.directory c.disk l g)) := by
  rw [← h.failures_eq]
  exact FanOut.failures_perm _ _

/-- A report has one entry for each type that failed. -/
theorem failures_names_perm (h : Reached j s d r l listed types c g) :
    (((j.fanOut s types c.disk).failures s.collection).map (·.1)).Perm r.failed := by
  have hp := h.failures_perm.map (·.1)
  rwa [← h.failed_eq_failures] at hp

/-! ### Single types -/

theorem types_eq (h : Reached j s d r l listed types c g) : types = j.types d := by
  rw [Job.types, h.prepared.overview, h.prepared.unique]
  rfl

theorem nodup_failed (h : Reached j s d r l listed types c g) : r.failed.Nodup := by
  rw [h.failed_eq]
  exact h.prepared.nodup_names.sublist (List.filter_sublist.map _)

theorem mem_failed_iff (h : Reached j s d r l listed types c g) {t : TypeSummary} (ht : t ∈ types) :
    t.name ∈ r.failed ↔ (failureOf j.directory c.disk l g t).isSome = true := by
  rw [h.failed_eq, List.mem_map]
  constructor
  · rintro ⟨u, hu, he⟩
    obtain ⟨hmem, hsome⟩ := List.mem_filter.mp hu
    rwa [List.inj_on_of_nodup_map h.prepared.nodup_names ht hmem he.symm]
  · intro hsome
    exact ⟨t, List.mem_filter.mpr ⟨ht, hsome⟩, rfl⟩

theorem mem_written_iff (h : Reached j s d r l listed types c g) {t : TypeSummary}
    (ht : t ∈ types) :
    (modelPath j.directory t).toString ∈ r.written ↔
      (failureOf j.directory c.disk l g t).isNone = true := by
  rw [h.written_eq, List.mem_map]
  constructor
  · rintro ⟨u, hu, he⟩
    obtain ⟨hmem, hnone⟩ := List.mem_filter.mp hu
    have hfile := Path.toString_child_inj.mp he.symm
    rwa [List.inj_on_of_nodup_map h.prepared.nodup_modelFileNames ht hmem hfile]
  · intro hnone
    exact ⟨t, List.mem_filter.mpr ⟨ht, hnone⟩, rfl⟩

theorem failureOf_name {p : Path} {base : Disk} {u : TypeSummary} {x : String × ModelError}
    (hx : failureOf p base l g u = some x) : x.1 = u.name := by
  unfold failureOf at hx
  split at hx
  · contradiction
  · rw [← Option.some.inj hx]

/-- What is told of a type that failed. -/
theorem mem_failures_iff (h : Reached j s d r l listed types c g) {t : TypeSummary} (ht : t ∈ types)
    (e : ModelError) :
    (t.name, e) ∈ (j.fanOut s types c.disk).failures s.collection ↔
      failureOf j.directory c.disk l g t = some (t.name, e) := by
  rw [h.failures_perm.mem_iff, List.mem_filterMap]
  constructor
  · rintro ⟨u, hu, hx⟩
    have hname : t.name = u.name := failureOf_name hx
    obtain rfl := List.inj_on_of_nodup_map h.prepared.nodup_names ht hu hname
    exact hx
  · intro hx
    exact ⟨t, ht, hx⟩

/-- Where nothing was generated, the file from before the run is still there, if there was one. -/
theorem file?_of_not_generated (h : Reached j s d r l listed types c g) {t : TypeSummary}
    (ht : t ∈ types) {e : ModelError} (hg : g t = .error e) :
    (j.run s d).disk.tree.file? (modelAt l t) = d.tree.file? (modelAt l t) := by
  have hentry := h.settled.model t ht
  rw [hg, ← h.disk] at hentry
  rw [Tree.file?_congr hentry]
  exact h.prepared.file?_of_fresh (isStale_modelFileName ht)

/-- Where the cleanup has no errors, it was refused nothing. -/
theorem refusal?_eq_none (h : Reached j s d r l listed types c g) (herr : c.errors = [])
    {name : String}
    (hmem : name ∈ sortedNames ((d.makeDirectory j.directory).1.tree.children l)) :
    refusal? (d.makeDirectory j.directory).1 j.directory (modelStems types) name = none := by
  have hstop := h.prepared.finished
  rw [h.prepared.cleanup] at herr hstop
  exact Sync.refusal?_eq_none h.prepared.place herr hstop hmem

/-- Stale files are gone unless the disk refused to remove them. -/
theorem file?_of_stale (h : Reached j s d r l listed types c g) {name : String}
    (hname : Path.IsName name)
    (hrefused : name ∈ sortedNames ((d.makeDirectory j.directory).1.tree.children l) →
      refusal? (d.makeDirectory j.directory).1 j.directory (modelStems types) name = none)
    (hs : isStale (modelStems types) name = true) : c.disk.tree.file? (l ++ [name]) = none := by
  have hstop := h.prepared.finished
  rw [h.prepared.cleanup] at hstop ⊢
  by_cases hmem : name ∈ sortedNames ((d.makeDirectory j.directory).1.tree.children l)
  · exact file?_removeStale_of_stale h.prepared.place h.prepared.no_nul hstop hmem hname
      (hrefused hmem) hs
  · have hnone := Classical.not_not.mp (mt mem_sortedNames_children_iff.mpr hmem)
    rw [Tree.file?, find?_removeStale_eq_none hnone]

end Reached

/-- A run that reports success has reached its fan-out, and nothing failed there. -/
theorem exists_reached_of_ok {j : Job} {s : Schedule} {d : Disk} {r : Report}
    (h : (j.run s d).report = .ok r) (hstatus : r.status = "ok") :
    ∃ l listed types c g, Reached j s d r l listed types c g ∧
      (∀ t ∈ types, failureOf j.directory c.disk l g t = none) ∧ r.registry.isSome = true := by
  have hok := r.status_eq_ok_iff.mp hstatus
  simp only [Report.ok, Bool.and_eq_true, Bool.not_eq_true', List.isEmpty_iff] at hok
  obtain ⟨⟨haborted, hfailed⟩, hregistry⟩ := hok
  obtain ⟨l, listed, types, c, g, hr⟩ := exists_reached h haborted
  refine ⟨l, listed, types, c, g, hr, ?_, hregistry⟩
  have hnone := hr.failed_eq.symm.trans hfailed
  simpa only [List.map_eq_nil_iff, List.filter_eq_nil_iff, Option.not_isSome_iff_eq_none]
    using hnone

end TypedContent.Sync
