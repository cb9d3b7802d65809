import TypedContent.Proofs.Sync.Completion
import TypedContent.Proofs.Sync.Generation

/-!
# What a fan-out comes to

The tasks of a fan-out and the registry store different files of one directory, so none of them gets
in the way of another.  `Invariant` says so of every state that turns lead to: each task is as far
as its own turns have taken it, its file holds what it stored itself, and all other files are
untouched.
`Invariant.step` keeps it for one turn, `invariant_run` for a whole schedule.

`exists_settled` is the result: a fan-out ends in the state that `Settled` describes, which depends
on what was generated for each type, and not on the schedule.
-/

namespace TypedContent.Sync

open Files Schema TypeScript

/-! ## Where a fan-out stores its files -/

def modelAt (l : Location) (t : TypeSummary) : Location := l ++ [modelFileName t.name]
def registryAt (l : Location) : Location := l ++ [registryFileName]

theorem modelAt_ne_registryAt (l : Location) (t : TypeSummary) : modelAt l t ≠ registryAt l := by
  intro h
  have := List.append_cancel_left h
  exact modelFileName_ne_registryFileName t.name (List.cons.inj this).1

theorem modelAt_eq_iff {l : Location} {s t : TypeSummary} :
    modelAt l s = modelAt l t ↔ modelFileName s.name = modelFileName t.name := by
  simp [modelAt]

/-- Where the model of a type is, as a report tells it. -/
def modelPath (p : Path) (t : TypeSummary) : Path := p.child (modelFileName t.name)

/-- The outcome of the task for a type, from the outcome of its generation. -/
def taskOutcome (d : Disk) (p : Path) (l : Location) (t : TypeSummary) :
    Except ModelError SourceFile → Except ModelError Path
  | .error e => .error e
  | .ok _ => ((d.writeAccess p l (modelFileName t.name)).mapError ModelError.storing).map
      fun _ => modelPath p t

/-- What is at the place of a type's model after its task, which started on the disk `d`. -/
def modelEntry (d : Disk) (p : Path) (l : Location) (t : TypeSummary) :
    Except ModelError SourceFile → Option Entry
  | .error _ => d.tree.find? (modelAt l t)
  | .ok f =>
    stored (d.writeAccess p l (modelFileName t.name)) (d.tree.find? (modelAt l t)) f.content

def registryOutcome (d : Disk) (p : Path) (l : Location) : Except AccessError Path :=
  (d.writeAccess p l registryFileName).map fun _ => p.child registryFileName

def registryEntry (d : Disk) (p : Path) (l : Location) (names : List String) : Option Entry :=
  stored (d.writeAccess p l registryFileName) (d.tree.find? (registryAt l))
    (registryFile names).content

theorem taskOutcome_eq_ok {d : Disk} {p : Path} {l : Location} {t : TypeSummary}
    {g : Except ModelError SourceFile} {x : Path} (h : taskOutcome d p l t g = .ok x) :
    x = modelPath p t := by
  unfold taskOutcome at h
  split at h
  · contradiction
  · cases hw : d.writeAccess p l (modelFileName t.name) with
    | error e =>
      have herror : Except.error (ModelError.storing e) = Except.ok x := by rwa [hw] at h
      contradiction
    | ok u =>
      have hok : Except.ok (modelPath p t) = (Except.ok x : Except ModelError Path) := by
        rwa [hw] at h
      exact (Except.ok.inj hok).symm

section Effects

variable {base d : Disk} {p : Path} {l : Location}

/-- Storing a model has the outcome that the first disk gives it, and touches no other file. -/
theorem storeModel_effect (hp : base.entry p = .ok (l, .directory)) (hs : SameDirectories base d)
    {t : TypeSummary} {names : List String} {answer : Option Json} {f : SourceFile}
    (hf : modelOf t names answer = .ok f) :
    (storeModel d p t.name f).2.2 = taskOutcome base p l t (.ok f) ∧
      SameDirectories d (storeModel d p t.name f).1 ∧
      (∀ m, m ≠ modelAt l t → (storeModel d p t.name f).1.tree.find? m = d.tree.find? m) ∧
      (d.tree.find? (modelAt l t) = base.tree.find? (modelAt l t) →
        (storeModel d p t.name f).1.tree.find? (modelAt l t) = modelEntry base p l t (.ok f)) := by
  have hpath := modelOf_path hf
  have hname : Path.IsName f.path := hpath ▸ isName_modelFileName t.name
  have hd := hs.entry hp
  have hfind := find?_storeFile hd hname
  have hout := storeModel_outcome hd hname t.name
  rw [hpath, Disk.writeAccess_congr hs] at hfind hout
  rw [storeModel_disk]
  refine ⟨hout, sameDirectories_storeFile hd hname, fun m hm => ?_, fun hold => ?_⟩
  · rw [hfind]
    exact if_neg hm
  · rw [hfind, hold]
    exact if_pos rfl

theorem storeRegistry_effect (hp : base.entry p = .ok (l, .directory))
    (hs : SameDirectories base d) (names : List String) :
    (storeRegistry d p names).outcome = registryOutcome base p l ∧
      SameDirectories d (storeRegistry d p names).disk ∧
      (∀ m, m ≠ registryAt l → (storeRegistry d p names).disk.tree.find? m = d.tree.find? m) ∧
      (d.tree.find? (registryAt l) = base.tree.find? (registryAt l) →
        (storeRegistry d p names).disk.tree.find? (registryAt l) =
          registryEntry base p l names) := by
  have hname : Path.IsName (registryFile names).path := isName_registryFileName
  have hd := hs.entry hp
  have hfind := find?_storeFile hd hname
  have hout := storeRegistry_outcome hd names
  rw [Disk.writeAccess_congr hs] at hfind hout
  rw [storeRegistry_disk]
  refine ⟨hout, sameDirectories_storeFile hd hname, fun m hm => ?_, fun hold => ?_⟩
  · rw [hfind]
    exact if_neg hm
  · rw [hfind, hold]
    exact if_pos rfl

end Effects

namespace FanOut

/-- What a fan-out relies on: its directory is there, no two types share a file, and there is at
least one worker. -/
structure Ready (w : Work) (base : Disk) (l : Location) (types : List TypeSummary) : Prop where
  directory : base.entry w.directory = .ok (l, .directory)
  apart : (types.map fun t => modelFileName t.name).Nodup
  workers : 0 < w.workers

/-- A disk that a fan-out comes across: the one after some of its turns. -/
def Meets (w : Work) (s : Schedule) (base : Disk) (types : List TypeSummary) (d : Disk) : Prop :=
  ∃ turns, turns <+: s.turns ++ closing types.length ∧
    d = (turns.foldl (step w) (start base types)).disk

/-- The client leads to this outcome of a generation on a disk that it is shown. -/
def Generates (shown : Disk → Prop) (w : Work) (t : TypeSummary)
    (g : Except ModelError SourceFile) : Prop :=
  ∃ seen, shown seen ∧ (generateModel w.client seen t w.names).outcome = g

/-- How far the task of a type is, and what is at the place of its model. -/
inductive Progress (shown : Disk → Prop) (w : Work) (base : Disk) (l : Location) (tree : Tree)
    (t : TypeSummary) : TaskState → Prop where
  | waiting (h : tree.find? (modelAt l t) = base.tree.find? (modelAt l t)) :
      Progress shown w base l tree t .waiting
  | generated (g) (hg : Generates shown w t g)
      (h : tree.find? (modelAt l t) = base.tree.find? (modelAt l t)) :
      Progress shown w base l tree t (.generated g)
  | finished (g) (hg : Generates shown w t g)
      (h : tree.find? (modelAt l t) = modelEntry base w.directory l t g) :
      Progress shown w base l tree t (.finished (taskOutcome base w.directory l t g))

/-- How far the registry is. -/
inductive RegistryProgress (w : Work) (base : Disk) (l : Location) (tree : Tree) :
    Option (Except AccessError Path) → Prop where
  | waiting (h : tree.find? (registryAt l) = base.tree.find? (registryAt l)) :
      RegistryProgress w base l tree none
  | finished (h : tree.find? (registryAt l) = registryEntry base w.directory l w.names) :
      RegistryProgress w base l tree (some (registryOutcome base w.directory l))

structure Invariant (shown : Disk → Prop) (w : Work) (base : Disk) (l : Location)
    (types : List TypeSummary) (f : FanOut) : Prop where
  order : f.tasks.map (·.type) = types
  same : SameDirectories base f.disk
  task : ∀ (i : Nat) (t : Task), f.tasks[i]? = some t →
    Progress shown w base l f.disk.tree t.type t.state
  registry : RegistryProgress w base l f.disk.tree f.registry
  elsewhere : ∀ m, m ≠ registryAt l → (∀ t ∈ types, m ≠ modelAt l t) →
    f.disk.tree.find? m = base.tree.find? m

variable {shown : Disk → Prop} {w : Work} {base : Disk} {l : Location}
  {types : List TypeSummary} {f : FanOut}

/-! ## Small facts -/

/-- Only what is at the place of its own model matters to a task. -/
theorem Progress.congr {t u : Tree} {type : TypeSummary} {s : TaskState}
    (h : Progress shown w base l t type s)
    (hm : u.find? (modelAt l type) = t.find? (modelAt l type)) :
    Progress shown w base l u type s := by
  cases h with
  | waiting h => exact .waiting (hm.trans h)
  | generated g hg h => exact .generated g hg (hm.trans h)
  | finished g hg h => exact .finished g hg (hm.trans h)

theorem Progress.of_isFinished {t : Tree} {type : TypeSummary} {s : TaskState}
    (h : Progress shown w base l t type s) (hs : s.isFinished = true) :
    ∃ g, Generates shown w type g ∧
      t.find? (modelAt l type) = modelEntry base w.directory l type g ∧
      s = .finished (taskOutcome base w.directory l type g) := by
  cases h with
  | waiting => contradiction
  | generated => contradiction
  | finished g hg h => exact ⟨g, hg, h, rfl⟩

theorem RegistryProgress.of_isSome {t : Tree} {r : Option (Except AccessError Path)}
    (h : RegistryProgress w base l t r) (hs : r.isSome = true) :
    t.find? (registryAt l) = registryEntry base w.directory l w.names ∧
      r = some (registryOutcome base w.directory l) := by
  cases h with
  | waiting => contradiction
  | finished h => exact ⟨h, rfl⟩

theorem RegistryProgress.congr {t u : Tree} {r : Option (Except AccessError Path)}
    (h : RegistryProgress w base l t r) (hm : u.find? (registryAt l) = t.find? (registryAt l)) :
    RegistryProgress w base l u r := by
  cases h with
  | waiting h => exact .waiting (hm.trans h)
  | finished h => exact .finished (hm.trans h)

/-- Tasks with different numbers store different files. -/
theorem Invariant.modelAt_ne (hr : Ready w base l types) (h : Invariant shown w base l types f)
    {i j : Nat} {s t : Task} (hij : i ≠ j) (hs : f.tasks[i]? = some s) (ht : f.tasks[j]? = some t) :
    modelAt l s.type ≠ modelAt l t.type := by
  intro he
  have hnd := hr.apart
  rw [← h.order, List.map_map] at hnd
  have hsj : (f.tasks.map ((fun t => modelFileName t.name) ∘ (·.type)))[i]? =
      (f.tasks.map ((fun t => modelFileName t.name) ∘ (·.type)))[j]? := by
    simp only [List.getElem?_map, hs, ht, Option.map_some, Function.comp]
    rw [modelAt_eq_iff.mp he]
  have hlt : i < (f.tasks.map ((fun t => modelFileName t.name) ∘ (·.type))).length := by
    rw [List.length_map]
    exact (List.getElem?_eq_some_iff.mp hs).1
  exact hij ((List.getElem?_inj hlt hnd).mp hsj)

theorem Invariant.type_mem (h : Invariant shown w base l types f) {i : Nat} {t : Task}
    (ht : f.tasks[i]? = some t) : t.type ∈ types := by
  rw [← h.order]
  exact List.mem_map_of_mem (List.mem_of_getElem? ht)

theorem setState_types (f : FanOut) (i : Nat) (s : TaskState) :
    (f.setState i s).tasks.map (·.type) = f.tasks.map (·.type) := by
  apply List.ext_getElem?
  intro j
  rw [List.getElem?_map, List.getElem?_map, setState_getElem?]
  split
  · cases f.tasks[j]? <;> rfl
  · rfl

/-! ## One turn keeps the invariant -/

theorem invariant_start (base : Disk) (types : List TypeSummary) :
    Invariant shown w base l types (start base types) where
  order := by simp [start, Function.comp_def]
  same := .refl base
  task := by
    intro i t ht
    simp only [start, List.getElem?_map, Option.map_eq_some_iff] at ht
    obtain ⟨type, -, rfl⟩ := ht
    exact .waiting rfl
  registry := .waiting rfl
  elsewhere := fun _ _ _ => rfl

/-- A task changes its own state, and on the disk at most the file of its own model. -/
theorem Invariant.advance (hr : Ready w base l types) (h : Invariant shown w base l types f)
    {i : Nat} {t : Task} (ht : f.tasks[i]? = some t) {s : TaskState} {g : FanOut}
    (htasks : g.tasks = (f.setState i s).tasks) (hreg : g.registry = f.registry)
    (hsame : SameDirectories f.disk g.disk)
    (hdisk : ∀ m, m ≠ modelAt l t.type → g.disk.tree.find? m = f.disk.tree.find? m)
    (hs : Progress shown w base l g.disk.tree t.type s) : Invariant shown w base l types g where
  order := by rw [htasks, setState_types, h.order]
  same := h.same.trans hsame
  task := by
    intro j u hu
    rw [htasks, setState_getElem?] at hu
    by_cases hij : i = j
    · subst hij
      rw [if_pos rfl, ht] at hu
      obtain rfl := Option.some.inj hu
      exact hs
    · rw [if_neg hij] at hu
      exact (h.task j u hu).congr (hdisk _ (h.modelAt_ne hr (Ne.symm hij) hu ht))
  registry := by
    rw [hreg]
    exact h.registry.congr (hdisk _ (modelAt_ne_registryAt l t.type).symm)
  elsewhere := by
    intro m hm hmodels
    rw [hdisk m (hmodels _ (h.type_mem ht))]
    exact h.elsewhere m hm hmodels

theorem Invariant.stepTask (hr : Ready w base l types) (hd : shown f.disk)
    (h : Invariant shown w base l types f) {i : Nat} {t : Task} (ht : f.tasks[i]? = some t) :
    Invariant shown w base l types (f.stepTask w i t) := by
  have hprog := h.task i t ht
  unfold FanOut.stepTask
  cases hs : t.state with
  | waiting =>
    rw [hs] at hprog
    cases hprog with
    | waiting hfile =>
      simp only
      split
      · exact h.advance hr ht rfl rfl (.refl _) (fun _ _ => rfl)
          (.generated _ ⟨f.disk, hd, rfl⟩ hfile)
      · exact h
  | generated g =>
    rw [hs] at hprog
    cases hprog with
    | generated g hg hfile =>
      cases g with
      | error e => exact h.advance hr ht rfl rfl (.refl _) (fun _ _ => rfl) (.finished _ hg hfile)
      | ok file =>
        obtain ⟨seen, hshown, hseen⟩ := hg
        rw [generateModel_outcome] at hseen
        obtain ⟨hout, hsame, hother, hown⟩ := storeModel_effect hr.directory h.same hseen
        refine h.advance hr ht rfl rfl hsame hother ?_
        simp only [hout]
        exact .finished (.ok file) ⟨seen, hshown, by rw [generateModel_outcome, hseen]⟩ (hown hfile)
  | finished o => exact h

theorem Invariant.stepRegistry (hr : Ready w base l types) (h : Invariant shown w base l types f) :
    Invariant shown w base l types (f.stepRegistry w) := by
  have hprog := h.registry
  unfold FanOut.stepRegistry
  cases hreg : f.registry with
  | some r => exact h
  | none =>
    rw [hreg] at hprog
    cases hprog with
    | waiting hfile =>
      obtain ⟨hout, hsame, hother, hown⟩ := storeRegistry_effect hr.directory h.same w.names
      refine ⟨h.order, h.same.trans hsame, fun i t ht => ?_, ?_, fun m hm hmodels => ?_⟩
      · exact (h.task i t ht).congr (hother _ (modelAt_ne_registryAt l t.type))
      · simp only [hout]
        exact .finished (hown hfile)
      · rw [hother m hm]
        exact h.elsewhere m hm hmodels

theorem Invariant.step (hr : Ready w base l types) (hd : shown f.disk)
    (h : Invariant shown w base l types f) : ∀ x, Invariant shown w base l types (f.step w x)
  | .registry => h.stepRegistry hr
  | .task i => by
    simp only [FanOut.step]
    cases ht : f.tasks[i]? with
    | none => exact h
    | some t => exact h.stepTask hr hd ht

/-! ## The end of a schedule -/

/-- The disks that are shown are those on the way. -/
theorem invariant_run (hr : Ready w base l types) (s : Schedule) :
    Invariant (Meets w s base types) w base l types ((start base types).run w s) := by
  have hall : s.turns ++ closing (start base types).tasks.length =
      s.turns ++ closing types.length := by simp [start]
  have hfold : ∀ rest before : List Turn, before ++ rest = s.turns ++ closing types.length →
      Invariant (Meets w s base types) w base l types
        (before.foldl (FanOut.step w) (start base types)) →
      Invariant (Meets w s base types) w base l types
        (rest.foldl (FanOut.step w) (before.foldl (FanOut.step w) (start base types))) := by
    intro rest
    induction rest with
    | nil => exact fun before _ h => h
    | cons x rest ih =>
      intro before he h
      have hmeets : Meets w s base types (before.foldl (FanOut.step w) (start base types)).disk :=
        ⟨before, he ▸ List.prefix_append _ _, rfl⟩
      have hnext := ih (before ++ [x]) (by rw [← he, List.append_assoc]; rfl)
      rw [List.foldl_append] at hnext
      exact hnext (h.step hr hmeets x)
  rw [run, hall]
  exact hfold _ [] rfl (invariant_start base types)

/-- The state in which a fan-out ends, when `g` was generated for the types. -/
structure Settled (p : Path) (names : List String) (base : Disk) (l : Location)
    (types : List TypeSummary) (g : TypeSummary → Except ModelError SourceFile) (f : FanOut) :
    Prop where
  tasks : f.tasks = types.map fun t => ⟨t, .finished (taskOutcome base p l t (g t))⟩
  registry : f.registry = some (registryOutcome base p l)
  same : SameDirectories base f.disk
  model : ∀ t ∈ types, f.disk.tree.find? (modelAt l t) = modelEntry base p l t (g t)
  registryFile : f.disk.tree.find? (registryAt l) = registryEntry base p l names
  elsewhere : ∀ m, m ≠ registryAt l → (∀ t ∈ types, m ≠ modelAt l t) →
    f.disk.tree.find? m = base.tree.find? m

/-- Every schedule ends in a settled state. -/
theorem exists_settled (hr : Ready w base l types) (s : Schedule) :
    ∃ g, (∀ t ∈ types, Generates (Meets w s base types) w t (g t)) ∧
      Settled w.directory w.names base l types g ((start base types).run w s) := by
  have h := invariant_run hr s
  generalize hf : (start base types).run w s = f at h
  have hend : ∀ t ∈ types, ∃ g, Generates (Meets w s base types) w t g ∧
      f.disk.tree.find? (modelAt l t) = modelEntry base w.directory l t g ∧
      ∀ (i : Nat) (u : Task), f.tasks[i]? = some u → u.type = t →
        u = ⟨t, .finished (taskOutcome base w.directory l t g)⟩ := by
    intro t ht
    rw [← h.order] at ht
    obtain ⟨task, hmem, rfl⟩ := List.mem_map.mp ht
    have hfin : task.state.isFinished = true := by
      rw [← hf] at hmem
      exact run_isFinished hr.workers s _ hmem
    obtain ⟨i, hi⟩ := List.mem_iff_getElem?.mp hmem
    obtain ⟨g, hg, hfile, hstate⟩ := (h.task i _ hi).of_isFinished hfin
    refine ⟨g, hg, hfile, fun j u hu he => ?_⟩
    by_cases hij : i = j
    · subst hij
      rw [← hstate]
      exact Option.some.inj (hu.symm.trans hi)
    · exact absurd (by rw [he]) (h.modelAt_ne hr hij hi hu)
  -- Types that are no types of the fan-out do not matter.
  have hchoice : ∀ t, ∃ g, t ∈ types → Generates (Meets w s base types) w t g ∧
      f.disk.tree.find? (modelAt l t) = modelEntry base w.directory l t g ∧
      ∀ (i : Nat) (u : Task), f.tasks[i]? = some u → u.type = t →
        u = ⟨t, .finished (taskOutcome base w.directory l t g)⟩ := by
    intro t
    by_cases ht : t ∈ types
    · obtain ⟨g, hg⟩ := hend t ht
      exact ⟨g, fun _ => hg⟩
    · exact ⟨.error (.unfetched ""), fun h => absurd h ht⟩
  obtain ⟨g, hg⟩ := Classical.axiomOfChoice hchoice
  have hsome : f.registry.isSome = true := by
    rw [← hf]
    exact run_registry s _
  obtain ⟨hentry, hreg⟩ := h.registry.of_isSome hsome
  refine ⟨g, fun t ht => (hg t ht).1, ?_, hreg, h.same, fun t ht => (hg t ht).2.1, hentry,
    h.elsewhere⟩
  apply List.ext_getElem?
  intro i
  rw [← h.order, List.map_map, List.getElem?_map]
  cases hi : f.tasks[i]? with
  | none => rfl
  | some u => exact congrArg some ((hg u.type (h.type_mem hi)).2.2 i u hi rfl)

/-- Two fan-outs for which the same was generated end in the same state. -/
theorem Settled.unique {p : Path} {names : List String}
    {g g' : TypeSummary → Except ModelError SourceFile} {f f' : FanOut}
    (h : Settled p names base l types g f) (h' : Settled p names base l types g' f')
    (hg : ∀ t ∈ types, g t = g' t) :
    f.tasks = f'.tasks ∧ f.registry = f'.registry ∧
      ∀ m, f.disk.tree.find? m = f'.disk.tree.find? m := by
  refine ⟨?_, h.registry.trans h'.registry.symm, fun m => ?_⟩
  · rw [h.tasks, h'.tasks]
    exact List.map_congr_left fun t ht => by rw [hg t ht]
  · by_cases hreg : m = registryAt l
    · rw [hreg, h.registryFile, h'.registryFile]
    · by_cases hmodel : ∃ t ∈ types, m = modelAt l t
      · obtain ⟨t, ht, rfl⟩ := hmodel
        rw [h.model t ht, h'.model t ht, hg t ht]
      · have hno : ∀ t ∈ types, m ≠ modelAt l t := fun t ht e => hmodel ⟨t, ht, e⟩
        rw [h.elsewhere m hreg hno, h'.elsewhere m hreg hno]

end FanOut

end TypedContent.Sync
