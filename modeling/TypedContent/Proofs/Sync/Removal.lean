import Mathlib.Data.List.TakeWhile
import TypedContent.Proofs.Preload.Discovery
import TypedContent.Proofs.Sync.Abort

/-!
# Exactness of a cleanup

`ExactCleanup` says what a cleanup of a directory does, name by name: which files it removes and
which it reports, in which order, and what is on the disk afterwards.  Each step keeps to that
(`ExactCleanup.passed`, `.refused`, `.removed_cons`), so a whole cleanup does
(`exactCleanup_removeStale`).  It goes no further than the first entry whose path is too long for
the system; `Cleared` adds what holds if there is none.

`removesApart_run`: a run removes none of the files that it writes.  At the end stands a directory
that can be listed and is not cleaned up.
-/

namespace TypedContent.Sync

open Files TypeScript

variable {p : Path} {l m : Location} {keep names : List String} {d : Disk} {name : String}
  {c : Cleanup}

/-! ## What a cleanup does -/

/-- A file directly in the directory at `l` whose stem is neither that of the registry nor to be
kept. -/
structure StaleFile (d : Disk) (l : Location) (keep : List String) (name : String) : Prop where
  file : ∃ bytes, d.tree.find? (l ++ [name]) = some (.file bytes)
  notRegistry : Path.stemOf name ≠ registryName
  notKept : Path.stemOf name ∉ keep

theorem staleFile_iff :
    StaleFile d l keep name ↔
      (d.tree.file? (l ++ [name])).isSome = true ∧ isStale keep name = true := by
  rw [← Bool.not_eq_false (isStale keep name), isStale_eq_false_iff, not_or,
    Option.isSome_iff_exists]
  simp only [Tree.file?_eq_some_iff]
  exact ⟨fun ⟨hfile, hregistry, hkept⟩ => ⟨hfile, hregistry, hkept⟩,
    fun ⟨hfile, hregistry, hkept⟩ => ⟨hfile, hregistry, hkept⟩⟩

instance (d : Disk) (l : Location) (keep : List String) (name : String) :
    Decidable (StaleFile d l keep name) :=
  decidable_of_iff _ staleFile_iff.symm

/-- The names in front of the first entry whose path is too long. -/
def reachable (p : Path) (names : List String) : List String :=
  names.takeWhile fun name => Disk.Fits p name

/-- The entry of a report for a stale file that the device does not let go. -/
def removalError? (d : Disk) (l : Location) (keep : List String) (name : String) : Option String :=
  if StaleFile d l keep name then
    (d.faults .remove name).map fun message => "remove " ++ name ++ ": " ++ message
  else none

/-- What a cleanup of the names in a directory at `l` does on the disk `d`. -/
structure ExactCleanup (d : Disk) (p : Path) (l : Location) (keep names : List String)
    (c : Cleanup) : Prop where
  removed : c.removed = (reachable p names).filter fun name =>
    StaleFile d l keep name ∧ d.faults .remove name = none
  errors : c.errors = (reachable p names).filterMap (removalError? d l keep)
  tree (m : Location) : c.disk.tree.find? m =
    if ∃ name ∈ c.removed, m = l ++ [name] then none else d.tree.find? m
  stopped : c.stopped = (names.dropWhile fun name => Disk.Fits p name).head?.map fun name =>
    .system .nameTooLong (p.child name)

/-! ## One entry -/

theorem hasNul_entry (hnul : p.hasNul = false) (hname : Path.IsName name) :
    (p.child name).hasNul = false := by
  rw [Disk.hasNul_child, hnul, Bool.false_or]
  simpa using hname.no_nul

theorem isFile_entry (hp : d.entry p = .ok (l, .directory)) (hnul : p.hasNul = false)
    (hname : Path.IsName name) :
    d.isFile (p.child name) =
      if Disk.Fits p name then .ok (d.tree.file? (l ++ [name])).isSome
      else .error (.system .nameTooLong (p.child name)) := by
  have hchild := hasNul_entry hnul hname
  by_cases hf : Disk.Fits p name
  · rw [if_pos hf, Disk.isFile_child hp hname.ne_dots hchild hf]
  · rw [if_neg hf, Disk.isFile_child_of_not_fits hp hname.ne_dots hchild hf]

theorem isFile_entry_eq_ok (hp : d.entry p = .ok (l, .directory)) (hnul : p.hasNul = false)
    (hname : Path.IsName name) {there : Bool} (h : d.isFile (p.child name) = .ok there) :
    Disk.Fits p name ∧ (d.tree.file? (l ++ [name])).isSome = there := by
  rw [isFile_entry hp hnul hname] at h
  split at h
  · next hf => exact ⟨hf, Except.ok.inj h⟩
  · contradiction

/-- A file in the directory is removed unless the device refuses it. -/
theorem remove_entry (hp : d.entry p = .ok (l, .directory)) (hnul : p.hasNul = false)
    (hname : Path.IsName name) (hf : Disk.Fits p name) {bytes : ByteArray}
    (hfile : d.tree.find? (l ++ [name]) = some (.file bytes)) :
    d.remove (p.child name) =
      match d.faults .remove name with
      | some message => .error (.disk (.device message))
      | none => .ok (d.setTree (d.tree.erase (l ++ [name]))) := by
  have hchild := hasNul_entry hnul hname
  have hentry : d.entry (p.child name) = .ok (l ++ [name], .file bytes) := by
    refine Disk.entry_eq_ok_iff.mpr ⟨?_, hfile⟩
    rw [Disk.locate_child hp hname.ne_dots, if_pos hf]
  unfold Disk.remove Disk.allow
  rw [Path.name_child, hchild, hentry]
  cases d.faults .remove name <;> rfl

namespace ExactCleanup

theorem nil (d : Disk) (p : Path) (l : Location) (keep : List String) :
    ExactCleanup d p l keep [] ⟨d, [], [], [], none⟩ where
  removed := rfl
  errors := rfl
  tree m := by simp
  stopped := rfl

theorem stop (hf : ¬ Disk.Fits p name) (names : List String) :
    ExactCleanup d p l keep (name :: names)
      ⟨d, [], [], [], some (.system .nameTooLong (p.child name))⟩ where
  removed := by simp [reachable, hf]
  errors := by simp [reachable, hf]
  tree m := by simp
  stopped := by simp [hf]

theorem reachable_cons (hf : Disk.Fits p name) (names : List String) :
    reachable p (name :: names) = name :: reachable p names := by
  simp [reachable, hf]

theorem dropWhile_cons (hf : Disk.Fits p name) (names : List String) :
    (name :: names).dropWhile (fun name => decide (Disk.Fits p name)) =
      names.dropWhile fun name => decide (Disk.Fits p name) := by
  simp [hf]

theorem passed (h : ExactCleanup d p l keep names c) (hf : Disk.Fits p name)
    (hs : ¬ StaleFile d l keep name) : ExactCleanup d p l keep (name :: names) c where
  removed := by
    rw [reachable_cons hf, List.filter_cons_of_neg (by simp [hs])]
    exact h.removed
  errors := by
    rw [reachable_cons hf, List.filterMap_cons_none (by rw [removalError?, if_neg hs])]
    exact h.errors
  tree := h.tree
  stopped := by
    rw [dropWhile_cons hf]
    exact h.stopped

theorem refused (h : ExactCleanup d p l keep names c) (hf : Disk.Fits p name)
    (hs : StaleFile d l keep name) {message : String} (hm : d.faults .remove name = some message)
    (log : List Log.Event) :
    ExactCleanup d p l keep (name :: names)
      { c with log := log, errors := ("remove " ++ name ++ ": " ++ message) :: c.errors } where
  removed := by
    rw [reachable_cons hf, List.filter_cons_of_neg (by simp [hm])]
    exact h.removed
  errors := by
    have herror : removalError? d l keep name = some ("remove " ++ name ++ ": " ++ message) := by
      rw [removalError?, if_pos hs, hm, Option.map_some]
    rw [reachable_cons hf, List.filterMap_cons_some herror, ← h.errors]
  tree := h.tree
  stopped := by
    rw [dropWhile_cons hf]
    exact h.stopped

/-- What is done with other names does not depend on a file that was removed. -/
theorem removed_cons {bytes : ByteArray}
    (h : ExactCleanup (d.setTree (d.tree.erase (l ++ [name]))) p l keep names c)
    (hf : Disk.Fits p name) (hs : StaleFile d l keep name)
    (hfile : d.tree.find? (l ++ [name]) = some (.file bytes)) (hm : d.faults .remove name = none)
    (hnot : name ∉ names) (log : List Log.Event) :
    ExactCleanup d p l keep (name :: names)
      { c with log := log, removed := name :: c.removed } := by
  have hfind := Disk.find?_erase_file hfile
  have hother : ∀ n ∈ reachable p names,
      (StaleFile (d.setTree (d.tree.erase (l ++ [name]))) l keep n ↔ StaleFile d l keep n) := by
    intro n hn
    have hne : l ++ [n] ≠ l ++ [name] := by
      intro he
      obtain rfl := (List.cons.inj (List.append_cancel_left he)).1
      exact hnot ((List.takeWhile_sublist _).subset hn)
    rw [staleFile_iff, staleFile_iff, Tree.file?_congr ((hfind _).trans (if_neg hne))]
  constructor
  case removed =>
    rw [reachable_cons hf, List.filter_cons_of_pos (by simp [hs, hm]), h.removed]
    refine congrArg _ (List.filter_congr fun n hn => ?_)
    exact decide_eq_decide.mpr (and_congr_left' (hother n hn))
  case errors =>
    have hnone : removalError? d l keep name = none := by
      rw [removalError?, if_pos hs, hm, Option.map_none]
    rw [reachable_cons hf, List.filterMap_cons_none hnone]
    refine h.errors.trans (List.filterMap_congr fun n hn => ?_)
    rw [removalError?, removalError?]
    exact if_congr (hother n hn) rfl rfl
  case tree =>
    intro m
    rw [h.tree m, hfind m]
    by_cases hmem : ∃ n ∈ c.removed, m = l ++ [n]
    · obtain ⟨n, hn, rfl⟩ := hmem
      rw [if_pos ⟨n, hn, rfl⟩, if_pos ⟨n, List.mem_cons_of_mem _ hn, rfl⟩]
    · rw [if_neg hmem]
      simp only [List.mem_cons, exists_eq_or_imp, hmem, or_false]
  case stopped =>
    rw [dropWhile_cons hf]
    exact h.stopped

end ExactCleanup

/-! ## All entries -/

/-- A cleanup does with each name what it should. -/
theorem exactCleanup_removeStale (hp : d.entry p = .ok (l, .directory)) (hnul : p.hasNul = false)
    (hnames : ∀ name ∈ names, Path.IsName name) (hnodup : names.Nodup) :
    ExactCleanup d p l keep names (removeStale p keep names d) := by
  fun_induction removeStale p keep names d with
  | case1 d => exact .nil d p l keep
  | case2 name names d x hfile =>
    rw [isFile_entry hp hnul (hnames name List.mem_cons_self)] at hfile
    split at hfile
    · contradiction
    · next hf =>
      obtain rfl := Except.error.inj hfile
      exact .stop hf names
  | case3 name names d hfile ih =>
    obtain ⟨hname, hnames⟩ := List.forall_mem_cons.mp hnames
    obtain ⟨hf, hnone⟩ := isFile_entry_eq_ok hp hnul hname hfile
    refine (ih hp hnames (List.nodup_cons.mp hnodup).2).passed hf fun hs => ?_
    rw [(staleFile_iff.mp hs).1] at hnone
    contradiction
  | case4 name names d hfile hs e he rest r ih =>
    obtain ⟨hname, hnames⟩ := List.forall_mem_cons.mp hnames
    obtain ⟨hnot, hnodup⟩ := List.nodup_cons.mp hnodup
    obtain ⟨hf, hsome⟩ := isFile_entry_eq_ok hp hnul hname hfile
    have hstale : StaleFile d l keep name := staleFile_iff.mpr ⟨hsome, hs⟩
    obtain ⟨bytes, hbytes⟩ := hstale.file
    have hplace := (Disk.sameDirectories_remove he).entry hp
    rw [remove_entry hp hnul hname hf hbytes] at he
    split at he
    · contradiction
    · next hm =>
      obtain rfl := Except.ok.inj he
      exact (ih hplace hnames hnodup).removed_cons hf hstale hbytes hm hnot _
  | case5 name names d hfile hs x hx rest r ih =>
    obtain ⟨hname, hnames⟩ := List.forall_mem_cons.mp hnames
    obtain ⟨hf, hsome⟩ := isFile_entry_eq_ok hp hnul hname hfile
    have hstale : StaleFile d l keep name := staleFile_iff.mpr ⟨hsome, hs⟩
    obtain ⟨bytes, hbytes⟩ := hstale.file
    rw [remove_entry hp hnul hname hf hbytes] at hx
    split at hx
    · next message hm =>
      obtain rfl := Except.error.inj hx
      exact (ih hp hnames (List.nodup_cons.mp hnodup).2).refused hf hstale hm _
    · contradiction
  | case6 name names d hfile hs ih =>
    obtain ⟨hname, hnames⟩ := List.forall_mem_cons.mp hnames
    obtain ⟨hf, -⟩ := isFile_entry_eq_ok hp hnul hname hfile
    exact (ih hp hnames (List.nodup_cons.mp hnodup).2).passed hf
      fun hstale => hs (staleFile_iff.mp hstale).2

theorem clearModels_of_list {entries : List (String × Entry)} (h : d.list p = .ok entries)
    (keep : List String) :
    (clearModels d p keep).2 = .ok (removeStale p keep (sortedNames entries) d) := by
  rw [clearModels, h]

theorem isName_of_mem_sortedNames (ht : d.tree.WellFormed)
    (h : name ∈ sortedNames (d.tree.children l)) : Path.IsName name := by
  obtain ⟨x, hx⟩ := Option.ne_none_iff_exists'.mp (mem_sortedNames_children_iff.mp h)
  exact Tree.isName_of_find? ht hx name (by simp)

/-- The names of a directory are in ascending order, each once. -/
theorem ascending_sortedNames (ht : d.tree.WellFormed) :
    (sortedNames (d.tree.children l)).Pairwise (· < ·) := by
  have hnodup : (sortedNames (d.tree.children l)).Nodup :=
    (List.mergeSort_perm _ _).nodup_iff.mpr (List.pairwise_map.mpr (Tree.pairwise_children ht))
  refine ((pairwise_sortedNames _).and hnodup).imp fun {a b} ⟨hle, hne⟩ => ?_
  exact Classical.byContradiction fun hlt =>
    hne (String.le_antisymm hle (String.not_lt.mp hlt))

theorem sortedNames_eq {entries : List (String × Entry)} {xs : List String}
    (hxs : xs.Pairwise (· < ·)) (hperm : xs.Perm (entries.map (·.1))) :
    sortedNames entries = xs := by
  have hle : xs.Pairwise (· ≤ ·) := hxs.imp fun h => String.not_lt.mp (String.lt_asymm h)
  exact List.Perm.eq_of_pairwise (fun a b _ _ => String.le_antisymm)
    (pairwise_sortedNames entries) hle ((List.mergeSort_perm _ _).trans hperm.symm)

/-- A cleanup of all names in a directory at `l`.  Where all their paths fit, it removes exactly the
stale files that the device lets go, and reports all others. -/
structure Cleared (d : Disk) (p : Path) (l : Location) (keep names : List String) (c : Cleanup) :
    Prop extends ExactCleanup d p l keep names c where
  place : d.entry p = .ok (l, .directory)
  listed (name : String) : name ∈ names ↔ d.tree.find? (l ++ [name]) ≠ none
  ascending : names.Pairwise (· < ·)
  ascending_removed : c.removed.Pairwise (· < ·)
  through : c.stopped = none ↔ ∀ name ∈ names, Disk.Fits p name
  mem_removed : c.stopped = none → ∀ name,
    name ∈ c.removed ↔ StaleFile d l keep name ∧ d.faults .remove name = none
  all_errors : c.stopped = none → c.errors = names.filterMap (removalError? d l keep)

theorem ExactCleanup.stopped_eq_none_iff (h : ExactCleanup d p l keep names c) :
    c.stopped = none ↔ ∀ name ∈ names, Disk.Fits p name := by
  rw [h.stopped, Option.map_eq_none_iff, List.head?_eq_none_iff, List.dropWhile_eq_nil_iff]
  simp only [decide_eq_true_eq]

theorem ExactCleanup.reachable_eq (h : ExactCleanup d p l keep names c) (hstop : c.stopped = none) :
    reachable p names = names :=
  List.takeWhile_eq_self_iff.mpr fun name hn =>
    decide_eq_true (h.stopped_eq_none_iff.mp hstop name hn)

theorem cleared_removeStale (ht : d.tree.WellFormed) (hp : d.entry p = .ok (l, .directory))
    (hnul : p.hasNul = false) (keep : List String) :
    Cleared d p l keep (sortedNames (d.tree.children l))
      (removeStale p keep (sortedNames (d.tree.children l)) d) := by
  have hascending := ascending_sortedNames (l := l) ht
  have hexact : ExactCleanup d p l keep (sortedNames (d.tree.children l)) _ :=
    exactCleanup_removeStale hp hnul (fun name => isName_of_mem_sortedNames ht)
      (hascending.imp String.ne_of_lt)
  refine ⟨hexact, hp, fun name => mem_sortedNames_children_iff, hascending, ?_,
    hexact.stopped_eq_none_iff, fun hstop name => ?_, fun hstop => ?_⟩
  · rw [hexact.removed]
    exact hascending.sublist (List.filter_sublist.trans (List.takeWhile_sublist _))
  · rw [hexact.removed, hexact.reachable_eq hstop, List.mem_filter, mem_sortedNames_children_iff,
      decide_eq_true_eq]
    refine and_iff_right_of_imp fun ⟨hs, _⟩ => ?_
    obtain ⟨bytes, hbytes⟩ := hs.file
    simp [hbytes]
  · rw [hexact.errors, hexact.reachable_eq hstop]

/-! ## Whole runs -/

theorem isStale_of_mem_removed {p : Path} (h : name ∈ (removeStale p keep names d).removed) :
    isStale keep name = true := by
  fun_induction removeStale p keep names d with
  | case1 d => cases h
  | case2 name names d => cases h
  | case3 name names d _ ih => exact ih h
  | case4 other names d _ hs e _ _ _ ih =>
    rcases List.mem_cons.mp h with rfl | h
    · exact hs
    · exact ih h
  | case5 name names d _ _ e _ _ _ ih => exact ih h
  | case6 name names d _ _ ih => exact ih h

/-- The name of a file that a run with this report writes or should have written. -/
def IsOutput (r : Report) (name : String) : Prop :=
  name = registryFileName ∨ ∃ n ∈ r.typeNames, name = modelFileName n

/-- A run removes none of the files that it writes. -/
structure RemovesApart (j : Job) (d : Disk) (run : Run) : Prop where
  apart (r : Report) : run.report = .ok r → ∀ name ∈ r.removed, ¬ IsOutput r name
  reported (r : Report) : run.report = .ok r →
    ∀ path, path ∈ r.written ∨ r.registry = some path →
      ∃ name, IsOutput r name ∧ path = (j.directory.child name).toString
  /-- After its cleanup a run changes nothing but these files. -/
  stored (r : Report) : run.report = .ok r → r.aborted = false →
    ∃ l c, (d.makeDirectory j.directory).1.entry j.directory = .ok (l, .directory) ∧
      (clearModels (d.makeDirectory j.directory).1 j.directory
        (r.typeNames.map Identifier.dataName)).2 = .ok c ∧ r.removed = c.removed ∧
      ∀ m, run.disk.tree.find? m = c.disk.tree.find? m ∨
        ∃ name, IsOutput r name ∧ m = l ++ [name]
  /-- A run without a report has written no file. -/
  unreported (e : AccessError) : run.report = .error e → ∀ m bytes,
    run.disk.tree.file? m = some bytes → d.tree.file? m = some bytes

section Runs

variable {j : Job} {s : Schedule} {r : Report} {listed types : List Schema.TypeSummary}
  {g : Schema.TypeSummary → Except ModelError SourceFile}

theorem Reached.isOutput_iff (h : Reached j s d r l listed types c g) :
    IsOutput r name ↔ name = registryFileName ∨ ∃ t ∈ types, name = modelFileName t.name := by
  rw [IsOutput, h.typeNames_eq]
  simp only [List.mem_map, exists_exists_and_eq_and]

theorem Reached.apart (h : Reached j s d r l listed types c g) (hn : name ∈ r.removed) :
    ¬ IsOutput r name := by
  have hstale : isStale (modelStems types) name = true := by
    rw [h.removed_eq, h.prepared.cleanup] at hn
    exact isStale_of_mem_removed hn
  rw [h.isOutput_iff]
  rintro (rfl | ⟨t, ht, rfl⟩)
  · rw [isStale_registryFileName] at hstale
    contradiction
  · rw [isStale_modelFileName ht] at hstale
    contradiction

theorem Reached.reported (h : Reached j s d r l listed types c g) {path : String}
    (hpath : path ∈ r.written ∨ r.registry = some path) :
    ∃ name, IsOutput r name ∧ path = (j.directory.child name).toString := by
  rcases hpath with hpath | hpath
  · rw [h.written_eq] at hpath
    obtain ⟨t, ht, rfl⟩ := List.mem_map.mp hpath
    exact ⟨_, h.isOutput_iff.mpr (.inr ⟨t, (List.mem_filter.mp ht).1, rfl⟩), rfl⟩
  · rw [h.registry_eq, registryOutcome] at hpath
    cases hw : c.disk.writeAccess j.directory l registryFileName with
    | error x => simp [hw, Except.map, Except.toOption] at hpath
    | ok u =>
      rw [hw] at hpath
      exact ⟨_, .inl rfl, (Option.some.inj hpath).symm⟩

theorem Reached.find?_eq_or_isOutput (h : Reached j s d r l listed types c g) (m : Location) :
    (j.run s d).disk.tree.find? m = c.disk.tree.find? m ∨
      ∃ name, IsOutput r name ∧ m = l ++ [name] := by
  by_cases hout : ∃ name, IsOutput r name ∧ m = l ++ [name]
  · exact .inr hout
  · refine .inl (h.find?_eq (fun hm => hout ⟨_, .inl rfl, hm⟩) fun t ht hm => hout ?_)
    exact ⟨_, h.isOutput_iff.mpr (.inr ⟨t, ht, rfl⟩), hm⟩

/-- Without a report nothing was written. -/
theorem file?_of_unreported {e : AccessError} (h : (j.run s d).report = .error e)
    {bytes : ByteArray} (hm : (j.run s d).disk.tree.file? m = some bytes) :
    d.tree.file? m = some bytes := by
  have hmade := (d.makeDirectory_extends j.directory).file? m
  have hdisk := j.run_disk s d
  rw [Job.run_report] at h
  unfold Job.outline at h hdisk
  cases hp : prelude j.directory j.overview d with
  | mk f x =>
    rw [hp] at h hdisk
    cases x with
    | noDirectory | noOverview | colliding | unlisted | ready => contradiction
    | unnamed =>
      rw [makeDirectory_of_prelude hp rfl] at hmade
      rw [← hmade, ← hdisk, hm]
    | stopped x =>
      obtain ⟨k, listed, types, c, rfl, hclean, -⟩ := prelude_eq_stopped hp
      rw [hdisk, hclean.cleanup] at hm
      rw [← hmade, ← hm]
      rcases find?_removeStale_or j.directory (modelStems types)
        (sortedNames ((d.makeDirectory j.directory).1.tree.children k))
        (d.makeDirectory j.directory).1 m with hkept | ⟨hnone, -⟩
      · exact (Tree.file?_congr hkept).symm
      · rw [Tree.file?, hnone] at hm
        contradiction

/-- What a run removes is apart from what it writes. -/
theorem removesApart_run (j : Job) (s : Schedule) (d : Disk) : RemovesApart j d (j.run s d) := by
  constructor
  case unreported => exact fun e he m bytes => file?_of_unreported he
  case stored =>
    intro r hr ha
    obtain ⟨l, listed, types, c, g, h⟩ := exists_reached hr ha
    refine ⟨l, c, h.prepared.place, ?_, h.removed_eq, h.find?_eq_or_isOutput⟩
    rw [h.typeNames_eq]
    exact h.prepared.cleared
  case apart =>
    intro r hr name hn
    cases ha : r.aborted with
    | true =>
      rw [(harmless_of_aborted hr ha).removed] at hn
      cases hn
    | false =>
      obtain ⟨l, listed, types, c, g, h⟩ := exists_reached hr ha
      exact h.apart hn
  case reported =>
    intro r hr path hpath
    cases ha : r.aborted with
    | true =>
      have h := harmless_of_aborted hr ha
      simp [h.written, h.registry] at hpath
    | false =>
      obtain ⟨l, listed, types, c, g, h⟩ := exists_reached hr ha
      exact h.reported hpath

end Runs

/-- A directory that can be listed is cleaned up entry by entry, exactly as far as the paths of its
entries fit; and no run removes what it writes. -/
theorem clearModels_exact (ht : d.tree.WellFormed) {entries : List (String × Entry)}
    (hlist : d.list p = .ok entries) (keep : List String) :
    (∃ l c, (clearModels d p keep).2 = .ok c ∧ Cleared d p l keep (sortedNames entries) c) ∧
      ∀ (j : Job) (s : Schedule) (d : Disk), RemovesApart j d (j.run s d) := by
  refine ⟨?_, removesApart_run⟩
  obtain ⟨hnul, l, hp, rfl⟩ := Disk.list_eq_ok hlist
  exact ⟨l, _, clearModels_of_list hlist keep, cleared_removeStale ht hp hnul keep⟩

/-! ## A directory with files of all kinds -/

/-- Stale files, one of which is hidden and one of which the device does not let go, a model, the
registry, and a directory with the name of a file. -/
def mixedDisk : Disk where
  tree := ⟨[(["m"], .directory), (["m", "Old.ts"], .file .empty),
    (["m", "Stuck.ts"], .file .empty), (["m", "PageData.ts"], .file .empty),
    (["m", "TypeMapper.ts"], .file .empty), (["m", "PageData.old.ts"], .file .empty),
    (["m", ".hidden"], .file .empty), (["m", "Gone.ts"], .directory)]⟩
  current := []
  faults := fun op name => if op = .remove ∧ name = "Stuck.ts" then some "denied" else none

theorem sortedNames_mixedDisk :
    sortedNames (mixedDisk.tree.children ["m"]) =
      [".hidden", "Gone.ts", "Old.ts", "PageData.old.ts", "PageData.ts", "Stuck.ts",
        "TypeMapper.ts"] :=
  sortedNames_eq (by decide) (by decide)

theorem clearModels_exact_mixed :
    mixedDisk.tree.WellFormed ∧ ∃ entries l c,
      mixedDisk.list ⟨.root, ["m"]⟩ = .ok entries ∧
      (clearModels mixedDisk ⟨.root, ["m"]⟩ ["PageData"]).2 = .ok c ∧
      Cleared mixedDisk ⟨.root, ["m"]⟩ l ["PageData"] (sortedNames entries) c ∧
      c.removed = [".hidden", "Old.ts", "PageData.old.ts"] ∧
      c.errors = ["remove Stuck.ts: denied"] := by
  have ht : mixedDisk.tree.WellFormed := by decide
  have hlist : mixedDisk.list ⟨.root, ["m"]⟩ = .ok (mixedDisk.tree.children ["m"]) := rfl
  obtain ⟨l, c, hc, hcleared⟩ := (clearModels_exact ht hlist ["PageData"]).1
  refine ⟨ht, _, l, c, hlist, hc, hcleared, ?_⟩
  rw [clearModels_of_list hlist, sortedNames_mixedDisk] at hc
  rw [← Except.ok.inj hc]
  exact ⟨by decide +kernel, by decide +kernel⟩

/-! ## A path that is too long -/

/-- The stale file is neither removed nor reported, though the directory can be listed and the
device would let it go: the path to it is too long to ask whether it is a file. -/
theorem clearModels_stops_upwards :
    Preload.rootFileDisk.list (Preload.upwards 1364) = .ok [("a", .file .empty)] ∧
      StaleFile Preload.rootFileDisk [] [] "a" ∧
      Preload.rootFileDisk.faults .remove "a" = none ∧
      ∃ c, (clearModels Preload.rootFileDisk (Preload.upwards 1364) []).2 = .ok c ∧
        c.removed = [] ∧ c.errors = [] ∧
        c.stopped = some (.system .nameTooLong ((Preload.upwards 1364).child "a")) := by
  have hentry := Preload.entry_upwards (n := 1364) (by decide) Preload.rootFileDisk
  have hlong := Preload.isFile_upwards (n := 1364) (by decide) Preload.rootFileDisk
  have hnul : (Preload.upwards 1364).hasNul = false := by
    have hchild := (Disk.isFile_eq_error_iff.mp hlong).1
    rw [Disk.hasNul_child, Bool.or_eq_false_iff] at hchild
    exact hchild.1
  have hlist : Preload.rootFileDisk.list (Preload.upwards 1364) = .ok [("a", .file .empty)] := by
    unfold Disk.list Disk.allow
    rw [hentry, hnul]
    rfl
  refine ⟨hlist, staleFile_iff.mpr (by decide), rfl, _, clearModels_of_list hlist [], ?_⟩
  have hnames : sortedNames [("a", Entry.file .empty)] = ["a"] :=
    sortedNames_eq (by decide) (.refl _)
  rw [hnames, removeStale, hlong]
  exact ⟨rfl, rfl, rfl⟩

end TypedContent.Sync
