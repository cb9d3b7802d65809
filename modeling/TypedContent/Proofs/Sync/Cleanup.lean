import TypedContent.Proofs.Files.Listing
import TypedContent.Sync.Cleanup

/-!
# What a cleanup takes away

Proved here of `removeStale`, for every disk, list of names and set of stems to be kept:

* `sameDirectories_removeStale`: no directory comes or goes;
* `find?_removeStale`: what is no stale file of the directory stays as it is, byte for byte;
* `isFile_removeStale_of_stale`: of the stale files named only those are left whose removal the disk
  refuses (`refusal?`);
* `errors_removeStale`: there is one entry for each of these, in the order of the names;
* `stopped_removeStale_eq_none_iff`: only an entry that cannot be looked up stops a cleanup.

`clearModels_eq_ok` says which names those are: all names in the directory.
-/

namespace TypedContent.Sync

open Files

variable {p : Path} {l m : Location} {keep names : List String} {d : Disk}

theorem isStale_eq_false_iff {name : String} :
    isStale keep name = false ↔
      Path.stemOf name = TypeScript.registryName ∨ Path.stemOf name ∈ keep := by
  simp only [isStale, Bool.and_eq_false_iff, bne_eq_false_iff_eq, Bool.not_eq_false',
    List.contains_iff_mem]

theorem sameDirectories_removeStale (p : Path) (keep names : List String) (d : Disk) :
    SameDirectories d (removeStale p keep names d).disk := by
  fun_induction removeStale p keep names d with
  | case1 d => exact .refl d
  | case2 name names d => exact .refl d
  | case3 name names d _ ih => exact ih
  | case4 name names d _ _ e he _ _ ih => exact (Disk.sameDirectories_remove he).trans ih
  | case5 name names d _ _ e _ _ _ ih => exact ih
  | case6 name names d _ _ ih => exact ih

/-- A location is left alone unless a stale file among those named is there. -/
theorem find?_removeStale (hp : d.entry p = .ok (l, .directory))
    (hm : ∀ name ∈ names, isStale keep name = true → m ≠ l ++ [name]) (hup : m ≠ l.dropLast) :
    (removeStale p keep names d).disk.tree.find? m = d.tree.find? m := by
  fun_induction removeStale p keep names d with
  | case1 d => rfl
  | case2 name names d => rfl
  | case3 name names d _ ih => exact ih hp fun n hn => hm n (List.mem_cons_of_mem _ hn)
  | case4 name names d _ hs e he _ _ ih =>
    have hsame := Disk.sameDirectories_remove he
    obtain ⟨k, b, hk, rfl⟩ := Disk.remove_eq_ok he
    obtain ⟨hloc, hb⟩ := Disk.entry_eq_ok_iff.mp hk
    have hne : m ≠ k := by
      rcases Disk.locate_child_cases hp hloc with rfl | ⟨-, rfl⟩
      · exact hm name List.mem_cons_self hs
      · exact hup
    calc _ = (d.setTree (d.tree.erase k)).tree.find? m :=
          ih (hsame.entry hp) fun n hn => hm n (List.mem_cons_of_mem _ hn)
      _ = d.tree.find? m := by rw [Disk.find?_erase_file hb, if_neg hne]
  | case5 name names d _ _ e _ _ _ ih => exact ih hp fun n hn => hm n (List.mem_cons_of_mem _ hn)
  | case6 name names d _ _ ih => exact ih hp fun n hn => hm n (List.mem_cons_of_mem _ hn)

/-- A cleanup does nothing but remove files. -/
theorem find?_removeStale_or (p : Path) (keep names : List String) (d : Disk) (m : Location) :
    (removeStale p keep names d).disk.tree.find? m = d.tree.find? m ∨
      (removeStale p keep names d).disk.tree.find? m = none ∧
        ∃ b, d.tree.find? m = some (.file b) := by
  fun_induction removeStale p keep names d with
  | case1 d => exact .inl rfl
  | case2 name names d => exact .inl rfl
  | case3 name names d _ ih => exact ih
  | case4 name names d _ hs e he _ _ ih =>
    obtain ⟨k, b, hk, rfl⟩ := Disk.remove_eq_ok he
    have hb := (Disk.entry_eq_ok_iff.mp hk).2
    rw [Disk.find?_erase_file hb] at ih
    by_cases hm : m = k
    · subst hm
      rw [if_pos rfl] at ih
      exact .inr ⟨ih.elim id And.left, b, hb⟩
    · rwa [if_neg hm] at ih
  | case5 name names d _ _ e _ _ _ ih => exact ih
  | case6 name names d _ _ ih => exact ih

/-- Nothing is put anywhere. -/
theorem find?_removeStale_eq_none (h : d.tree.find? m = none) :
    (removeStale p keep names d).disk.tree.find? m = none :=
  (find?_removeStale_or p keep names d m).elim (·.trans h) And.left

/-! ## Lookups and refusals -/

/-- What is no file stays none. -/
theorem isFile_removeStale_of_false (hp : d.entry p = .ok (l, .directory)) {name : String}
    (h : d.isFile (p.child name) = .ok false) :
    (removeStale p keep names d).disk.isFile (p.child name) = .ok false := by
  fun_induction removeStale p keep names d with
  | case1 d => exact h
  | case2 other names d => exact h
  | case3 other names d _ ih => exact ih hp h
  | case4 other names d _ _ e he _ _ ih =>
    refine ih ((Disk.sameDirectories_remove he).entry hp) ?_
    by_cases hn : name = other
    · subst hn
      exact Disk.isFile_child_of_remove hp he
    · rw [Disk.isFile_congr (Disk.entry_child_of_remove hp he hn), h]
  | case5 other names d _ _ e _ _ _ ih => exact ih hp h
  | case6 other names d _ _ ih => exact ih hp h

/-- A cleanup goes through to the end exactly if every entry can be looked up. -/
theorem stopped_removeStale_eq_none_iff (hp : d.entry p = .ok (l, .directory)) :
    (removeStale p keep names d).stopped = none ↔
      ∀ name ∈ names, ∀ x, d.isFile (p.child name) ≠ .error x := by
  fun_induction removeStale p keep names d with
  | case1 d => simp
  | case2 name names d x hx => simp [hx]
  | case3 name names d hfile ih => exact (ih hp).trans (by simp [hfile])
  | case4 name names d hfile _ e he _ _ ih =>
    have hplace := (Disk.sameDirectories_remove he).entry hp
    have hlook := fun n x => Disk.isFile_eq_error_congr (Disk.locate_child_congr hp hplace n) x
    exact (ih hplace).trans (by simp [hfile, hlook])
  | case5 name names d hfile _ e _ _ _ ih => exact (ih hp).trans (by simp [hfile])
  | case6 name names d hfile _ ih => exact (ih hp).trans (by simp [hfile])

/-- A cleanup that stops has got as far as the first entry that cannot be looked up. -/
theorem exists_of_stopped {x : DiskError} (hp : d.entry p = .ok (l, .directory))
    (hstop : (removeStale p keep names d).stopped = some x) :
    ∃ before name behind, names = before ++ name :: behind ∧
      d.isFile (p.child name) = .error x ∧
      (removeStale p keep before d).stopped = none ∧
      (removeStale p keep names d).disk = (removeStale p keep before d).disk ∧
      (removeStale p keep names d).errors = (removeStale p keep before d).errors := by
  fun_induction removeStale p keep names d with
  | case1 d => simp at hstop
  | case2 name names d y hy =>
    obtain rfl := Option.some.inj hstop
    exact ⟨[], name, names, rfl, hy, rfl, rfl, rfl⟩
  | case3 first names d hfile ih =>
    obtain ⟨before, name, behind, rfl, hname, hend⟩ := ih hp hstop
    refine ⟨first :: before, name, behind, rfl, hname, ?_⟩
    simpa only [removeStale, hfile] using hend
  | case4 first names d hfile hs e he rest _ ih =>
    have hplace := (Disk.sameDirectories_remove he).entry hp
    obtain ⟨before, name, behind, rfl, hname, hend⟩ := ih hplace hstop
    have hlook := Disk.isFile_eq_error_congr (Disk.locate_child_congr hp hplace name) x
    refine ⟨first :: before, name, behind, rfl, hlook.mp hname, ?_⟩
    simpa only [removeStale, hfile, hs, if_true, he] using hend
  | case5 first names d hfile hs e he rest _ ih =>
    obtain ⟨before, name, behind, rfl, hname, hnone, hdisk, herrors⟩ := ih hp hstop
    refine ⟨first :: before, name, behind, rfl, hname, ?_⟩
    simp only [removeStale, hfile, hs, if_true, he, hnone, rest, hdisk, herrors, true_and]
  | case6 first names d hfile hs ih =>
    obtain ⟨before, name, behind, rfl, hname, hend⟩ := ih hp hstop
    refine ⟨first :: before, name, behind, rfl, hname, ?_⟩
    simpa only [removeStale, hfile, hs, Bool.false_eq_true, if_false] using hend

/-- An entry that a cleanup passes over. -/
def Passed (d : Disk) (p : Path) (keep : List String) (name : String) : Prop :=
  d.isFile (p.child name) = .ok false ∨
    d.isFile (p.child name) = .ok true ∧ isStale keep name = false

theorem removeStale_of_passed {before : List String} (h : ∀ name ∈ before, Passed d p keep name)
    (rest : List String) :
    removeStale p keep (before ++ rest) d = removeStale p keep rest d := by
  induction before with
  | nil => rfl
  | cons name before ih =>
    rw [List.cons_append, ← ih fun n hn => h n (List.mem_cons_of_mem _ hn), removeStale]
    rcases h name List.mem_cons_self with hfile | ⟨hfile, hs⟩
    · simp only [hfile]
    · simp only [hfile, hs, Bool.false_eq_true, if_false]

/-- The entry of a report for a stale file that cannot be removed. -/
def refusal? (d : Disk) (p : Path) (keep : List String) (name : String) : Option String :=
  match d.isFile (p.child name) with
  | .ok true =>
    if isStale keep name then
      match d.remove (p.child name) with
      | .error e => some ("remove " ++ name ++ ": " ++ e.message)
      | .ok _ => none
    else none
  | _ => none

theorem refusal?_congr {e : Disk} {name : String} (hf : e.faults = d.faults)
    (he : e.entry (p.child name) = d.entry (p.child name)) :
    refusal? e p keep name = refusal? d p keep name := by
  unfold refusal?
  rw [Disk.isFile_congr he, Disk.remove_eq, Disk.remove_eq, Disk.removeAccess_congr hf he]
  cases d.removeAccess (p.child name) with
  | error x => rfl
  | ok m => rfl

/-- What was removed was not refused, before or after. -/
theorem refusal?_of_remove {e : Disk} {name : String} (hp : d.entry p = .ok (l, .directory))
    (he : d.remove (p.child name) = .ok e) (other : String) :
    refusal? e p keep other = refusal? d p keep other := by
  by_cases hn : other = name
  · subst hn
    have hbefore : refusal? d p keep other = none := by
      simp only [refusal?, he]
      split <;> simp_all
    have hafter : refusal? e p keep other = none := by
      simp only [refusal?, Disk.isFile_child_of_remove hp he]
    rw [hbefore, hafter]
  · exact refusal?_congr (Disk.sameDirectories_remove he).faults
      (Disk.entry_child_of_remove hp he hn)

/-- Each file that cannot be removed has its entry, in the order of the names. -/
theorem errors_removeStale (hp : d.entry p = .ok (l, .directory))
    (hstop : (removeStale p keep names d).stopped = none) :
    (removeStale p keep names d).errors = names.filterMap (refusal? d p keep) := by
  fun_induction removeStale p keep names d with
  | case1 d => rfl
  | case2 name names d => simp at hstop
  | case3 name names d hfile ih =>
    rw [ih hp hstop, List.filterMap_cons_none]
    simp only [refusal?, hfile]
  | case4 name names d hfile hs e he _ _ ih =>
    have hplace := (Disk.sameDirectories_remove he).entry hp
    have hnone : refusal? d p keep name = none := by simp only [refusal?, hfile, he, ite_self]
    rw [List.filterMap_cons_none hnone, ← funext (refusal?_of_remove hp he)]
    exact ih hplace hstop
  | case5 name names d hfile hs e he _ _ ih =>
    have hsome : refusal? d p keep name = some ("remove " ++ name ++ ": " ++ e.message) := by
      simp only [refusal?, hfile, he, hs, if_true]
    rw [List.filterMap_cons_some hsome, ← ih hp hstop]
  | case6 name names d hfile hs ih =>
    rw [ih hp hstop, List.filterMap_cons_none]
    simp only [refusal?, hs]
    split <;> simp

/-- Where nothing was refused, each entry was not. -/
theorem refusal?_eq_none (hp : d.entry p = .ok (l, .directory))
    (herr : (removeStale p keep names d).errors = [])
    (hstop : (removeStale p keep names d).stopped = none) {name : String} (hmem : name ∈ names) :
    refusal? d p keep name = none := by
  rw [errors_removeStale hp hstop, List.filterMap_eq_nil_iff] at herr
  exact herr name hmem

/-- When every entry could be looked up, no stale file is left but those that were refused. -/
theorem isFile_removeStale_of_stale (hp : d.entry p = .ok (l, .directory))
    (hstop : (removeStale p keep names d).stopped = none) {name : String} (hmem : name ∈ names)
    (hrefused : refusal? d p keep name = none) (hstale : isStale keep name = true) :
    (removeStale p keep names d).disk.isFile (p.child name) = .ok false := by
  fun_induction removeStale p keep names d with
  | case1 d => simp at hmem
  | case2 other names d => simp at hstop
  | case3 other names d hfile ih =>
    rcases List.mem_cons.mp hmem with rfl | hmem
    · exact isFile_removeStale_of_false hp hfile
    · exact ih hp hstop hmem hrefused
  | case4 other names d _ _ e he _ _ ih =>
    have hplace := (Disk.sameDirectories_remove he).entry hp
    rcases List.mem_cons.mp hmem with rfl | hmem
    · exact isFile_removeStale_of_false hplace (Disk.isFile_child_of_remove hp he)
    · exact ih hplace hstop hmem ((refusal?_of_remove hp he name).trans hrefused)
  | case5 other names d hfile hs e he _ _ ih =>
    rcases List.mem_cons.mp hmem with rfl | hmem
    · simp [refusal?, hfile, he, hs] at hrefused
    · exact ih hp hstop hmem hrefused
  | case6 other names d _ hfresh ih =>
    rcases List.mem_cons.mp hmem with rfl | hmem
    · exact absurd hstale hfresh
    · exact ih hp hstop hmem hrefused

theorem file?_removeStale_of_stale (hp : d.entry p = .ok (l, .directory)) (hnul : p.hasNul = false)
    (hstop : (removeStale p keep names d).stopped = none)
    {name : String} (hmem : name ∈ names) (hname : Path.IsName name)
    (hrefused : refusal? d p keep name = none) (hstale : isStale keep name = true) :
    (removeStale p keep names d).disk.tree.file? (l ++ [name]) = none := by
  have hnone := isFile_removeStale_of_stale hp hstop hmem hrefused hstale
  have hplace := (sameDirectories_removeStale p keep names d).entry hp
  have hchild : (p.child name).hasNul = false := by
    rw [Disk.hasNul_child, hnul, Bool.false_or]
    simpa using hname.no_nul
  by_cases hf : Disk.Fits p name
  · rw [Disk.isFile_child hplace hname.ne_dots hchild hf] at hnone
    simpa using hnone
  · rw [Disk.isFile_child_of_not_fits hplace hname.ne_dots hchild hf] at hnone
    contradiction

/-! ## The names in a directory -/

theorem mem_sortedNames {entries : List (String × Entry)} {name : String} :
    name ∈ sortedNames entries ↔ ∃ e, (name, e) ∈ entries := by
  simp [sortedNames, List.mem_mergeSort]

theorem mem_sortedNames_children_iff {t : Tree} {name : String} :
    name ∈ sortedNames (t.children l) ↔ t.find? (l ++ [name]) ≠ none := by
  rw [mem_sortedNames]
  constructor
  · rintro ⟨e, he⟩ hnone
    obtain ⟨x, hx⟩ := Tree.exists_find?_of_mem_children he
    rw [hx] at hnone
    contradiction
  · intro h
    obtain ⟨x, hx⟩ := Option.ne_none_iff_exists'.mp h
    exact ⟨x, Tree.mem_children hx⟩

theorem pairwise_sortedNames (entries : List (String × Entry)) :
    (sortedNames entries).Pairwise (· ≤ ·) := by
  unfold sortedNames
  exact pairwise_mergeSort_text (fun name => name) _

/-- A cleanup goes through all names of a directory that can be listed. -/
theorem clearModels_eq_ok {c : Cleanup} (h : (clearModels d p keep).2 = .ok c) :
    p.hasNul = false ∧ ∃ l, d.entry p = .ok (l, .directory) ∧
      d.list p = .ok (d.tree.children l) ∧
      c = removeStale p keep (sortedNames (d.tree.children l)) d := by
  unfold clearModels at h
  cases hl : d.list p with
  | error e => simp [hl] at h
  | ok entries =>
    simp only [hl, Except.ok.injEq] at h
    obtain ⟨hnul, l, hp, rfl⟩ := Disk.list_eq_ok hl
    exact ⟨hnul, l, hp, rfl, h.symm⟩

theorem exists_clearModels_eq_error_iff (d : Disk) (p : Path) (keep : List String) :
    (∃ e, (clearModels d p keep).2 = .error e) ↔ ∃ e, d.list p = .error e := by
  unfold clearModels
  cases d.list p <;> simp

end TypedContent.Sync
