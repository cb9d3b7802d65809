import TypedContent.Proofs.Sync.Abort
import TypedContent.Proofs.Sync.CleanRun
import TypedContent.Proofs.Sync.Frame
import TypedContent.Proofs.Sync.Isolation
import TypedContent.Proofs.Sync.Schedules

/-!
# Running again

A second run finds nothing to remove and writes what is there already.
`removeStale_again_of_stopped` and `Reached.cleanup_again` say so of the two ways in which a cleanup
ends, `Reached.again` of the fan-out, and `run_again` of whole runs: the disk stays as it is, and
`SameAgain` tells what the two reports have in common.
-/

namespace TypedContent.Sync

open Files Schema TypeScript

/-! ## What has to stay the same -/

/-- The disks that a run of `j` on `d` shows to its client with a question. -/
def Job.Shows (j : Job) (s : Schedule) (d : Disk) : Question → Disk → Prop
  | .overview, seen => d.makeDirectory j.directory = (seen, none)
  | .type guid, seen => ∃ types c, prelude j.directory j.overview d = (c.disk, .ready types c) ∧
      (∃ t ∈ types, t.guid = guid) ∧ FanOut.Meets (j.work types) s c.disk types seen

/-- What two runs one after the other report.  Where no directory could be made the first run may
have come a part of the way, and so the second one may be refused for another reason. -/
inductive SameAgain (j : Job) (d : Disk) :
    Except AccessError Report → Except AccessError Report → Prop where
  | unreported (e : AccessError) : SameAgain j d (.error e) (.error e)
  | uncreated (x y : DiskError) (refused : (d.makeDirectory j.directory).2 = some (.disk x))
      (part : (d.makeDirectory j.directory).1 ≠ d) :
      SameAgain j d
        (.ok ((j.begun d).abort ("create " ++ j.directory.toString ++ ": " ++ x.message)))
        (.ok ((j.begun d).abort ("create " ++ j.directory.toString ++ ": " ++ y.message)))
  | reported (r r' : Report) (same : r.SameButOrder { r' with removed := r.removed })
      (removed : r'.removed = []) : SameAgain j d (.ok r) (.ok r')

/-! ## A second cleanup -/

section Cleanup

variable {p : Path} {l : Location} {keep names : List String} {d : Disk}

/-- What a cleanup without errors has come across it would pass over. -/
theorem passed_removeStale (hp : d.entry p = .ok (l, .directory))
    (herr : (removeStale p keep names d).errors = [])
    (hstop : (removeStale p keep names d).stopped = none) {name : String} (hmem : name ∈ names) :
    Passed (removeStale p keep names d).disk p keep name := by
  have hplace := (sameDirectories_removeStale p keep names d).entry hp
  cases hs : isStale keep name with
  | true =>
    have hrefused := refusal?_eq_none hp herr hstop hmem
    exact .inl (isFile_removeStale_of_stale hp hstop hmem hrefused hs)
  | false =>
    cases hfile : (removeStale p keep names d).disk.isFile (p.child name) with
    | error x =>
      have hlook := Disk.isFile_eq_error_congr (Disk.locate_child_congr hp hplace name) x
      exact absurd (hlook.mp hfile) ((stopped_removeStale_eq_none_iff hp).mp hstop name hmem x)
    | ok b =>
      cases b with
      | false => exact .inl hfile
      | true => exact .inr ⟨hfile, hs⟩

/-- What stands in a sorted list, but not before an element, is not below it. -/
theorem le_of_not_mem_before {before behind : List String} {first name : String}
    (hsorted : (before ++ first :: behind).Pairwise (· ≤ ·))
    (hmem : name ∈ before ++ first :: behind) (hnot : name ∉ before) : first ≤ name := by
  have hrest := (List.pairwise_append.mp hsorted).2.1
  rcases List.mem_cons.mp ((List.mem_append.mp hmem).resolve_left hnot) with rfl | hbehind
  · exact String.le_refl _
  · exact (List.pairwise_cons.mp hrest).1 name hbehind

/-- A cleanup that stopped without errors stops again at the same entry, and does nothing before. -/
theorem removeStale_again_of_stopped {e : Disk} {x : DiskError}
    (hp : d.entry p = .ok (l, .directory))
    (hstop : (removeStale p keep (sortedNames (d.tree.children l)) d).stopped = some x)
    (herr : (removeStale p keep (sortedNames (d.tree.children l)) d).errors = [])
    (he : e = (removeStale p keep (sortedNames (d.tree.children l)) d).disk) :
    removeStale p keep (sortedNames (e.tree.children l)) e = ⟨e, [], [], [], some x⟩ := by
  have hsorted := pairwise_sortedNames (d.tree.children l)
  have hsorted' := pairwise_sortedNames (e.tree.children l)
  have hnew : ∀ {name}, name ∈ sortedNames (e.tree.children l) →
      name ∈ sortedNames (d.tree.children l) := by
    intro name hmem
    rw [mem_sortedNames_children_iff] at hmem ⊢
    intro hnone
    rw [he, find?_removeStale_eq_none hnone] at hmem
    contradiction
  obtain ⟨before, first, behind, hnames, hfirst, hnone, hdisk, herrors⟩ :=
    exists_of_stopped hp hstop
  rw [hdisk] at he
  rw [herrors] at herr
  rw [hnames] at hsorted
  have hplace : e.entry p = .ok (l, .directory) :=
    he ▸ (sameDirectories_removeStale p keep before d).entry hp
  have hlook : ∀ name x, e.isFile (p.child name) = .error x ↔ d.isFile (p.child name) = .error x :=
    fun name x => Disk.isFile_eq_error_congr (Disk.locate_child_congr hp hplace name) x
  have hbefore := (stopped_removeStale_eq_none_iff hp).mp hnone
  -- The entry at which the first cleanup stopped is still there.
  have hthere : first ∈ sortedNames (e.tree.children l) := by
    have hmem : first ∈ sortedNames (d.tree.children l) := by simp [hnames]
    rw [mem_sortedNames_children_iff] at hmem ⊢
    rw [he, find?_removeStale hp ?_ (Disk.append_singleton_ne_dropLast l first)]
    · exact hmem
    · intro name hname _ heq
      obtain rfl := (List.cons.inj (List.append_cancel_left heq)).1
      exact hbefore first hname x hfirst
  have hstop' : (removeStale p keep (sortedNames (e.tree.children l)) e).stopped ≠ none := by
    intro hno
    exact (stopped_removeStale_eq_none_iff hplace).mp hno first hthere x
      ((hlook first x).mpr hfirst)
  obtain ⟨y, hy⟩ := Option.ne_none_iff_exists'.mp hstop'
  obtain ⟨before', first', behind', hnames', hfirst', hnone', -, -⟩ := exists_of_stopped hplace hy
  have hbefore' := (stopped_removeStale_eq_none_iff hplace).mp hnone'
  rw [hnames'] at hsorted' hnew hthere ⊢
  rw [hnames] at hnew
  -- Both cleanups stop at the least entry that cannot be looked up.
  obtain rfl : first' = first := by
    refine String.le_antisymm ?_ ?_
    · exact le_of_not_mem_before hsorted' hthere fun hmem =>
        hbefore' first hmem x ((hlook first x).mpr hfirst)
    · exact le_of_not_mem_before hsorted (hnew (by simp)) fun hmem =>
        hbefore first' hmem y ((hlook first' y).mp hfirst')
  have hpassed : ∀ name ∈ before', Passed e p keep name := by
    intro name hname
    by_cases hmem : name ∈ before
    · exact he ▸ passed_removeStale hp herr hnone hmem
    · have hle := le_of_not_mem_before hsorted (hnew (List.mem_append_left _ hname)) hmem
      have hge := (List.pairwise_append.mp hsorted').2.2 name hname first' List.mem_cons_self
      obtain rfl := String.le_antisymm hle hge
      exact absurd hfirst' (hbefore' first' hname y)
  have hxy := (hlook first' y).mp hfirst'
  rw [hfirst] at hxy
  rw [removeStale_of_passed hpassed, removeStale]
  simp only [hfirst', Except.error.inj hxy]

end Cleanup

namespace Reached

variable {j : Job} {s : Schedule} {d : Disk} {r : Report} {l : Location}
  {listed types : List TypeSummary} {c : Cleanup} {g : TypeSummary → Except ModelError SourceFile}

/-- What a run adds to the directory has a name that the system takes. -/
theorem fits_of_new (h : Reached j s d r l listed types c g) {name : String}
    (hold : c.disk.tree.find? (l ++ [name]) = none)
    (hnew : (j.run s d).disk.tree.find? (l ++ [name]) ≠ none) : Disk.Fits j.directory name := by
  rw [h.disk] at hnew
  by_cases hr : name = registryFileName
  · subst hr
    have hentry := h.settled.registryFile
    rw [registryEntry, registryAt, hold] at hentry
    cases hw : c.disk.writeAccess j.directory l registryFileName with
    | error e => simp [hw, stored, hentry] at hnew
    | ok u => exact Disk.fits_of_writeAccess hw
  · by_cases hm : ∃ t ∈ types, name = modelFileName t.name
    · obtain ⟨t, ht, rfl⟩ := hm
      have hentry := h.settled.model t ht
      unfold modelEntry at hentry
      rw [modelAt, hold] at hentry
      split at hentry
      · exact absurd hentry hnew
      · cases hw : c.disk.writeAccess j.directory l (modelFileName t.name) with
        | error e => simp [hw, stored, hentry] at hnew
        | ok u => exact Disk.fits_of_writeAccess hw
    · have hsame := h.settled.elsewhere (l ++ [name]) (by simpa [registryAt] using hr)
        fun t ht => by simpa [modelAt] using fun e => hm ⟨t, ht, e⟩
      exact absurd (hsame.trans hold) hnew

/-- A stale file is as the cleanup left it, also where its name leads out of the directory. -/
theorem entry_of_stale (h : Reached j s d r l listed types c g) {name : String}
    (hs : isStale (modelStems types) name = true) :
    (j.run s d).disk.entry (j.directory.child name) = c.disk.entry (j.directory.child name) := by
  have hplace := h.sameDirectories.entry h.prepared.place
  have hlocate := Disk.locate_child_congr h.prepared.directory hplace name
  refine Disk.entry_congr hlocate fun m hm => ?_
  rcases Disk.locate_child_cases h.prepared.directory hm with rfl | ⟨-, rfl⟩
  · exact h.find?_of_stale hs
  · exact h.find?_eq (Disk.append_singleton_ne_dropLast l _).symm
      fun t _ => (Disk.append_singleton_ne_dropLast l _).symm

/-- A cleanup passes over all that a run without refused removals leaves behind. -/
theorem passed (h : Reached j s d r l listed types c g) (herr : c.errors = []) {name : String}
    (hmem : name ∈ sortedNames ((j.run s d).disk.tree.children l)) :
    Passed (j.run s d).disk j.directory (modelStems types) name := by
  have hplace := h.sameDirectories.entry h.prepared.place
  have hstop := h.prepared.finished
  rw [h.prepared.cleanup] at hstop
  rw [mem_sortedNames_children_iff] at hmem
  have hlisted : c.disk.tree.find? (l ++ [name]) ≠ none →
      name ∈ sortedNames ((d.makeDirectory j.directory).1.tree.children l) := by
    intro hc
    rw [mem_sortedNames_children_iff]
    intro hnone
    rw [h.prepared.cleanup, find?_removeStale_eq_none hnone] at hc
    contradiction
  cases hs : isStale (modelStems types) name with
  | true =>
    have hmem' := hlisted (h.find?_of_stale hs ▸ hmem)
    have hgone := isFile_removeStale_of_stale h.prepared.place hstop hmem'
      (h.refusal?_eq_none herr hmem') hs
    rw [← h.prepared.cleanup, ← Disk.isFile_congr (h.entry_of_stale hs)] at hgone
    exact .inl hgone
  | false =>
    have hlook : ∀ x, (j.run s d).disk.isFile (j.directory.child name) ≠ .error x := by
      intro x hx
      by_cases hc : c.disk.tree.find? (l ++ [name]) = none
      · obtain ⟨-, hlocate, -⟩ := Disk.isFile_eq_error_iff.mp hx
        exact Disk.locate_child_eq_error hplace hlocate (h.fits_of_new hc hmem)
      · have hcongr := Disk.locate_child_congr h.prepared.place hplace name
        exact (stopped_removeStale_eq_none_iff h.prepared.place).mp hstop name (hlisted hc) x
          ((Disk.isFile_eq_error_congr hcongr x).mp hx)
    cases hfile : (j.run s d).disk.isFile (j.directory.child name) with
    | error x => exact absurd hfile (hlook x)
    | ok b =>
      cases b with
      | false => exact .inl hfile
      | true => exact .inr ⟨hfile, hs⟩

theorem cleanup_again (h : Reached j s d r l listed types c g) (herr : c.errors = []) :
    removeStale j.directory (modelStems types)
        (sortedNames ((j.run s d).disk.tree.children l)) (j.run s d).disk =
      ⟨(j.run s d).disk, [], [], [], none⟩ := by
  have hpassed := removeStale_of_passed (fun _ => h.passed herr) []
  rwa [List.append_nil] at hpassed

end Reached

/-! ## A second fan-out -/

section Again

variable {d e : Disk} {p : Path} {l : Location}

/-- To write the same once more changes nothing. -/
theorem stored_stored (access : Except AccessError Unit) (old : Option Entry) (content : String) :
    stored access (stored access old content) content = stored access old content := by
  cases access <;> rfl

theorem taskOutcome_congr (hs : SameDirectories d e) (t : TypeSummary)
    (g : Except ModelError SourceFile) : taskOutcome e p l t g = taskOutcome d p l t g := by
  cases g with
  | error x => rfl
  | ok f => simp only [taskOutcome, Disk.writeAccess_congr hs]

theorem registryOutcome_congr (hs : SameDirectories d e) :
    registryOutcome e p l = registryOutcome d p l := by
  rw [registryOutcome, registryOutcome, Disk.writeAccess_congr hs]

theorem modelEntry_again (hs : SameDirectories d e) {t : TypeSummary}
    {g : Except ModelError SourceFile}
    (he : e.tree.find? (modelAt l t) = modelEntry d p l t g) :
    modelEntry e p l t g = e.tree.find? (modelAt l t) := by
  cases g with
  | error x => rfl
  | ok f =>
    rw [modelEntry] at he ⊢
    rw [Disk.writeAccess_congr hs, he, stored_stored]

theorem registryEntry_again (hs : SameDirectories d e) {names : List String}
    (he : e.tree.find? (registryAt l) = registryEntry d p l names) :
    registryEntry e p l names = e.tree.find? (registryAt l) := by
  rw [registryEntry, Disk.writeAccess_congr hs, he, registryEntry, stored_stored]

end Again

namespace Reached

variable {j : Job} {s s' : Schedule} {d : Disk} {r r' : Report} {l : Location}
  {listed types : List TypeSummary} {c : Cleanup}
  {g g' : TypeSummary → Except ModelError SourceFile}

/-- From the same answers the same is generated. -/
theorem generated_again {c' : Cleanup} (h : Reached j s d r l listed types c g)
    (h' : Reached j s' (j.run s d).disk r' l listed types c' g')
    (hanswers : ∀ q seen seen', j.Shows s d q seen → j.Shows s' (j.run s d).disk q seen' →
      (j.client.answer seen' q).outcome = (j.client.answer seen q).outcome) :
    ∀ t ∈ types, g' t = g t := by
  intro t ht
  obtain ⟨seen, hmeets, hg⟩ := h.generated t ht
  obtain ⟨seen', hmeets', hg'⟩ := h'.generated t ht
  have hanswer := hanswers (.type t.guid) seen seen'
    ⟨types, c, h.prepared.prelude_eq, ⟨t, ht, rfl⟩, hmeets⟩
    ⟨types, c', h'.prepared.prelude_eq, ⟨t, ht, rfl⟩, hmeets'⟩
  rw [← hg, ← hg', generateModel_outcome, generateModel_outcome]
  simp only [Job.work, hanswer]

/-- A run on what another one left behind that generates the same. -/
theorem again (h : Reached j s d r l listed types c g)
    (h' : Reached j s' (j.run s d).disk r' l listed types ⟨(j.run s d).disk, [], [], [], none⟩ g')
    (hg : ∀ t ∈ types, g' t = g t) (herr : c.errors = [])
    (huser : (currentUser j.login (j.run s d).disk).2 = (currentUser j.login d).2) :
    (∀ m, (j.run s' (j.run s d).disk).disk.tree.find? m = (j.run s d).disk.tree.find? m) ∧
      r.SameButOrder { r' with removed := r.removed } ∧ r'.removed = [] := by
  have hs : SameDirectories c.disk (j.run s d).disk := h.disk ▸ h.settled.same
  have htasks : (j.fanOut s types c.disk).tasks =
      (j.fanOut s' types (j.run s d).disk).tasks := by
    rw [h.settled.tasks, h'.settled.tasks]
    exact List.map_congr_left fun t ht => by rw [hg t ht, taskOutcome_congr hs]
  have hregistry : (j.fanOut s types c.disk).registry =
      (j.fanOut s' types (j.run s d).disk).registry := by
    rw [h.settled.registry, h'.settled.registry, registryOutcome_congr hs]
  refine ⟨fun m => ?_, ?_, h'.removed_eq⟩
  · rw [h'.disk]
    by_cases hr : m = registryAt l
    · rw [hr, h'.settled.registryFile]
      refine registryEntry_again hs ?_
      rw [h.disk, h.settled.registryFile]
    · by_cases hm : ∃ t ∈ types, m = modelAt l t
      · obtain ⟨t, ht, rfl⟩ := hm
        rw [h'.settled.model t ht, hg t ht]
        refine modelEntry_again hs ?_
        rw [h.disk, h.settled.model t ht]
      · exact h'.settled.elsewhere m hr fun t ht e => hm ⟨t, ht, e⟩
  · have hreport : { r' with removed := r.removed } =
        Job.conclude (j.prepared d types c) (j.fanOut s' types (j.run s d).disk) s'.collection := by
      rw [h'.report, h.removed_eq]
      simp only [Job.conclude, Job.prepared, Job.begun, huser, herr]
    rw [hreport, h.report]
    exact Job.conclude_sameButOrder _ htasks hregistry _ _

end Reached

/-! ## Whole runs -/

section Runs

variable {j : Job} {s s' : Schedule} {d e : Disk}

theorem run_disk_of_prelude {x : Prelude} (hx : prelude j.directory j.overview d = (e, x))
    (hready : ∀ types c, x ≠ .ready types c) : (j.run s d).disk = e := by
  rw [Job.run_disk, Job.outline, hx]
  cases x with
  | ready types c => exact absurd rfl (hready types c)
  | _ => rfl

/-- A run that ends before its fan-out, and so far does the same again, ends in the same way. -/
theorem again_of_prelude {x : Prelude} (hx : prelude j.directory j.overview d = (e, x))
    (hready : ∀ types c, x ≠ .ready types c)
    (hagain : prelude j.directory j.overview e = (e, x))
    (huser : (currentUser j.login e).2 = (currentUser j.login d).2) :
    (∀ m, (j.run s' e).disk.tree.find? m = e.tree.find? m) ∧
      SameAgain j d (j.run s d).report (j.run s' e).report := by
  have hbegun : j.begun e = j.begun d := by rw [Job.begun, Job.begun, huser]
  refine ⟨fun m => by rw [run_disk_of_prelude hagain hready], ?_⟩
  rw [Job.run_report, Job.run_report, Job.outline, Job.outline, hx, hagain]
  cases x with
  | ready types c => exact absurd rfl (hready types c)
  | unnamed | stopped => exact .unreported _
  | noDirectory | noOverview | colliding | unlisted =>
    simp only [hbegun]
    exact .reported _ _ (.refl_of_failed_eq_nil rfl) rfl

theorem overview_again {l : Location} {listed types : List TypeSummary} {c : Cleanup} {e : Disk}
    (h : Cleaned j.directory j.overview d l listed types c)
    (hs : SameDirectories (d.makeDirectory j.directory).1 e)
    (hanswers : ∀ seen seen', j.Shows s d .overview seen → j.Shows s' e .overview seen' →
      (j.client.answer seen' .overview).outcome = (j.client.answer seen .overview).outcome) :
    j.overview e = some listed := by
  have hsame := hanswers _ _ (Prod.ext rfl h.made) (h.makeDirectory_again hs)
  rw [Job.overview, Job.fetchOverview_types, hsame, ← Job.fetchOverview_types]
  exact h.overview

/-- Where no directory could be made none can be made again, if perhaps for another reason. -/
theorem again_of_noDirectory {x : DiskError}
    (hp : prelude j.directory j.overview d = (e, .noDirectory x))
    (huser : (currentUser j.login e).2 = (currentUser j.login d).2) :
    (∀ m, (j.run s' e).disk.tree.find? m = e.tree.find? m) ∧
      SameAgain j d (j.run s d).report (j.run s' e).report := by
  by_cases hsame : e = d
  · subst hsame
    exact again_of_prelude hp (by simp) hp huser
  · have hmake : d.makeDirectory j.directory = (e, some (.disk x)) :=
      makeDirectory_of_prelude hp rfl
    obtain ⟨y, hy⟩ := Disk.makeDirectory_again_of_failure hmake
    have hbegun : j.begun e = j.begun d := by rw [Job.begun, Job.begun, huser]
    cases y with
    | nulInPath =>
      obtain ⟨-, hrefused⟩ := Disk.makeDirectory_eq_nulInPath_iff.mp hy
      have hfaults := (d.makeDirectory_extends j.directory).faults
      rw [hmake] at hfaults
      rw [Disk.allow_congr hfaults] at hrefused
      rw [Disk.makeDirectory_of_refused hrefused] at hmake
      simp at hmake
    | disk y =>
      have hp' : prelude j.directory j.overview e = (e, .noDirectory y) := by
        simp only [prelude, hy]
      refine ⟨fun m => by rw [run_disk_of_prelude hp' (by simp)], ?_⟩
      rw [Job.run_report, Job.run_report, Job.outline, Job.outline, hp, hp']
      simp only [hbegun]
      exact .uncreated x y (by rw [hmake]) (by rw [hmake]; exact hsame)

theorem prelude_again_of_isGivenUp {x : Prelude} (hx : prelude j.directory j.overview d = (e, x))
    (hgiven : x.isGivenUp = true) (hmade : x.refusal? = none) :
    prelude j.directory j.overview e = (e, x) := by
  have hmake := makeDirectory_of_prelude hx (Prelude.not_hasCleaned_of_isGivenUp hgiven)
  rw [hmade] at hmake
  rw [prelude_congr ((Disk.makeDirectory_again hmake).trans hmake.symm), hx]

/-- A second run, to which the same answers are given, changes nothing and reports the same. -/
theorem run_again (j : Job) (s s' : Schedule) (d : Disk)
    (huser : (currentUser j.login (j.run s d).disk).2 = (currentUser j.login d).2)
    (hanswers : ∀ q seen seen', j.Shows s d q seen → j.Shows s' (j.run s d).disk q seen' →
      (j.client.answer seen' q).outcome = (j.client.answer seen q).outcome)
    (hremovals : ∀ l listed types c, Cleaned j.directory j.overview d l listed types c →
      c.errors = []) :
    (∀ m, (j.run s' (j.run s d).disk).disk.tree.find? m = (j.run s d).disk.tree.find? m) ∧
      SameAgain j d (j.run s d).report (j.run s' (j.run s d).disk).report := by
  cases hp : prelude j.directory j.overview d with
  | mk e x =>
    cases x with
    | unnamed =>
      rw [run_disk_of_prelude hp (by simp)] at huser ⊢
      obtain ⟨rfl, -⟩ := Disk.makeDirectory_eq_nulInPath_iff.mp (makeDirectory_of_prelude hp rfl)
      exact again_of_prelude hp (by simp) hp huser
    | noDirectory x =>
      rw [run_disk_of_prelude hp (by simp)] at huser ⊢
      exact again_of_noDirectory hp huser
    | noOverview | colliding | unlisted =>
      rw [run_disk_of_prelude hp (by simp)] at huser ⊢
      exact again_of_prelude hp (by simp) (prelude_again_of_isGivenUp hp rfl rfl) huser
    | stopped x =>
      rw [run_disk_of_prelude hp (by simp)] at huser hanswers ⊢
      refine again_of_prelude hp (by simp) ?_ huser
      obtain ⟨l, listed, types, c, rfl, h, hstop⟩ := prelude_eq_stopped hp
      have hs := h.sameDirectories
      have hagain := h.again hs (overview_again h hs (hanswers .overview))
      have herr := hremovals l listed types c h
      have hdisk := congrArg Cleanup.disk h.cleanup
      rw [h.cleanup] at hstop herr
      rw [removeStale_again_of_stopped h.place hstop herr hdisk] at hagain
      exact hagain.prelude_eq
    | ready types c =>
      obtain ⟨rfl, l, listed, hprep⟩ := prelude_eq_ready hp
      obtain ⟨r, g, hr, -, h⟩ := hprep.exists_reached hp s
      have hs := h.sameDirectories
      have herr := hremovals l listed types c hprep.toCleaned
      have hoverview := overview_again hprep.toCleaned hs (hanswers .overview)
      have hagain := hprep.toCleaned.again hs hoverview
      rw [h.cleanup_again herr] at hagain
      have hprep' : Prepared j.directory j.overview (j.run s d).disk l listed types
        ⟨(j.run s d).disk, [], [], [], none⟩ := ⟨hagain, rfl⟩
      have hp' := hprep'.prelude_eq
      obtain ⟨r', g', hr', -, h'⟩ := hprep'.exists_reached hp' s'
      have hgenerated := h.generated_again h' hanswers
      obtain ⟨hdisk, hsame, hremoved⟩ := h.again h' hgenerated herr huser
      rw [hr, hr']
      exact ⟨hdisk, .reported r r' hsame hremoved⟩

end Runs

/-- A shop with a stale model, of whose types one cannot be described. -/
def failingJob : Job := { shopJob with client := failingShop }

theorem run_again_failingShop :
    (currentUser failingJob.login (failingJob.run .sequential staleDisk).disk).2 =
        (currentUser failingJob.login staleDisk).2 ∧
      (∀ q seen seen', (failingShop.answer seen' q).outcome = (failingShop.answer seen q).outcome) ∧
      (∀ l listed types c,
        Cleaned failingJob.directory failingJob.overview staleDisk l listed types c →
          c.removed = ["Old.ts"] ∧ c.errors = []) ∧
      (∀ m,
        (failingJob.run .sequential (failingJob.run .sequential staleDisk).disk).disk.tree.find? m =
          (failingJob.run .sequential staleDisk).disk.tree.find? m) ∧
      SameAgain failingJob staleDisk (failingJob.run .sequential staleDisk).report
        (failingJob.run .sequential (failingJob.run .sequential staleDisk).disk).report := by
  have huser : (currentUser failingJob.login (failingJob.run .sequential staleDisk).disk).2 =
      (currentUser failingJob.login staleDisk).2 := rfl
  have hanswers : ∀ q seen seen',
      (failingShop.answer seen' q).outcome = (failingShop.answer seen q).outcome := fun _ _ _ => rfl
  have hoverview : failingJob.overview (staleDisk.makeDirectory failingJob.directory).1 =
      some [⟨"Cart", "", "", "1"⟩, ⟨"Item", "", "", "2"⟩] := rfl
  have hcleared : ((clearModels (staleDisk.makeDirectory failingJob.directory).1
      failingJob.directory (modelStems (uniqueTypes [⟨"Cart", "", "", "1"⟩, ⟨"Item", "", "", "2"⟩]))
      ).2.toOption.map fun c => (c.removed, c.errors)) = some (["Old.ts"], []) := by
    decide +kernel
  have hremovals : ∀ l listed types c,
      Cleaned failingJob.directory failingJob.overview staleDisk l listed types c →
        c.removed = ["Old.ts"] ∧ c.errors = [] := by
    intro l listed types c h
    obtain rfl := Option.some.inj (hoverview.symm.trans h.overview)
    have hc := h.cleared
    rw [h.unique] at hc
    rw [hc] at hcleared
    exact Prod.mk.inj (Option.some.inj hcleared)
  obtain ⟨hdisk, hreport⟩ := run_again failingJob .sequential .sequential staleDisk huser
    (fun q seen seen' _ _ => hanswers q seen seen')
    fun l listed types c h => (hremovals l listed types c h).2
  exact ⟨huser, hanswers, hremovals, hdisk, hreport⟩

/-- A directory below a file: the first run still has a directory to make before it gets there. -/
def blockedJob : Job := { shopJob with directory := ⟨.here, ["new", "..", "file", "sub"]⟩ }

def blockedDisk : Disk where
  tree := ⟨[(["file"], .file .empty)]⟩
  current := []
  faults := noFaults

theorem not_sameButOrder_blocked :
    (∀ q seen seen', (blockedJob.client.answer seen' q).outcome =
      (blockedJob.client.answer seen q).outcome) ∧
    (∀ l listed types c,
      ¬ Cleaned blockedJob.directory blockedJob.overview blockedDisk l listed types c) ∧
    ∃ r r', (blockedJob.run .sequential blockedDisk).report = .ok r ∧
      (blockedJob.run .sequential (blockedJob.run .sequential blockedDisk).disk).report = .ok r' ∧
      ¬ r.SameButOrder { r' with removed := r.removed } := by
  have hfirst : ((blockedJob.run .sequential blockedDisk).report.toOption.map fun r =>
      (r.failed, r.errors)) =
        some ([], ["create new/../file/sub: [Errno 17] File exists: 'new/../file'"]) := by
    decide +kernel
  have hsecond : ((blockedJob.run .sequential (blockedJob.run .sequential blockedDisk).disk
      ).report.toOption.map (·.errors)) =
        some ["create new/../file/sub: [Errno 20] Not a directory: 'new/../file/sub'"] := by
    decide +kernel
  refine ⟨fun _ _ _ => rfl, fun l listed types c h => ?_, ?_⟩
  · have hmade : (blockedDisk.makeDirectory blockedJob.directory).2.isSome = true := by
      decide +kernel
    simp [h.made] at hmade
  · cases h : (blockedJob.run .sequential blockedDisk).report with
    | error e => simp [h, Except.toOption] at hfirst
    | ok r =>
      cases h' :
          (blockedJob.run .sequential (blockedJob.run .sequential blockedDisk).disk).report with
      | error e => simp [h', Except.toOption] at hsecond
      | ok r' =>
        simp only [h, h', Except.toOption, Option.map_some, Option.some.injEq, Prod.mk.injEq]
          at hfirst hsecond
        refine ⟨r, r', rfl, rfl, fun hsame => ?_⟩
        obtain ⟨others, causes, causes', he, he', hperm, hnames⟩ := hsame.errors
        rw [hfirst.1, List.perm_nil, List.map_eq_nil_iff] at hnames
        subst hnames
        obtain rfl := List.nil_perm.mp hperm
        have herrors : r.errors = r'.errors := he.trans he'.symm
        rw [hfirst.2, hsecond] at herrors
        exact absurd herrors (by decide)

end TypedContent.Sync
