import TypedContent.Proofs.Sync.CleanRun

/-!
# Runs that are given up

`aborted_iff_obstacle`: a run is given up exactly if there is an `Obstacle` that the system tells
of.  It is `Harmless` then: it has changed no file, asked about no type, and tells one reason.  One
obstacle the system does not tell of, and a run that meets it is `Silent`: it has done nothing
either, but ends without a report (`obstacle_not_aborted`).
-/

namespace TypedContent.Sync

open Files Schema TypeScript

/-! ## Obstacles -/

/-- The outcomes of a question for the overview that give no list of types. -/
inductive Unusable : Except String Json → Prop where
  | noAnswer {o : Except String Json} (h : NoAnswer o) : Unusable o
  | notList (payload : Json) (h : ∀ vs, payload ≠ .arr vs) : Unusable (.ok payload)
  | entry (vs : List Json) (v : Json) (hv : v ∈ vs) (e : Invalid)
      (h : TypeSummary.ofJson v = .error e) : Unusable (.ok (.arr vs))

/-- What keeps a run of `j` on `d` from going on.  Nothing is asked if there is no directory to be
had, for whatever reason. -/
inductive Obstacle (j : Job) (d : Disk) : Prop where
  | directory (e : AccessError) (h : (d.makeDirectory j.directory).2 = some e)
  | overview (made : (d.makeDirectory j.directory).2 = none)
      (h : Unusable (j.client.answer (d.makeDirectory j.directory).1 .overview).outcome)
  | collision (made : (d.makeDirectory j.directory).2 = none) (payload : Json)
      (listed : List TypeSummary)
      (ho : (j.client.answer (d.makeDirectory j.directory).1 .overview).outcome = .ok payload)
      (hl : readOverview payload = .ok listed)
      (t u : TypeSummary) (ht : t ∈ listed) (hu : u ∈ listed) (hne : t.name ≠ u.name)
      (h : Collision.foldCase (Identifier.stem t.name) =
        Collision.foldCase (Identifier.stem u.name))
  | listing (made : (d.makeDirectory j.directory).2 = none) (e : AccessError)
      (h : (d.makeDirectory j.directory).1.list j.directory = .error e)

theorem exists_mapM_eq_error_iff {α β ε : Type} {f : α → Except ε β} {xs : List α} :
    (∃ e, xs.mapM f = .error e) ↔ ∃ x ∈ xs, ∃ e, f x = .error e := by
  induction xs with
  | nil => simp [pure, Except.pure]
  | cons x xs ih =>
    simp only [List.mapM_cons, List.mem_cons, exists_eq_or_imp]
    rw [← ih]
    cases hx : f x with
    | error e => simp [bind, Except.bind]
    | ok y =>
      cases hxs : xs.mapM f with
      | error e => simp [bind, Except.bind]
      | ok ys => simp [bind, Except.bind, pure, Except.pure]

/-- One entry that is no summary of a type makes a list unreadable, wherever it stands. -/
theorem readOverview_arr_eq_none_iff {vs : List Json} :
    (readOverview (.arr vs)).toOption = none ↔ ∃ v ∈ vs, ∃ e, TypeSummary.ofJson v = .error e := by
  rw [← exists_mapM_eq_error_iff, readOverview]
  cases vs.mapM TypeSummary.ofJson <;> simp [Except.mapError, Except.toOption]

theorem readOverview_eq_none {payload : Json} (h : ∀ vs, payload ≠ .arr vs) :
    (readOverview payload).toOption = none := by
  cases payload with
  | arr vs => exact absurd rfl (h vs)
  | _ => rfl

/-- A list is neither null nor an envelope. -/
theorem usable_of_readOverview {payload : Json} {listed : List TypeSummary}
    (h : readOverview payload = .ok listed) : usable (.ok payload) = some payload := by
  cases payload with
  | arr vs => rfl
  | _ => simp [readOverview] at h

theorem overview_eq_none_iff {j : Job} {d : Disk} :
    j.overview d = none ↔ Unusable (j.client.answer d .overview).outcome := by
  rw [Job.overview, Job.fetchOverview_types, Option.bind_eq_none_iff]
  generalize (j.client.answer d .overview).outcome = o
  constructor
  · intro h
    cases hu : usable o with
    | none => exact .noAnswer ((usable_eq_none_iff o).mp hu)
    | some payload =>
      have hread := h payload hu
      rw [eq_ok_of_usable_eq_some hu]
      by_cases hlist : ∃ vs, payload = .arr vs
      · obtain ⟨vs, rfl⟩ := hlist
        obtain ⟨v, hv, e, he⟩ := readOverview_arr_eq_none_iff.mp hread
        exact .entry vs v hv e he
      · exact .notList payload fun vs he => hlist ⟨vs, he⟩
  · intro h payload hu
    cases h with
    | noAnswer h => simp [(usable_eq_none_iff o).mpr h] at hu
    | notList p h =>
      obtain rfl := Except.ok.inj (eq_ok_of_usable_eq_some hu)
      exact readOverview_eq_none h
    | entry vs v hv e h =>
      obtain rfl := Except.ok.inj (eq_ok_of_usable_eq_some hu)
      exact readOverview_arr_eq_none_iff.mpr ⟨v, hv, e, h⟩

/-! ## Where a run is given up -/

/-- The ends of a prelude with which a run is given up. -/
def Prelude.isGivenUp : Prelude → Bool
  | .noDirectory _ | .noOverview | .colliding _ _ | .unlisted _ _ => true
  | .unnamed | .stopped _ | .ready _ _ => false

theorem aborted_iff_isGivenUp (j : Job) (s : Schedule) (d : Disk) :
    (∃ r, (j.run s d).report = .ok r ∧ r.aborted = true) ↔
      (prelude j.directory j.overview d).2.isGivenUp = true := by
  rw [Job.run_report, Job.outline]
  cases prelude j.directory j.overview d with
  | mk e x =>
    cases x <;> simp [Prelude.isGivenUp, Report.abort, Job.conclude, Job.prepared, Job.begun,
      Report.empty]

/-- The names of two entries collide exactly if a collision is found among all names. -/
theorem exists_collision_iff (listed : List TypeSummary) :
    (∃ c, Collision.find? "model name" Identifier.stem true ((uniqueTypes listed).map (·.name)) =
      some c) ↔
    ∃ t ∈ listed, ∃ u ∈ listed, t.name ≠ u.name ∧
      Collision.foldCase (Identifier.stem t.name) =
        Collision.foldCase (Identifier.stem u.name) := by
  have hnames : ∀ n, n ∈ (uniqueTypes listed).map (·.name) ↔ n ∈ listed.map (·.name) := by
    intro n
    rw [map_name_uniqueTypes, overviewNames, mem_distinct]
  rw [Collision.exists_find?_eq_some_iff_of_mem hnames]
  rfl

theorem isGivenUp_prelude_iff (p : Path) (overview : Disk → Option (List TypeSummary)) (d : Disk) :
    (prelude p overview d).2.isGivenUp = true ↔
      (∃ e, (d.makeDirectory p).2 = some (.disk e)) ∨
        (d.makeDirectory p).2 = none ∧
          (overview (d.makeDirectory p).1 = none ∨
            (∃ listed, overview (d.makeDirectory p).1 = some listed ∧
              ∃ c, Collision.find? "model name" Identifier.stem true
                ((uniqueTypes listed).map (·.name)) = some c) ∨
            ∃ e, (d.makeDirectory p).1.list p = .error e) := by
  unfold prelude
  cases d.makeDirectory p with
  | mk e x =>
    cases x with
    | some a => cases a <;> simp [Prelude.isGivenUp]
    | none =>
      simp only
      cases overview e with
      | none => simp [Prelude.isGivenUp]
      | some listed =>
        simp only
        cases hc : Collision.find? "model name" Identifier.stem true
            ((uniqueTypes listed).map (·.name)) with
        | some c => simp [Prelude.isGivenUp, hc]
        | none =>
          rw [← exists_clearModels_eq_error_iff e p (modelStems (uniqueTypes listed))]
          cases (clearModels e p (modelStems (uniqueTypes listed))).2 with
          | error x => simp [Prelude.isGivenUp]
          | ok c => cases hst : c.stopped <;> simp [Prelude.isGivenUp, hc, hst]

/-- A path with a NUL character is an obstacle at which a run is not given up. -/
theorem isGivenUp_iff_obstacle (j : Job) (d : Disk) :
    (prelude j.directory j.overview d).2.isGivenUp = true ↔
      Obstacle j d ∧ (d.makeDirectory j.directory).2 ≠ some .nulInPath := by
  rw [isGivenUp_prelude_iff]
  constructor
  · rintro (⟨e, h⟩ | ⟨made, h⟩)
    · exact ⟨.directory (.disk e) h, by simp [h]⟩
    · refine ⟨?_, by simp [made]⟩
      rcases h with h | ⟨listed, ho, hc⟩ | ⟨e, h⟩
      · exact .overview made (overview_eq_none_iff.mp h)
      · obtain ⟨payload, hp, hl⟩ := Job.overview_eq_some_iff.mp ho
        obtain ⟨t, ht, u, hu, hne, he⟩ := (exists_collision_iff listed).mp hc
        exact .collision made payload listed (eq_ok_of_usable_eq_some hp) hl t u ht hu hne he
      · exact .listing made e h
  · rintro ⟨h, hnul⟩
    cases h with
    | directory e h =>
      cases e with
      | disk e => exact .inl ⟨e, h⟩
      | nulInPath => exact absurd h hnul
    | overview made h => exact .inr ⟨made, .inl (overview_eq_none_iff.mpr h)⟩
    | collision made payload listed ho hl t u ht hu hne h =>
      have hread := Job.overview_eq_some_iff.mpr ⟨payload, ho ▸ usable_of_readOverview hl, hl⟩
      exact .inr ⟨made, .inr (.inl ⟨listed, hread,
        (exists_collision_iff listed).mpr ⟨t, ht, u, hu, hne, h⟩⟩)⟩
    | listing made e h => exact .inr ⟨made, .inr (.inr ⟨e, h⟩)⟩

/-! ## What a run that is given up leaves behind -/

structure Harmless (j : Job) (d : Disk) (run : Run) (r : Report) : Prop where
  files : ∀ l, run.disk.tree.file? l = d.tree.file? l
  /-- At most directories on the way to that of the models were made. -/
  places : ∀ l, run.disk.tree.find? l = d.tree.find? l ∨ MadeOnTheWay d run.disk j.directory l
  questions : ∀ x ∈ run.exchanges, x.question = .overview
  written : r.written = []
  removed : r.removed = []
  failed : r.failed = []
  registry : r.registry = none
  errors : ∃ reason, r.errors = [reason]

theorem Prelude.not_hasCleaned_of_isGivenUp {x : Prelude} (h : x.isGivenUp = true) :
    x.hasCleaned = false := by
  cases x <;> simp_all [isGivenUp, hasCleaned]

theorem harmless_of_aborted {j : Job} {s : Schedule} {d : Disk} {r : Report}
    (h : (j.run s d).report = .ok r) (ha : r.aborted = true) : Harmless j d (j.run s d) r := by
  have hgiven := (aborted_iff_isGivenUp j s d).mp ⟨r, h, ha⟩
  have hextends := d.makeDirectory_extends j.directory
  rw [← prelude_disk_of_not_hasCleaned (Prelude.not_hasCleaned_of_isGivenUp hgiven)] at hextends
  have hdisk := j.run_disk s d
  have hasked := j.run_questions s d
  rw [Job.run_report] at h
  unfold Job.outline at h hdisk hasked
  have hquestions : ∀ qs : List Question, (∀ q ∈ qs, q = .overview) →
      (j.run s d).exchanges.map (·.question) = qs →
      ∀ x ∈ (j.run s d).exchanges, x.question = .overview := by
    intro qs hqs he x hx
    exact hqs _ (he ▸ List.mem_map_of_mem hx)
  cases hp : prelude j.directory j.overview d with
  | mk e x =>
    rw [hp] at h hdisk hasked hgiven hextends
    cases x with
    | unnamed | stopped | ready => simp [Prelude.isGivenUp] at hgiven
    | noDirectory | noOverview | colliding | unlisted =>
      simp only [Except.ok.injEq] at h hdisk hasked hextends
      subst h
      exact ⟨fun l => hdisk ▸ hextends.file? l, fun l => hdisk ▸ hextends.find l,
        hquestions _ (by simp) hasked, rfl, rfl, rfl, rfl, _, rfl⟩

/-- A run that ends at an obstacle without a word of it: there is no report, and nothing was made or
asked. -/
structure Silent (j : Job) (d : Disk) (run : Run) : Prop where
  obstacle : Obstacle j d
  nul : j.directory.hasNul = true
  report : run.report = .error .nulInPath
  disk : run.disk = d
  exchanges : run.exchanges = []

theorem silent_of_nul {j : Job} {s : Schedule} {d : Disk}
    (h : (d.makeDirectory j.directory).2 = some .nulInPath) : Silent j d (j.run s d) := by
  have hmake : d.makeDirectory j.directory = ((d.makeDirectory j.directory).1, some .nulInPath) :=
    Prod.ext rfl h
  obtain ⟨hkept, hrefused⟩ := Disk.makeDirectory_eq_nulInPath_iff.mp hmake
  rw [hkept] at hmake
  have hprelude : prelude j.directory j.overview d = (d, .unnamed) := by
    rw [prelude, hmake]
  refine ⟨.directory .nulInPath h, Disk.hasNul_of_allow_eq_nulInPath hrefused, ?_, ?_, ?_⟩
  · rw [Job.run_report, Job.outline, hprelude]
  · rw [Job.run_disk, Job.outline, hprelude]
  · have hasked := j.run_questions s d
    rw [Job.outline, hprelude] at hasked
    exact List.map_eq_nil_iff.mp hasked

/-- A run is given up exactly if there is an obstacle other than a NUL character in the path of its
directory, and has done no harm then.  With such a path it ends without a report. -/
theorem aborted_iff_obstacle (j : Job) (s : Schedule) (d : Disk) :
    ((∃ r, (j.run s d).report = .ok r ∧ r.aborted = true) ↔
      Obstacle j d ∧ (d.makeDirectory j.directory).2 ≠ some .nulInPath) ∧
    ((d.makeDirectory j.directory).2 = some .nulInPath → Silent j d (j.run s d)) ∧
    ∀ r, (j.run s d).report = .ok r → r.aborted = true → Harmless j d (j.run s d) r :=
  ⟨(aborted_iff_isGivenUp j s d).trans (isGivenUp_iff_obstacle j d), silent_of_nul,
    fun _ => harmless_of_aborted⟩

/-- No directory of that name can be made, and the run is not given up. -/
theorem obstacle_not_aborted :
    let j := { pageJob with directory := ⟨.here, ["a\x00b"]⟩ }
    Obstacle j staleDisk ∧
      ¬ ∃ r, (j.run .sequential staleDisk).report = .ok r ∧ r.aborted = true := by
  intro j
  have hnul : (staleDisk.makeDirectory j.directory).2 = some .nulInPath := rfl
  obtain ⟨hobstacle, -, hreport, -, -⟩ := silent_of_nul hnul (s := .sequential)
  refine ⟨hobstacle, ?_⟩
  rintro ⟨r, hr, -⟩
  rw [hreport] at hr
  contradiction

end TypedContent.Sync
