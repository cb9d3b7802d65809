import TypedContent.Proofs.Preload.Selection

/-!
# What a search asks of the system

`Glob.Asks` says for which paths a search asks the system.  One of them stops it if it is too long,
and nothing else does (`exists_asks_of_selectFrom`, `stops_of_asks`).  `Glob.LooksUp` says which
paths these can be, without a search (`Asks.looksUp`).
-/

namespace TypedContent.Preload.Glob

open Files Fallible

variable {d : Disk} {base : Path} {only : Bool} {parts : List GlobPart} {names r : List String}
  {selected : List (List String)}

/-! ## Paths that are too long -/

/-- The failure tells that the path to `names` is too long for the system. -/
def TellsTooLong (d : Disk) (base : Path) (names : List String) (e : DiskError) : Prop :=
  d.locate (below base names) = .error .nameTooLong ∧ e = .system .nameTooLong (below base names)

theorem tellsTooLong_of_isFile {e : DiskError} (h : d.isFile (below base names) = .error e) :
    TellsTooLong d base names e :=
  (Disk.isFile_eq_error_iff.mp h).2

theorem tellsTooLong_of_probe {e : DiskError} (h : d.probe (below base names) = .error e) :
    TellsTooLong d base names e :=
  (Disk.probe_eq_error_iff.mp h).2

theorem tellsTooLong_of_childrenOf {e : DiskError} (h : childrenOf d base names = .error e) :
    TellsTooLong d base names e := by
  unfold childrenOf at h
  split at h
  · contradiction
  · rename_i hentry
    refine ⟨?_, (Except.error.inj h).symm⟩
    rcases bind_eq_error hentry with hl | ⟨m, -, hentry⟩
    · exact hl
    · split at hentry <;> simp at hentry
  · contradiction

theorem exists_isFile_eq_error (hnul : (below base r).hasNul = false)
    (h : d.locate (below base r) = .error .nameTooLong) :
    ∃ e, d.isFile (below base r) = .error e :=
  ⟨_, Disk.isFile_eq_error_iff.mpr ⟨hnul, h, rfl⟩⟩

theorem exists_probe_eq_error (hnul : (below base r).hasNul = false)
    (h : d.locate (below base r) = .error .nameTooLong) :
    ∃ e, d.probe (below base r) = .error e :=
  ⟨_, Disk.probe_eq_error_iff.mpr ⟨hnul, h, rfl⟩⟩

theorem exists_childrenOf_eq_error (h : d.locate (below base names) = .error .nameTooLong) :
    ∃ e, childrenOf d base names = .error e := by
  unfold childrenOf Disk.entry
  rw [h]
  exact ⟨_, rfl⟩

/-! ## Questions -/

/-- A search for what the parts stand for, begun at `names`, asks the system for the path to `r`,
unless something stops it before. -/
inductive Asks (d : Disk) (base : Path) (only : Bool) :
    List GlobPart → List String → List String → Prop
  /-- It is asked whether what is selected is a file. -/
  | selected {names : List String} (h : (below base names).hasNul = false) :
      Asks d base only [] names names
  | name {n : String} {rest : List GlobPart} {names : List String}
      (h : (below base (names ++ [n])).hasNul = false) :
      Asks d base only (.named n :: rest) names (names ++ [n])
  | behindName {n : String} {rest : List GlobPart} {names r : List String} {e : Entry}
      (h : d.probe (below base (names ++ [n])) = .ok (some e)) (hpasses : passes only rest e = true)
      (hrest : Asks d base only rest (names ++ [n]) r) : Asks d base only (.named n :: rest) names r
  | entries {pieces : List Piece} {rest : List GlobPart} {names : List String} :
      Asks d base only (.wildcard pieces :: rest) names names
  | behindEntry {pieces : List Piece} {rest : List GlobPart} {names r : List String}
      {children : List (String × Entry)} {x : String × Entry}
      (h : childrenOf d base names = .ok children) (hx : x ∈ children)
      (hpasses : passes only rest x.2 = true) (hmatches : Piece.Matches pieces x.1.toList)
      (hrest : Asks d base only rest (names ++ [x.1]) r) :
      Asks d base only (.wildcard pieces :: rest) names r
  | start {rest : List GlobPart} {names start : List String}
      (h : start ∈ startingPoints d base names) : Asks d base only (.anyDepth :: rest) names start
  | behindStart {rest : List GlobPart} {names start r : List String}
      (h : start ∈ startingPoints d base names) (hrest : Asks d base only rest start r) :
      Asks d base only (.anyDepth :: rest) names r

theorem asks_of_mem_selectFrom (h : selectFrom d base only parts names = .ok selected)
    (hr : r ∈ selected) (hnul : (below base r).hasNul = false) :
    Asks d base only parts names r := by
  induction parts generalizing names selected with
  | nil =>
    obtain rfl := Except.ok.inj h
    obtain rfl := List.mem_singleton.mp hr
    exact .selected hnul
  | cons part rest ih =>
    cases part with
    | named n =>
      obtain ⟨e, found, hprobe, hpasses, hfound, hr⟩ := (mem_selectFrom_named h).mp hr
      exact .behindName hprobe hpasses (ih hfound hr)
    | wildcard pieces =>
      obtain ⟨children, x, found, hchildren, hx, hpasses, hmatches, hfound, hr⟩ :=
        (mem_selectFrom_wildcard h).mp hr
      exact .behindEntry hchildren hx hpasses hmatches (ih hfound hr)
    | anyDepth =>
      obtain ⟨start, hstart, found, hfound, hr⟩ := (mem_selectFrom_anyDepth h).mp hr
      exact .behindStart hstart (ih (selectAt_eq_ok hfound) hr)

/-- Nothing but a path that is too long stops a search. -/
theorem exists_asks_of_selectFrom {e : DiskError}
    (h : selectFrom d base only parts names = .error e) :
    ∃ r, Asks d base only parts names r ∧ TellsTooLong d base r e := by
  induction parts generalizing names with
  | nil => contradiction
  | cons part rest ih =>
    cases part with
    | named n =>
      rw [selectFrom_named] at h
      rcases bind_eq_error h with hp | ⟨there, hp, h⟩
      · exact ⟨_, .name (Disk.probe_eq_error_iff.mp hp).1, tellsTooLong_of_probe hp⟩
      · cases there with
        | none => contradiction
        | some x =>
          rw [Option.any_some] at h
          split at h
          · next hpasses =>
            obtain ⟨r, hr, he⟩ := ih h
            exact ⟨r, .behindName hp hpasses hr, he⟩
          · contradiction
    | wildcard pieces =>
      rw [selectFrom_wildcard] at h
      rcases bind_eq_error h with hc | ⟨children, hc, h⟩
      · exact ⟨names, .entries, tellsTooLong_of_childrenOf hc⟩
      · obtain ⟨x, hx, hstep⟩ := exists_step_of_gather_eq_error h
        obtain ⟨hx, hfits⟩ := List.mem_filter.mp hx
        rw [Bool.and_eq_true, Piece.matchAll_iff] at hfits
        obtain ⟨r, hr, he⟩ := ih hstep
        exact ⟨r, .behindEntry hc hx hfits.1 hfits.2 hr, he⟩
    | anyDepth =>
      rw [selectFrom_anyDepth] at h
      rcases bind_eq_error h with hg | ⟨found, -, h⟩
      · obtain ⟨start, hmem, hstart⟩ := exists_step_of_gather_eq_error hg
        rcases bind_eq_error hstart with hs | ⟨found, -, hstart⟩
        · obtain ⟨r, hr, he⟩ := ih hs
          exact ⟨r, .behindStart hmem hr, he⟩
        · rcases bind_eq_error hstart with hc | ⟨children, -, hstart⟩
          · exact ⟨start, .start hmem, tellsTooLong_of_childrenOf hc⟩
          · contradiction
      · contradiction

/-- A search that asks for a path that is too long fails, unless it is the path of something that it
selects. -/
theorem stops_of_asks (h : Asks d base only parts names r)
    (hlong : d.locate (below base r) = .error .nameTooLong) :
    (∃ e, selectFrom d base only parts names = .error e) ∨
      ∃ selected, selectFrom d base only parts names = .ok selected ∧ r ∈ selected ∧
        (below base r).hasNul = false := by
  induction h with
  | selected hnul => exact .inr ⟨_, rfl, List.mem_singleton_self _, hnul⟩
  | name hnul =>
    obtain ⟨e, he⟩ := exists_probe_eq_error hnul hlong
    rw [selectFrom_named, he]
    exact .inl ⟨e, rfl⟩
  | @behindName n rest names r x hprobe hpasses _ ih =>
    have hstep : selectFrom d base only (.named n :: rest) names =
        selectFrom d base only rest (names ++ [n]) := by
      rw [selectFrom_named, hprobe]
      simp [bind, Except.bind, hpasses]
    rw [hstep]
    exact ih hlong
  | entries =>
    obtain ⟨e, he⟩ := exists_childrenOf_eq_error hlong
    rw [selectFrom_wildcard, he]
    exact .inl ⟨e, rfl⟩
  | @behindEntry pieces rest names r children x hchildren hx hpasses hmatches _ ih =>
    cases hs : selectFrom d base only (.wildcard pieces :: rest) names with
    | error e => exact .inl ⟨e, rfl⟩
    | ok selected =>
      obtain ⟨found, hfound⟩ := step_of_selectFrom_wildcard hs hchildren hx hpasses hmatches
      rcases ih hlong with ⟨e, he⟩ | ⟨found', hfound', hr, hnul⟩
      · simp [hfound] at he
      · exact .inr ⟨selected, rfl, (mem_selectFrom_wildcard hs).mpr
          ⟨children, x, found', hchildren, hx, hpasses, hmatches, hfound', hr⟩, hnul⟩
  | @start rest names start hstart =>
    cases hs : selectFrom d base only (.anyDepth :: rest) names with
    | error e => exact .inl ⟨e, rfl⟩
    | ok selected =>
      obtain ⟨found, hfound⟩ := step_of_selectFrom_anyDepth hs hstart
      obtain ⟨found', -, hfound⟩ := exists_of_bind_eq_ok hfound
      obtain ⟨children, hchildren, -⟩ := exists_of_bind_eq_ok hfound
      obtain ⟨e, he⟩ := exists_childrenOf_eq_error hlong
      simp [hchildren] at he
  | @behindStart rest names start r hstart _ ih =>
    cases hs : selectFrom d base only (.anyDepth :: rest) names with
    | error e => exact .inl ⟨e, rfl⟩
    | ok selected =>
      obtain ⟨found, hfound⟩ := step_of_selectFrom_anyDepth hs hstart
      rcases ih hlong with ⟨e, he⟩ | ⟨found', hfound', hr, hnul⟩
      · simp [selectAt_eq_ok hfound] at he
      · obtain rfl := Except.ok.inj ((selectAt_eq_ok hfound).symm.trans hfound')
        exact .inr ⟨selected, rfl, (mem_selectFrom_anyDepth hs).mpr
          ⟨start, hstart, found, hfound, hr⟩, hnul⟩

/-! ## Which paths these can be -/

/-- A search for what the parts stand for, begun at `names`, may look up the path to `r`: the parts
give names that are spelled out in them, names of entries, and any directories. -/
inductive LooksUp (d : Disk) (base : Path) : List GlobPart → List String → List String → Prop
  | here (parts : List GlobPart) (names : List String) : LooksUp d base parts names names
  | named {n : String} {rest : List GlobPart} {names r : List String} :
      LooksUp d base rest (names ++ [n]) r → LooksUp d base (.named n :: rest) names r
  | entry {p : GlobPart} {rest : List GlobPart} {names r : List String} {l : Location}
      {n : String} {e : Entry} : p.Admits n → d.entry (below base names) = .ok (l, .directory) →
      d.tree.find? (l ++ [n]) = some e → LooksUp d base rest (names ++ [n]) r →
      LooksUp d base (p :: rest) names r
  | depth {rest : List GlobPart} {names r : List String} {l : Location} {front : List String} :
      d.entry (below base names) = .ok (l, .directory) →
      d.tree.find? (l ++ front) = some .directory → LooksUp d base rest (names ++ front) r →
      LooksUp d base (.anyDepth :: rest) names r
  | noDepth {rest : List GlobPart} {names r : List String} : LooksUp d base rest names r →
      LooksUp d base (.anyDepth :: rest) names r

theorem looksUp_of_startingPoints (ht : d.tree.WellFormed) {rest : List GlobPart}
    {start : List String} (hstart : start ∈ startingPoints d base names)
    (h : LooksUp d base rest start r) : LooksUp d base (.anyDepth :: rest) names r := by
  rcases (mem_startingPoints_iff ht).mp hstart with rfl | ⟨l, front, hl, rfl, -, hfind⟩
  · exact .noDepth h
  · exact .depth hl hfind h

theorem looksUp_of_childrenOf (ht : d.tree.WellFormed) {pieces : List Piece}
    {rest : List GlobPart} {children : List (String × Entry)} {x : String × Entry}
    (hchildren : childrenOf d base names = .ok children) (hx : x ∈ children)
    (hmatches : Piece.Matches pieces x.1.toList) (h : LooksUp d base rest (names ++ [x.1]) r) :
    LooksUp d base (.wildcard pieces :: rest) names r := by
  obtain ⟨l, hl, rfl⟩ := childrenOf_eq_ok hchildren hx
  exact .entry hmatches hl ((Tree.mem_children_iff ht).mp hx) h

theorem Asks.looksUp (ht : d.tree.WellFormed) (h : Asks d base only parts names r) :
    LooksUp d base parts names r := by
  induction h with
  | selected _ => exact .here _ _
  | name _ => exact .named (.here _ _)
  | behindName _ _ _ ih => exact .named ih
  | entries => exact .here _ _
  | behindEntry hchildren hx _ hmatches _ ih =>
    exact looksUp_of_childrenOf ht hchildren hx hmatches ih
  | start hstart => exact looksUp_of_startingPoints ht hstart (.here _ _)
  | behindStart hstart _ ih => exact looksUp_of_startingPoints ht hstart ih

end TypedContent.Preload.Glob
