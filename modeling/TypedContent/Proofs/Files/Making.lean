import TypedContent.Proofs.FileNames
import TypedContent.Proofs.Files.Children

/-!
# Making directories

`makeUpwards` asks for a directory, then for those above it, then for the directory again.  Proved
here, by induction on the parts:

* `makeDirectory_extends`: a disk gets nothing but directories on the way to the one asked for;
* `makeDirectory_of_entry`, `hasDirectory_of_makeUpwards`: where the directory is there is nothing
  to do, and after a success it is there;
* `makeDirectory_again`, `makeDirectory_again_of_failure`: to ask once more changes nothing, and
  fails exactly if it failed before.
-/

namespace TypedContent.Files

/-! ## What may change -/

/-- Where nothing was there is a directory now, and it is on the way that the path goes. -/
structure MadeOnTheWay (d e : Disk) (p : Path) (l : Location) : Prop where
  vacant : d.tree.find? l = none
  made : e.tree.find? l = some .directory
  onTheWay : ∃ parts, parts <+: p.parts ∧ e.locate ⟨p.anchor, parts⟩ = .ok l

theorem MadeOnTheWay.of_sameDirectories {d e f : Disk} {p : Path} {l : Location}
    (h : MadeOnTheWay d e p l) (hs : SameDirectories e f) : MadeOnTheWay d f p l := by
  obtain ⟨parts, hp, hl⟩ := h.onTheWay
  exact ⟨h.vacant, (hs.directory l).mpr h.made, parts, hp, hs.locate hl⟩

/-- The second disk is the first one with directories made on the way to `p`. -/
structure ExtendsTo (d e : Disk) (p : Path) : Prop where
  current : e.current = d.current
  faults : e.faults = d.faults
  find : ∀ l, e.tree.find? l = d.tree.find? l ∨ MadeOnTheWay d e p l

namespace ExtendsTo

variable {d e f : Disk} {p : Path}

theorem refl (d : Disk) (p : Path) : ExtendsTo d d p := ⟨rfl, rfl, fun _ => .inl rfl⟩

theorem directory (h : ExtendsTo d e p) {l : Location} (hl : d.tree.find? l = some .directory) :
    e.tree.find? l = some .directory := by
  rcases h.find l with hf | hm
  · rw [hf, hl]
  · exact hm.made

theorem file? (h : ExtendsTo d e p) (l : Location) : e.tree.file? l = d.tree.file? l := by
  rcases h.find l with hf | hm
  · exact Tree.file?_congr hf
  · rw [Tree.file?, Tree.file?, hm.vacant, hm.made]

theorem trans (h : ExtendsTo d e p) (k : ExtendsTo e f p) : ExtendsTo d f p := by
  refine ⟨k.current.trans h.current, k.faults.trans h.faults, fun l => ?_⟩
  rcases k.find l with hk | hk
  · rcases h.find l with hh | hh
    · exact .inl (hk.trans hh)
    · obtain ⟨parts, hp, hl⟩ := hh.onTheWay
      exact .inr ⟨hh.vacant, hk.trans hh.made, parts, hp,
        Disk.locate_mono k.current (fun _ => k.directory) hl⟩
  · rcases h.find l with hh | hh
    · exact .inr ⟨hh.symm.trans hk.vacant, hk.made, hk.onTheWay⟩
    · have := hk.vacant
      rw [hh.made] at this
      contradiction

/-- What is on the way to a directory is on the way to everything below it. -/
theorem longer {a : Anchor} {ps qs : List String} (h : ExtendsTo d e ⟨a, ps⟩) (hp : ps <+: qs) :
    ExtendsTo d e ⟨a, qs⟩ := by
  refine ⟨h.current, h.faults, fun l => (h.find l).imp_right fun hm => ?_⟩
  obtain ⟨parts, hs, hl⟩ := hm.onTheWay
  exact ⟨hm.vacant, hm.made, parts, hs.trans hp, hl⟩

end ExtendsTo

namespace Disk

variable {d e : Disk} {p : Path}

/-! ## One directory -/

/-- The path leads to a directory. -/
def HasDirectory (d : Disk) (p : Path) : Prop := ∃ l, d.entry p = .ok (l, .directory)

theorem isDirectory_eq_ok_true_iff :
    d.isDirectory p = .ok true ↔ p.hasNul = false ∧ d.HasDirectory p := by
  unfold isDirectory probe HasDirectory
  cases p.hasNul with
  | true => simp [Except.map]
  | false =>
    cases he : d.entry p with
    | error c => cases c <;> simp [Except.map]
    | ok x =>
      obtain ⟨m, y⟩ := x
      cases y <;> simp [Except.map]

/-- A path leads below a directory only if the directory is there. -/
theorem hasDirectory_of_locate_child {name : String} {l : Location}
    (h : d.locate (p.child name) = .ok l) : d.HasDirectory p := by
  have hsize := Path.utf8ByteSize_toString_le p name
  unfold locate at h
  split at h
  · contradiction
  · have hfits : ¬ maxPath < p.toString.utf8ByteSize := by
      simp only [maxPath] at *
      omega
    change follow d.tree (d.start p) (p.parts ++ [name]) = .ok l at h
    rw [follow_append] at h
    cases hm : follow d.tree (d.start p) p.parts with
    | error c => simp [hm, Except.bind] at h
    | ok m =>
      refine ⟨m, entry_eq_ok_iff.mpr ⟨by rw [locate, if_neg hfits, hm], ?_⟩⟩
      simp only [hm, Except.bind, follow] at h
      split at h
      · contradiction
      · contradiction
      · assumption

theorem makeOne_extends {d e : Disk} {p : Path} (h : d.makeOne p = .ok e) : ExtendsTo d e p := by
  unfold makeOne at h
  cases hl : d.locate p with
  | error c => simp [hl, bind, Except.bind] at h
  | ok l =>
    simp only [hl, bind, Except.bind] at h
    cases hf : d.tree.find? l with
    | some x => simp [hf] at h
    | none =>
      simp only [hf, Except.ok.injEq] at h
      subst h
      have hne : l ≠ [] := Tree.ne_nil_of_find?_ne (t := d.tree) (by simp [hf])
      have hfind : ∀ m, (d.setTree (d.tree.insert l .directory)).tree.find? m =
          if m = l then some .directory else d.tree.find? m :=
        Tree.find?_insert_of_ne_nil _ _ hne
      refine ⟨rfl, rfl, fun m => ?_⟩
      by_cases hm : m = l
      · subst hm
        refine .inr ⟨hf, by simp [hfind], p.parts, List.prefix_rfl, ?_⟩
        refine locate_mono (d := d) (e := d.setTree (d.tree.insert m .directory))
          rfl (fun k hk => ?_) hl
        by_cases hkm : k = m
        · simp [hfind, hkm]
        · rw [hfind, if_neg hkm, hk]
      · exact .inl (by rw [hfind, if_neg hm])

theorem makeOne_of_hasDirectory (h : d.HasDirectory p) : d.makeOne p = .error .occupied := by
  obtain ⟨l, h⟩ := h
  obtain ⟨hl, hf⟩ := entry_eq_ok_iff.mp h
  simp [makeOne, hl, bind, Except.bind, hf]

theorem makeOne_of_locate {c : Cause} (h : d.locate p = .error c) : d.makeOne p = .error c := by
  simp [makeOne, h, bind, Except.bind]

theorem hasDirectory_of_makeOne (h : d.makeOne p = .ok e) : e.HasDirectory p := by
  have hext := makeOne_extends h
  unfold makeOne at h
  cases hl : d.locate p with
  | error c => simp [hl, bind, Except.bind] at h
  | ok l =>
    simp only [hl, bind, Except.bind] at h
    cases hf : d.tree.find? l with
    | some x => simp [hf] at h
    | none =>
      simp only [hf, Except.ok.injEq] at h
      subst h
      have hne : l ≠ [] := Tree.ne_nil_of_find?_ne (t := d.tree) (by simp [hf])
      refine ⟨l, entry_eq_ok_iff.mpr ⟨locate_mono hext.current (fun _ => hext.directory) hl, ?_⟩⟩
      exact (Tree.find?_insert_of_ne_nil _ _ hne l).trans (if_pos rfl)

theorem keep_of_hasDirectory (hnul : p.hasNul = false) (h : d.HasDirectory p) (c : Cause) :
    makeUpwards.keep d p c = (d, none) := by
  rw [makeUpwards.keep, isDirectory_eq_ok_true_iff.mpr ⟨hnul, h⟩]

theorem keep_of_not_hasDirectory (h : ¬ d.HasDirectory p) (c : Cause) :
    makeUpwards.keep d p c = (d, some (.disk (.system c p))) := by
  unfold makeUpwards.keep
  split
  · exact absurd (isDirectory_eq_ok_true_iff.mp (by assumption)).2 h
  · rfl

theorem keep_fst (d : Disk) (p : Path) (c : Cause) : (makeUpwards.keep d p c).1 = d := by
  unfold makeUpwards.keep
  split <;> rfl

theorem hasDirectory_of_keep {c : Cause} (h : makeUpwards.keep d p c = (e, none)) :
    e.HasDirectory p := by
  by_cases hdir : d.HasDirectory p
  · obtain rfl : d = e := by rw [← keep_fst d p c, h]
    exact hdir
  · simp [keep_of_not_hasDirectory hdir] at h

theorem settle_extends (d : Disk) (p : Path) : ExtendsTo d (makeUpwards.settle d p).1 p := by
  unfold makeUpwards.settle
  split
  · exact makeOne_extends (by assumption)
  · exact .refl d p
  · rw [keep_fst]
    exact .refl d p

theorem hasDirectory_of_settle (h : makeUpwards.settle d p = (e, none)) : e.HasDirectory p := by
  unfold makeUpwards.settle at h
  split at h
  · obtain rfl := (Prod.mk.inj h).1
    exact hasDirectory_of_makeOne (by assumption)
  · simp at h
  · exact hasDirectory_of_keep h

/-- A second attempt that fails changes nothing. -/
theorem settle_eq_some {x : AccessError} (hnul : p.hasNul = false)
    (h : makeUpwards.settle d p = (e, some x)) :
    e = d ∧ ¬ d.HasDirectory p ∧ ∃ c, x = .disk (.system c p) := by
  have hdir : ¬ d.HasDirectory p := by
    intro hdir
    unfold makeUpwards.settle at h
    simp [makeOne_of_hasDirectory hdir, keep_of_hasDirectory hnul hdir] at h
  unfold makeUpwards.settle at h
  split at h
  · simp at h
  · simp only [Prod.mk.injEq, Option.some.injEq] at h
    exact ⟨h.1.symm, hdir, _, h.2.symm⟩
  · simp only [keep_of_not_hasDirectory hdir, Prod.mk.injEq, Option.some.injEq] at h
    exact ⟨h.1.symm, hdir, _, h.2.symm⟩

/-! ## All directories on the way -/

theorem makeUpwards_extends (d : Disk) (a : Anchor) (parts : List String) :
    ExtendsTo d (d.makeUpwards a parts).1 ⟨a, parts.reverse⟩ := by
  have hlonger : ∀ {d e : Disk} {above : List String} (part : String),
      ExtendsTo d e ⟨a, above.reverse⟩ → ExtendsTo d e ⟨a, (part :: above).reverse⟩ :=
    fun part h => h.longer (by rw [List.reverse_cons]; exact List.prefix_append _ _)
  fun_induction makeUpwards d a parts with
  | case1 | case2 | case3 => exact .refl _ _
  | case4 part above p _ e he => exact makeOne_extends he
  | case5 part above p _ _ e x hx ih =>
    rw [hx] at ih
    exact hlonger part ih
  | case6 part above p _ _ e he ih =>
    rw [he] at ih
    exact (hlonger part ih).trans (settle_extends e p)
  | case7 part above p _ c _ _ =>
    rw [keep_fst]
    exact .refl d _

/-! ## Asking once more -/

section

variable {a : Anchor} {part : String} {above parts : List String} {x : AccessError}

/-- A NUL character is refused at once, since the whole path is asked for first. -/
theorem makeUpwards_eq_nulInPath (h : d.makeUpwards a parts = (e, some .nulInPath)) :
    d.allow .makeDirectory ⟨a, parts.reverse⟩ = .error .nulInPath := by
  fun_induction makeUpwards d a parts with
  | case1 p x ha | case3 part above p x ha =>
    obtain rfl := Option.some.inj (Prod.mk.inj h).2
    exact ha
  | case2 | case4 => simp at h
  | case5 part above p ha _ f y hf ih =>
    obtain rfl := Option.some.inj (Prod.mk.inj h).2
    obtain rfl := (Prod.mk.inj h).1
    have habove := hasNul_of_allow_eq_nulInPath (ih hf)
    have hwhole := hasNul_of_allow ha
    simp only [p, Path.hasNul, List.any_reverse, List.any_cons, Bool.or_eq_false_iff]
      at hwhole habove
    rw [hwhole.2] at habove
    contradiction
  | case6 part above p ha _ f hf ih =>
    obtain ⟨-, -, c, hc⟩ := settle_eq_some (hasNul_of_allow ha) h
    contradiction
  | case7 part above p _ c _ _ =>
    by_cases hdir : d.HasDirectory p
    · rw [keep_of_hasDirectory (hasNul_of_allow (by assumption)) hdir] at h
      simp at h
    · rw [keep_of_not_hasDirectory hdir] at h
      simp at h

/-- There is nothing to do where the directory is. -/
theorem makeUpwards_of_hasDirectory (ha : d.allow .makeDirectory ⟨a, parts.reverse⟩ = .ok ())
    (h : d.HasDirectory ⟨a, parts.reverse⟩) : d.makeUpwards a parts = (d, none) := by
  cases parts with
  | nil =>
    rw [List.reverse_nil] at ha
    simp only [makeUpwards, ha]
  | cons part above =>
    rw [makeUpwards_of_error ha (makeOne_of_hasDirectory h) (by simp)]
    exact keep_of_hasDirectory (hasNul_of_allow ha) h _

theorem allow_of_makeUpwards (h : d.makeUpwards a parts = (e, none)) :
    d.allow .makeDirectory ⟨a, parts.reverse⟩ = .ok () := by
  cases ha : d.allow .makeDirectory ⟨a, parts.reverse⟩ with
  | error x => simp [makeUpwards_of_refused ha] at h
  | ok u => rfl

/-- Where a directory could be made, it is there. -/
theorem hasDirectory_of_makeUpwards (hne : parts ≠ []) (h : d.makeUpwards a parts = (e, none)) :
    e.HasDirectory ⟨a, parts.reverse⟩ := by
  fun_induction makeUpwards d a parts with
  | case1 | case2 => contradiction
  | case3 | case5 => simp at h
  | case4 part above p _ f hf =>
    obtain rfl := (Prod.mk.inj h).1
    exact hasDirectory_of_makeOne hf
  | case6 part above p _ _ f hf ih => exact hasDirectory_of_settle h
  | case7 part above p _ c _ _ => exact hasDirectory_of_keep h

theorem makeUpwards_again (h : d.makeUpwards a parts = (e, none)) :
    e.makeUpwards a parts = (e, none) := by
  have hfaults : e.faults = d.faults := by
    have := (makeUpwards_extends d a parts).faults
    rwa [h] at this
  have ha := (allow_congr hfaults _ _).trans (allow_of_makeUpwards h)
  cases parts with
  | nil =>
    rw [List.reverse_nil] at ha
    simp only [makeUpwards, ha]
  | cons part above =>
    exact makeUpwards_of_hasDirectory ha (hasDirectory_of_makeUpwards (by simp) h)

/-- After a failure the directory is still missing, or nothing was tried. -/
theorem makeUpwards_eq_some (h : d.makeUpwards a parts = (e, some x)) :
    e = d ∨ ¬ e.HasDirectory ⟨a, parts.reverse⟩ := by
  fun_induction makeUpwards d a parts with
  | case1 | case3 => exact .inl (Prod.mk.inj h).1.symm
  | case2 | case4 => simp at h
  | case5 part above p _ _ f y hf ih =>
    obtain ⟨rfl, hx⟩ := Prod.mk.inj h
    obtain rfl := Option.some.inj hx
    refine (ih hf).imp_right fun hup hdir => hup ?_
    obtain ⟨l, hl⟩ := hdir
    have hbelow : f.locate (Path.child ⟨a, above.reverse⟩ part) = .ok l := by
      rw [Path.child, ← List.reverse_cons]
      exact (entry_eq_ok_iff.mp hl).1
    exact hasDirectory_of_locate_child hbelow
  | case6 part above p ha _ f hf ih =>
    obtain ⟨rfl, hdir, -⟩ := settle_eq_some (hasNul_of_allow ha) h
    exact .inr hdir
  | case7 part above p _ c _ _ =>
    refine .inl ?_
    rw [← keep_fst d p c, h]

/-- Below a directory that is missing nothing can be made. -/
theorem makeUpwards_of_missing (ha : d.allow .makeDirectory ⟨a, (part :: above).reverse⟩ = .ok ())
    (hup : ¬ d.HasDirectory ⟨a, above.reverse⟩) {y : AccessError}
    (hfail : d.makeUpwards a above = (d, some y)) :
    ∃ z, d.makeUpwards a (part :: above) = (d, some z) := by
  have hp : (⟨a, (part :: above).reverse⟩ : Path) = Path.child ⟨a, above.reverse⟩ part := by
    rw [Path.child, List.reverse_cons]
  cases hl : d.locate ⟨a, (part :: above).reverse⟩ with
  | ok l => exact absurd (hasDirectory_of_locate_child (hp ▸ hl)) hup
  | error c =>
    have hone := makeOne_of_locate hl
    by_cases hc : c = .notFound
    · subst hc
      exact ⟨y, makeUpwards_of_above_failed ha hone hfail⟩
    · refine ⟨_, (makeUpwards_of_error ha hone hc).trans (keep_of_not_hasDirectory ?_ c)⟩
      rintro ⟨l, hdir⟩
      rw [(entry_eq_ok_iff.mp hdir).1] at hl
      contradiction

theorem makeUpwards_again_of_failure (h : d.makeUpwards a parts = (e, some x)) :
    ∃ y, e.makeUpwards a parts = (e, some y) := by
  have hfaults : e.faults = d.faults := by
    have := (makeUpwards_extends d a parts).faults
    rwa [h] at this
  by_cases hsame : e = d
  · exact ⟨x, by rw [hsame, h, hsame]⟩
  fun_induction makeUpwards d a parts with
  | case1 | case3 => exact absurd (Prod.mk.inj h).1.symm hsame
  | case2 | case4 => simp at h
  | case5 part above p ha _ f y hf ih =>
    obtain ⟨rfl, hx⟩ := Prod.mk.inj h
    obtain rfl := Option.some.inj hx
    obtain ⟨z, hz⟩ := ih hf
    exact makeUpwards_of_missing ((allow_congr hfaults _ _).trans ha)
      ((makeUpwards_eq_some hf).resolve_left hsame) hz
  | case6 part above p ha _ f hf ih =>
    -- The directory above is there now, so the second attempt is the same as the first one.
    obtain ⟨rfl, hdir, -⟩ := settle_eq_some (hasNul_of_allow ha) h
    have ha' := (allow_congr hfaults .makeDirectory p).trans ha
    cases hone : e.makeOne p with
    | ok f =>
      simp only [makeUpwards.settle, hone] at h
      simp at h
    | error c =>
      by_cases hc : c = .notFound
      · subst hc
        exact ⟨x, (makeUpwards_of_above ha' hone (makeUpwards_again hf)).trans h⟩
      · exact ⟨_, (makeUpwards_of_error ha' hone hc).trans (keep_of_not_hasDirectory hdir c)⟩
  | case7 part above p _ c _ _ =>
    refine absurd ?_ hsame
    rw [← keep_fst d p c, h]

end

/-! ## Whole paths -/

theorem reversed_parts (p : Path) : (⟨p.anchor, p.parts.reverse.reverse⟩ : Path) = p := by
  rw [List.reverse_reverse]

/-- Making a directory changes nothing but what is missing on the way to it. -/
theorem makeDirectory_extends (d : Disk) (p : Path) : ExtendsTo d (d.makeDirectory p).1 p := by
  have h := makeUpwards_extends d p.anchor p.parts.reverse
  rwa [reversed_parts] at h

theorem makeDirectory_of_refused {x : AccessError} (h : d.allow .makeDirectory p = .error x) :
    d.makeDirectory p = (d, some x) := by
  rw [← reversed_parts p] at h
  exact makeUpwards_of_refused h

/-- Nothing is made where the directory is. -/
theorem makeDirectory_of_entry {l : Location} (h : d.entry p = .ok (l, .directory)) :
    (d.makeDirectory p).1 = d := by
  cases ha : d.allow .makeDirectory p with
  | error x => rw [makeDirectory_of_refused ha]
  | ok u =>
    rw [← reversed_parts p] at ha h
    rw [makeDirectory, makeUpwards_of_hasDirectory ha ⟨l, h⟩]

theorem allow_of_makeDirectory (h : (d.makeDirectory p).2 = none) :
    d.allow .makeDirectory p = .ok () := by
  cases ha : d.allow .makeDirectory p with
  | error x => simp [makeDirectory_of_refused ha] at h
  | ok u => rfl

/-- Once the directory is made, there is nothing to do while no directory comes or goes. -/
theorem makeDirectory_of_sameDirectories {l : Location} (h : (d.makeDirectory p).2 = none)
    (hp : (d.makeDirectory p).1.entry p = .ok (l, .directory))
    (hs : SameDirectories (d.makeDirectory p).1 e) : e.makeDirectory p = (e, none) := by
  have hfaults := hs.faults.trans (makeDirectory_extends d p).faults
  have ha := (allow_congr hfaults .makeDirectory p).trans (allow_of_makeDirectory h)
  have hplace := hs.entry hp
  rw [← reversed_parts p] at ha hplace
  exact makeUpwards_of_hasDirectory ha ⟨l, hplace⟩

theorem makeDirectory_eq_nulInPath_iff :
    d.makeDirectory p = (e, some .nulInPath) ↔
      e = d ∧ d.allow .makeDirectory p = .error .nulInPath := by
  constructor
  · intro h
    have ha := makeUpwards_eq_nulInPath h
    rw [reversed_parts] at ha
    exact ⟨(Prod.mk.inj ((makeDirectory_of_refused ha).symm.trans h)).1.symm, ha⟩
  · rintro ⟨rfl, ha⟩
    exact makeDirectory_of_refused ha

theorem makeDirectory_again (h : d.makeDirectory p = (e, none)) : e.makeDirectory p = (e, none) :=
  makeUpwards_again h

theorem makeDirectory_again_of_failure {x : AccessError} (h : d.makeDirectory p = (e, some x)) :
    ∃ y, e.makeDirectory p = (e, some y) :=
  makeUpwards_again_of_failure h

end Disk

end TypedContent.Files
