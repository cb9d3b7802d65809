import TypedContent.Files.Disk

/-!
# Directories

Writing and removing files leaves the directories of a disk as they are, and what a path leads to
depends on nothing else.  Proved here:

* `follow_append`, `follow_mono`: a path is followed part by part, and the same way on every disk
  that has the same directories or more;
* `locate_child_eq`: where an entry of a directory is, or that its path is too long;
* `SameDirectories.insert`, `SameDirectories.erase`: files that come and go.
-/

namespace TypedContent.Files

/-! ## Trees -/

namespace Tree

/-- The bytes of the file at a location, if there is a file. -/
def file? (t : Tree) (l : Location) : Option ByteArray :=
  match t.find? l with
  | some (.file bytes) => some bytes
  | _ => none

theorem file?_eq_some_iff {t : Tree} {l : Location} {b : ByteArray} :
    t.file? l = some b ↔ t.find? l = some (.file b) := by
  unfold file?
  split <;> simp_all

theorem file?_congr {t u : Tree} {l : Location} (h : u.find? l = t.find? l) :
    u.file? l = t.file? l := by
  rw [file?, file?, h]

theorem find?_nil (t : Tree) : t.find? [] = some .directory := by
  simp [find?]

/-- The root cannot be anything but a directory. -/
theorem ne_nil_of_find?_ne {t : Tree} {l : Location} (h : t.find? l ≠ some .directory) : l ≠ [] :=
  fun e => h (e ▸ find?_nil t)

theorem find?_insert_of_ne_nil (t : Tree) {l : Location} (e : Entry) (hl : l ≠ []) (m : Location) :
    (t.insert l e).find? m = if m = l then some e else t.find? m := by
  by_cases hm : m = []
  · subst hm
    rw [find?_nil, find?_nil, if_neg fun e => hl e.symm]
  · exact find?_insert t l m e hm

theorem find?_erase_of_ne_nil (t : Tree) {l : Location} (hl : l ≠ []) (m : Location) :
    (t.erase l).find? m = if m = l then none else t.find? m := by
  by_cases hm : m = []
  · subst hm
    rw [find?_nil, find?_nil, if_neg fun e => hl e.symm]
  · exact find?_erase t l m hm

theorem mem_of_find?_eq_some {t : Tree} {l : Location} {e : Entry} (hl : l ≠ [])
    (h : t.find? l = some e) : (l, e) ∈ t.entries := by
  rw [find?, if_neg hl, List.lookup_eq_some_iff] at h
  obtain ⟨before, after, he, -⟩ := h
  simp [he]

/-- What is found directly in a directory is listed there. -/
theorem mem_children {t : Tree} {l : Location} {name : String} {e : Entry}
    (h : t.find? (l ++ [name]) = some e) : (name, e) ∈ t.children l := by
  have hm := mem_of_find?_eq_some (by simp) h
  exact List.mem_filterMap.mpr ⟨_, hm, by simp⟩

/-- What is listed in a directory is found there, if perhaps as another entry of the name. -/
theorem exists_find?_of_mem_children {t : Tree} {l : Location} {name : String} {e : Entry}
    (h : (name, e) ∈ t.children l) : ∃ x, t.find? (l ++ [name]) = some x := by
  obtain ⟨⟨m, y⟩, hm, he⟩ := List.mem_filterMap.mp h
  have hplace : m = l ++ [name] := by
    cases hlast : m.getLast? with
    | none => simp [hlast] at he
    | some last =>
      obtain ⟨front, rfl⟩ := List.getLast?_eq_some_iff.mp hlast
      by_cases hfront : front = l
      · simp_all
      · simp [hfront] at he
  subst hplace
  rw [find?, if_neg (by simp), ← Option.isSome_iff_exists]
  exact List.lookup_isSome_iff.mpr ⟨_, hm, by simp⟩

end Tree

/-! ## Following a path -/

namespace Disk

theorem follow_append (t : Tree) (l : Location) (ps qs : List String) :
    follow t l (ps ++ qs) = (follow t l ps).bind fun m => follow t m qs := by
  induction ps generalizing l with
  | nil => rfl
  | cons p ps ih =>
    simp only [List.cons_append, follow]
    split
    · rfl
    · rfl
    · split
      · exact ih _
      · split
        · rfl
        · exact ih _

/-- More directories lead a path the same way. -/
theorem follow_mono {t u : Tree}
    (h : ∀ l, t.find? l = some .directory → u.find? l = some .directory)
    {ps : List String} {l m : Location} (hf : follow t l ps = .ok m) : follow u l ps = .ok m := by
  induction ps generalizing l with
  | nil => exact hf
  | cons p ps ih =>
    rw [follow] at hf ⊢
    cases ht : t.find? l with
    | none => simp [ht] at hf
    | some e =>
      cases e with
      | file b => simp [ht] at hf
      | directory =>
        rw [h l ht]
        simp only [ht] at hf ⊢
        by_cases hp : p = ".."
        · simp only [hp, if_true] at hf ⊢
          exact ih hf
        · by_cases hn : maxName < p.utf8ByteSize
          · simp [hp, hn] at hf
          · simp only [hp, hn, if_false] at hf ⊢
            exact ih hf

/-- A path passes through directories only, so all that is above its end are directories. -/
theorem find?_above_of_follow {t : Tree} {ps : List String} {l m : Location}
    (hl : ∀ k, k <+: l → k ≠ l → t.find? k = some .directory) (h : follow t l ps = .ok m) :
    ∀ k, k <+: m → k ≠ m → t.find? k = some .directory := by
  induction ps generalizing l with
  | nil =>
    obtain rfl := Except.ok.inj h
    exact hl
  | cons p ps ih =>
    rw [follow] at h
    cases ht : t.find? l with
    | none => simp [ht] at h
    | some e =>
      cases e with
      | file b => simp [ht] at h
      | directory =>
        simp only [ht] at h
        split at h
        · refine ih (fun k hk hne => ?_) h
          have hprefix := hk.trans (List.dropLast_prefix l)
          by_cases he : k = l
          · exact he ▸ ht
          · exact hl k hprefix he
        · split at h
          · contradiction
          · refine ih (fun k hk hne => ?_) h
            rcases List.prefix_concat_iff.mp hk with he | hprefix
            · exact absurd he hne
            · by_cases he : k = l
              · exact he ▸ ht
              · exact hl k hprefix he

theorem entry_eq_ok_iff {d : Disk} {p : Path} {l : Location} {e : Entry} :
    d.entry p = .ok (l, e) ↔ d.locate p = .ok l ∧ d.tree.find? l = some e := by
  unfold entry
  cases hl : d.locate p with
  | error c => simp [bind, Except.bind]
  | ok m =>
    simp only [bind, Except.bind, Except.ok.injEq]
    cases hf : d.tree.find? m with
    | none =>
      simp only [reduceCtorEq, false_iff]
      rintro ⟨rfl, h⟩
      simp [hf] at h
    | some x =>
      simp only [Except.ok.injEq, Prod.mk.injEq]
      constructor
      · rintro ⟨rfl, rfl⟩
        exact ⟨rfl, hf⟩
      · rintro ⟨rfl, h⟩
        exact ⟨rfl, Option.some.inj (hf.symm.trans h)⟩

/-- A disk with more directories leads a path the same way. -/
theorem locate_mono {d e : Disk} (hc : e.current = d.current)
    (h : ∀ l, d.tree.find? l = some .directory → e.tree.find? l = some .directory)
    {p : Path} {l : Location} (hl : d.locate p = .ok l) : e.locate p = .ok l := by
  have hs : e.start p = d.start p := by rw [start, start, hc]
  by_cases hp : maxPath < p.toString.utf8ByteSize
  · simp [locate, hp] at hl
  · simp only [locate, hp, if_false] at hl ⊢
    rw [hs]
    exact follow_mono h hl

/-- The directory that a path starts from is there, with all those above it. -/
def Grounded (d : Disk) (p : Path) : Prop :=
  ∀ k, k <+: d.start p → d.tree.find? k = some .directory

theorem grounded_of_anchor (d : Disk) {p : Path} (h : p.anchor ≠ .here) : d.Grounded p := by
  intro k hk
  rw [start, if_neg h] at hk
  rw [List.prefix_nil.mp hk, Tree.find?_nil]

/-- What a path leads to is in a directory. -/
theorem Grounded.find?_dropLast {d : Disk} {p : Path} {l : Location} {e : Entry}
    (hg : d.Grounded p) (h : d.entry p = .ok (l, e)) :
    d.tree.find? l.dropLast = some .directory := by
  by_cases hl : l = []
  · subst hl
    exact Tree.find?_nil _
  · have hlocate := (entry_eq_ok_iff.mp h).1
    unfold locate at hlocate
    split at hlocate
    · contradiction
    · refine find?_above_of_follow (fun k hk _ => hg k hk) hlocate _ (List.dropLast_prefix l) ?_
      intro he
      have := congrArg List.length he
      have := List.length_pos_iff.mpr hl
      simp only [List.length_dropLast] at *
      omega

/-- What an absolute path leads to is in a directory. -/
theorem find?_dropLast_of_entry {d : Disk} {p : Path} {l : Location} {e : Entry}
    (ha : p.anchor ≠ .here) (h : d.entry p = .ok (l, e)) :
    d.tree.find? l.dropLast = some .directory :=
  (grounded_of_anchor d ha).find?_dropLast h

/-- An operation that is allowed is on a path without NUL characters. -/
theorem hasNul_of_allow {d : Disk} {op : Operation} {p : Path} (h : d.allow op p = .ok ()) :
    p.hasNul = false := by
  unfold allow at h
  split at h
  · contradiction
  · split at h
    · contradiction
    · exact Bool.eq_false_iff.mpr (by assumption)

theorem hasNul_of_allow_eq_nulInPath {d : Disk} {op : Operation} {p : Path}
    (h : d.allow op p = .error .nulInPath) : p.hasNul = true := by
  unfold allow at h
  split at h
  · simp at h
  · split at h
    · assumption
    · contradiction

theorem allow_congr {d e : Disk} (h : e.faults = d.faults) (op : Operation) (p : Path) :
    e.allow op p = d.allow op p := by
  rw [allow, allow, h]

/-! ## Entries of a directory -/

/-- The system takes the path of an entry of `p`. -/
def Fits (p : Path) (name : String) : Prop :=
  (p.child name).toString.utf8ByteSize ≤ maxPath ∧ name.utf8ByteSize ≤ maxName

instance (p : Path) (name : String) : Decidable (Fits p name) :=
  inferInstanceAs (Decidable (_ ∧ _))

/-- Where an entry of a directory is does not depend on what else is on the disk. -/
theorem locate_child_eq {d : Disk} {p : Path} {l : Location} (h : d.entry p = .ok (l, .directory))
    (name : String) :
    d.locate (p.child name) =
      if maxPath < (p.child name).toString.utf8ByteSize then .error .nameTooLong
      else if name = ".." then .ok l.dropLast
      else if maxName < name.utf8ByteSize then .error .nameTooLong
      else .ok (l ++ [name]) := by
  obtain ⟨hl, hd⟩ := entry_eq_ok_iff.mp h
  have hf : follow d.tree (d.start p) p.parts = .ok l := by
    unfold locate at hl
    split at hl
    · contradiction
    · exact hl
  have hchild : follow d.tree (d.start (p.child name)) (p.child name).parts =
      follow d.tree l [name] := by
    change follow d.tree (d.start p) (p.parts ++ [name]) = _
    rw [follow_append, hf]
    rfl
  rw [locate, hchild]
  simp only [follow, hd]

theorem locate_child {d : Disk} {p : Path} {l : Location} (h : d.entry p = .ok (l, .directory))
    {name : String} (hn : name ≠ "..") :
    d.locate (p.child name) = if Fits p name then .ok (l ++ [name]) else .error .nameTooLong := by
  rw [locate_child_eq h, if_neg hn]
  by_cases hp : maxPath < (p.child name).toString.utf8ByteSize
  · rw [if_pos hp, if_neg fun hfit => Nat.not_le.mpr hp hfit.1]
  · by_cases hq : maxName < name.utf8ByteSize
    · rw [if_neg hp, if_pos hq, if_neg fun hfit => Nat.not_le.mpr hq hfit.2]
    · rw [if_neg hp, if_neg hq, if_pos ⟨Nat.not_lt.mp hp, Nat.not_lt.mp hq⟩]

/-- An entry is inside its directory, or it is what the double dots lead to. -/
theorem locate_child_cases {d : Disk} {p : Path} {l m : Location} {name : String}
    (h : d.entry p = .ok (l, .directory)) (hm : d.locate (p.child name) = .ok m) :
    m = l ++ [name] ∨ name = ".." ∧ m = l.dropLast := by
  rw [locate_child_eq h] at hm
  split at hm
  · contradiction
  · split at hm
    · exact .inr ⟨by assumption, (Except.ok.inj hm).symm⟩
    · split at hm
      · contradiction
      · exact .inl (Except.ok.inj hm).symm

theorem append_singleton_ne_dropLast (l : Location) (name : String) : l ++ [name] ≠ l.dropLast := by
  intro h
  have := congrArg List.length h
  simp only [List.length_append, List.length_cons, List.length_dropLast] at this
  omega

/-- Entries with different names are at different places. -/
theorem locate_child_inj {d : Disk} {p : Path} {l k : Location} {m n : String}
    (h : d.entry p = .ok (l, .directory)) (hm : d.locate (p.child m) = .ok k)
    (hn : d.locate (p.child n) = .ok k) : m = n := by
  rcases locate_child_cases h hm with rfl | ⟨rfl, rfl⟩
  · rcases locate_child_cases h hn with he | ⟨-, he⟩
    · exact (List.cons.inj (List.append_cancel_left he)).1
    · exact absurd he (append_singleton_ne_dropLast l m)
  · rcases locate_child_cases h hn with he | ⟨rfl, -⟩
    · exact absurd he.symm (append_singleton_ne_dropLast l n)
    · rfl

theorem locate_child_congr {d e : Disk} {p : Path} {l : Location}
    (h : d.entry p = .ok (l, .directory)) (k : e.entry p = .ok (l, .directory)) (name : String) :
    e.locate (p.child name) = d.locate (p.child name) :=
  (locate_child_eq k name).trans (locate_child_eq h name).symm

/-- The only thing that can be wrong with the path of an entry is its length. -/
theorem locate_child_eq_error {d : Disk} {p : Path} {l : Location} {name : String} {c : Cause}
    (h : d.entry p = .ok (l, .directory)) (hc : d.locate (p.child name) = .error c) :
    ¬ Fits p name := by
  intro hfit
  rw [locate_child_eq h, if_neg (Nat.not_lt.mpr hfit.1), if_neg (Nat.not_lt.mpr hfit.2)] at hc
  split at hc <;> contradiction

end Disk

/-! ## Disks with the same directories -/

/-- The two disks differ at most in their files. -/
structure SameDirectories (d e : Disk) : Prop where
  current : e.current = d.current
  faults : e.faults = d.faults
  directory : ∀ l, e.tree.find? l = some .directory ↔ d.tree.find? l = some .directory

namespace SameDirectories

variable {d e f : Disk} {l : Location}

theorem refl (d : Disk) : SameDirectories d d := ⟨rfl, rfl, fun _ => Iff.rfl⟩

theorem trans (h : SameDirectories d e) (k : SameDirectories e f) : SameDirectories d f :=
  ⟨k.current.trans h.current, k.faults.trans h.faults,
    fun l => (k.directory l).trans (h.directory l)⟩

theorem insert (hl : d.tree.find? l ≠ some .directory) (b : ByteArray) :
    SameDirectories d (d.setTree (d.tree.insert l (.file b))) := by
  refine ⟨rfl, rfl, fun m => ?_⟩
  rw [Disk.setTree, Tree.find?_insert_of_ne_nil _ _ (Tree.ne_nil_of_find?_ne hl)]
  by_cases hm : m = l
  · subst hm
    simp [hl]
  · rw [if_neg hm]

theorem erase (hl : d.tree.find? l ≠ some .directory) :
    SameDirectories d (d.setTree (d.tree.erase l)) := by
  refine ⟨rfl, rfl, fun m => ?_⟩
  rw [Disk.setTree, Tree.find?_erase_of_ne_nil _ (Tree.ne_nil_of_find?_ne hl)]
  by_cases hm : m = l
  · subst hm
    simp [hl]
  · rw [if_neg hm]

theorem locate (h : SameDirectories d e) {p : Path} (hl : d.locate p = .ok l) :
    e.locate p = .ok l :=
  Disk.locate_mono h.current (fun m => (h.directory m).mpr) hl

theorem entry (h : SameDirectories d e) {p : Path} (hp : d.entry p = .ok (l, .directory)) :
    e.entry p = .ok (l, .directory) := by
  obtain ⟨hl, hd⟩ := Disk.entry_eq_ok_iff.mp hp
  exact Disk.entry_eq_ok_iff.mpr ⟨h.locate hl, (h.directory l).mpr hd⟩

end SameDirectories

end TypedContent.Files
