import TypedContent.Proofs.FileNames
import TypedContent.Proofs.Files.Children

/-!
# Trees and the order of their entries

A well-formed tree holds at most one entry at a place, under names that entries can have.  What is
listed in such a tree is what is found there (`mem_children_iff`, `mem_directoriesBelow_iff`), and
the order in which its entries are kept changes nothing but the order of lists (`children_perm`,
`directoriesBelow_perm`, `Disk.SameEntries.probe`).
-/

namespace TypedContent.Files

/-- What is sorted by its texts is in their order. -/
theorem pairwise_mergeSort_text {α : Type} (text : α → String) (xs : List α) :
    (xs.mergeSort fun a b => decide (text a ≤ text b)).Pairwise fun a b => text a ≤ text b := by
  have htrans : ∀ a b c : α, decide (text a ≤ text b) → decide (text b ≤ text c) →
      decide (text a ≤ text c) := by
    intro a b c hab hbc
    exact decide_eq_true (String.le_trans (of_decide_eq_true hab) (of_decide_eq_true hbc))
  have htotal : ∀ a b : α, (decide (text a ≤ text b) || decide (text b ≤ text a)) = true := by
    intro a b
    simpa using String.le_total (text a) (text b)
  exact (List.pairwise_mergeSort htrans htotal xs).imp of_decide_eq_true

namespace Tree

variable {t u : Tree} {l : Location} {name : String} {names : List String} {e : Entry}

/-- A tree as a file system can hold it. -/
structure WellFormed (t : Tree) : Prop where
  nodup : (t.entries.map (·.1)).Nodup
  isName : ∀ e ∈ t.entries, ∀ name ∈ e.1, Path.IsName name

instance (s : String) : Decidable (Path.IsName s) :=
  decidable_of_iff (s ≠ "" ∧ s ≠ "." ∧ s ≠ ".." ∧ '/' ∉ s.toList ∧ '\x00' ∉ s.toList)
    ⟨fun ⟨he, hd, hdd, hs, hn⟩ => ⟨he, hd, hdd, hs, hn⟩,
      fun h => ⟨h.ne_empty, h.ne_dot, h.ne_dots, h.no_slash, h.no_nul⟩⟩

instance (t : Tree) : Decidable t.WellFormed :=
  decidable_of_iff
    ((t.entries.map (·.1)).Nodup ∧ ∀ e ∈ t.entries, ∀ name ∈ e.1, Path.IsName name)
    ⟨fun ⟨hd, hn⟩ => ⟨hd, hn⟩, fun h => ⟨h.nodup, h.isName⟩⟩

theorem WellFormed.perm (ht : t.WellFormed) (h : u.entries.Perm t.entries) : u.WellFormed :=
  ⟨(h.map (·.1)).nodup_iff.mpr ht.nodup, fun e he => ht.isName e (h.mem_iff.mp he)⟩

theorem mem_entries_iff (ht : t.WellFormed) (hl : l ≠ []) :
    (l, e) ∈ t.entries ↔ t.find? l = some e := by
  constructor
  · intro hmem
    obtain ⟨before, after, hentries⟩ := List.append_of_mem hmem
    have hnodup := ht.nodup
    rw [hentries, List.map_append, List.nodup_append] at hnodup
    rw [find?, if_neg hl, List.lookup_eq_some_iff]
    refine ⟨before, after, hentries, fun x hx => ?_⟩
    have hne := hnodup.2.2 x.1 (List.mem_map_of_mem hx) l (by simp)
    simpa using hne.symm
  · exact mem_of_find?_eq_some hl

theorem isName_of_find? (ht : t.WellFormed) (h : t.find? l = some e) : ∀ n ∈ l, Path.IsName n := by
  by_cases hl : l = []
  · simp [hl]
  · exact ht.isName _ ((mem_entries_iff ht hl).mpr h)

/-! ## What is listed -/

theorem mem_children_iff_mem_entries :
    (name, e) ∈ t.children l ↔ (l ++ [name], e) ∈ t.entries := by
  constructor
  · intro h
    obtain ⟨⟨m, y⟩, hm, he⟩ := List.mem_filterMap.mp h
    cases hlast : m.getLast? with
    | none => simp [hlast] at he
    | some last =>
      obtain ⟨front, rfl⟩ := List.getLast?_eq_some_iff.mp hlast
      by_cases hfront : front = l
      · simp_all
      · simp [hfront] at he
  · exact fun h => List.mem_filterMap.mpr ⟨_, h, by simp⟩

theorem mem_children_iff (ht : t.WellFormed) :
    (name, e) ∈ t.children l ↔ t.find? (l ++ [name]) = some e := by
  rw [mem_children_iff_mem_entries, mem_entries_iff ht (by simp)]

/-- A name is listed once. -/
theorem pairwise_children (ht : t.WellFormed) :
    (t.children l).Pairwise fun x y => x.1 ≠ y.1 := by
  have hentries : t.entries.Pairwise fun x y => x.1 ≠ y.1 := List.pairwise_map.mp ht.nodup
  -- What is made of one entry is what is listed in a tree that holds no other.
  have hplace {z : Location × Entry} {c : String × Entry} (hc : c ∈ children ⟨[z]⟩ l) :
      z.1 = l ++ [c.1] := by
    rw [← List.mem_singleton.mp (mem_children_iff_mem_entries.mp hc)]
  refine hentries.filterMap _ fun x y hne a ha b hb hab => hne ?_
  rw [hplace (List.mem_filterMap.mpr ⟨x, List.mem_singleton_self x, ha⟩),
    hplace (List.mem_filterMap.mpr ⟨y, List.mem_singleton_self y, hb⟩), hab]

theorem mem_directoriesBelow_iff (ht : t.WellFormed) :
    names ∈ t.directoriesBelow l ↔ names ≠ [] ∧ t.find? (l ++ names) = some .directory := by
  constructor
  · intro h
    obtain ⟨⟨m, y⟩, hm, he⟩ := List.mem_filterMap.mp h
    simp only [Option.ite_none_right_eq_some, Option.some.injEq] at he
    obtain ⟨⟨rfl, hprefix, hne⟩, rfl⟩ := he
    obtain ⟨more, rfl⟩ := List.isPrefixOf_iff_prefix.mp hprefix
    have hmore : more ≠ [] := fun hnil => hne (by simp [hnil])
    rw [List.drop_left]
    exact ⟨hmore, (mem_entries_iff ht (by simp [hmore])).mp hm⟩
  · rintro ⟨hne, h⟩
    refine List.mem_filterMap.mpr ⟨_, (mem_entries_iff ht (by simp [hne])).mpr h, ?_⟩
    simp [hne]

/-! ## The order of the entries -/

theorem find?_perm (ht : t.WellFormed) (h : u.entries.Perm t.entries) (l : Location) :
    u.find? l = t.find? l := by
  by_cases hl : l = []
  · rw [hl, find?_nil, find?_nil]
  · refine Option.ext fun e => ?_
    rw [← mem_entries_iff ht hl, ← mem_entries_iff (ht.perm h) hl, h.mem_iff]

theorem children_perm (h : u.entries.Perm t.entries) (l : Location) :
    (u.children l).Perm (t.children l) := h.filterMap _

theorem directoriesBelow_perm (h : u.entries.Perm t.entries) (l : Location) :
    (u.directoriesBelow l).Perm (t.directoriesBelow l) := h.filterMap _

end Tree

namespace Disk

/-- The disks differ at most in the order in which their trees keep the entries. -/
structure SameEntries (d e : Disk) : Prop where
  current : e.current = d.current
  faults : e.faults = d.faults
  entries : e.tree.entries.Perm d.tree.entries

theorem SameEntries.refl (d : Disk) : SameEntries d d := ⟨rfl, rfl, .refl _⟩

theorem follow_congr {t u : Tree} (h : ∀ l, u.find? l = t.find? l) (l : Location)
    (parts : List String) : follow u l parts = follow t l parts := by
  induction parts generalizing l with
  | nil => rfl
  | cons part parts ih => simp only [follow, h, ih]

namespace SameEntries

variable {d e : Disk}

theorem locate (h : SameEntries d e) (hd : d.tree.WellFormed) (p : Path) :
    e.locate p = d.locate p := by
  unfold Disk.locate start
  rw [h.current, follow_congr (Tree.find?_perm hd h.entries)]

theorem entry (h : SameEntries d e) (hd : d.tree.WellFormed) (p : Path) :
    e.entry p = d.entry p :=
  entry_congr (h.locate hd p) fun m _ => Tree.find?_perm hd h.entries m

theorem probe (h : SameEntries d e) (hd : d.tree.WellFormed) (p : Path) :
    e.probe p = d.probe p := by
  rw [Disk.probe, Disk.probe, h.entry hd]

theorem isFile (h : SameEntries d e) (hd : d.tree.WellFormed) (p : Path) :
    e.isFile p = d.isFile p := by
  rw [Disk.isFile, Disk.isFile, h.probe hd]

theorem isDirectory (h : SameEntries d e) (hd : d.tree.WellFormed) (p : Path) :
    e.isDirectory p = d.isDirectory p := by
  rw [Disk.isDirectory, Disk.isDirectory, h.probe hd]

end SameEntries

end Disk

end TypedContent.Files
