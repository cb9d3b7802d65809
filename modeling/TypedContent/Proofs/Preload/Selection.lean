import Mathlib.Data.List.Induction
import TypedContent.Preload.Glob
import TypedContent.Proofs.Fallible
import TypedContent.Proofs.Files.Listing
import TypedContent.Proofs.Files.Making

/-!
# What a glob pattern selects

`Glob.Leads` says which names of a file the parts of a pattern lead to, without a search.  Proved
here, part by part:

* `leads_of_mem_selectFrom`, `mem_selectFrom_of_leads`: of the files below a directory the search
  selects exactly those;
* `nodup_selectFrom`: it selects nothing twice;
* `sameElements_selectFrom`: the order in which directories are listed does not matter.
-/

namespace TypedContent.Preload

open Files Fallible

/-! ## Patterns and names -/

/-- Whether a part stands for a name.  The part for any depth stands for none. -/
def GlobPart.Admits (name : String) : GlobPart → Prop
  | .named n => name = n
  | .wildcard pieces => Piece.Matches pieces name.toList
  | .anyDepth => False

namespace Glob

/-- The parts lead to a file with these names: one part for each, and the part for any depth for any
number of directories. -/
inductive Leads : List GlobPart → List String → Prop
  | last {p : GlobPart} {n : String} : p.Admits n → Leads [p] [n]
  | step {p : GlobPart} {ps : List GlobPart} {n : String} {names : List String} :
      p.Admits n → Leads ps names → Leads (p :: ps) (n :: names)
  | depth {ps : List GlobPart} {names : List String} (front : List String) :
      Leads ps names → Leads (.anyDepth :: ps) (front ++ names)

/-- A pattern with a slash at the end matches no file. -/
def MatchesFile (g : Glob) (names : List String) : Prop :=
  g.onlyDirectories = false ∧ Leads g.parts names

theorem Leads.ne_nil {parts : List GlobPart} {names : List String} (h : Leads parts names) :
    parts ≠ [] ∧ names ≠ [] := by
  induction h with
  | last _ => simp
  | step _ _ _ => simp
  | depth front _ ih => simp [ih.2]

/-- A name that is spelled out in the pattern is one of the names it leads to. -/
theorem Leads.mem_of_named {parts : List GlobPart} {names : List String} {n : String}
    (h : Leads parts names) (hn : GlobPart.named n ∈ parts) : n ∈ names := by
  induction h with
  | last ha =>
    obtain rfl := List.mem_singleton.mp hn
    exact List.mem_singleton.mpr ha.symm
  | step ha _ ih =>
    rcases List.mem_cons.mp hn with rfl | hn
    · exact List.mem_cons.mpr (.inl ha.symm)
    · exact List.mem_cons_of_mem _ (ih hn)
  | depth front _ ih =>
    rcases List.mem_cons.mp hn with hn | hn
    · contradiction
    · exact List.mem_append_right _ (ih hn)

/-! ## Paths below a directory -/

variable {d : Disk} {base p : Path} {names more : List String}

theorem below_append (base : Path) (names more : List String) :
    below base (names ++ more) = below (below base names) more := by
  simp [below]

theorem below_concat (base : Path) (names : List String) (n : String) :
    below base (names ++ [n]) = (below base names).child n := by
  simp [below, Path.child]

theorem below_nil (base : Path) : below base [] = base := by
  simp [below]

theorem hasNul_below (base : Path) (names : List String) :
    (below base names).hasNul = (base.hasNul || names.any fun s => s.toList.contains '\x00') := by
  simp [below, Path.hasNul]

theorem hasNul_of_below (h : (below base (names ++ more)).hasNul = false) :
    (below base names).hasNul = false := by
  rw [below_append, hasNul_below, Bool.or_eq_false_iff] at h
  exact h.1

theorem follow_of_no_dots {t : Tree} {l m : Location} (hn : ".." ∉ names)
    (h : Disk.follow t l names = .ok m) : m = l ++ names := by
  induction names generalizing l with
  | nil =>
    obtain rfl := Except.ok.inj h
    simp
  | cons n names ih =>
    obtain ⟨hn, hnames⟩ := List.ne_and_not_mem_of_not_mem_cons hn
    rw [Disk.follow] at h
    split at h
    · contradiction
    · contradiction
    · rw [if_neg hn.symm] at h
      split at h
      · contradiction
      · simp [ih hnames h]

/-- What is below a directory, on a way that does not lead up again. -/
theorem entry_below {l m : Location} {e : Entry} (hp : d.entry p = .ok (l, .directory))
    (hn : ".." ∉ names) (h : d.entry (below p names) = .ok (m, e)) :
    m = l ++ names ∧ d.tree.find? (l ++ names) = some e := by
  obtain ⟨hlp, -⟩ := Disk.entry_eq_ok_iff.mp hp
  obtain ⟨hlm, hm⟩ := Disk.entry_eq_ok_iff.mp h
  unfold Disk.locate at hlp hlm
  split at hlp
  · contradiction
  · split at hlm
    · contradiction
    · change Disk.follow d.tree (d.start p) (p.parts ++ names) = .ok m at hlm
      rw [Disk.follow_append, hlp] at hlm
      obtain rfl := follow_of_no_dots hn hlm
      exact ⟨rfl, hm⟩

/-- Above what is there are directories. -/
theorem hasDirectory_of_locate_below {m : Location} (hmore : more ≠ [])
    (h : d.locate (below p more) = .ok m) : d.HasDirectory p := by
  induction more using List.reverseRecOn generalizing m with
  | nil => exact absurd rfl hmore
  | append_singleton more n ih =>
    rw [below_concat] at h
    have hdir := Disk.hasDirectory_of_locate_child h
    by_cases hnil : more = []
    · rwa [hnil, below_nil] at hdir
    · obtain ⟨k, hk⟩ := hdir
      exact ih hnil (Disk.entry_eq_ok_iff.mp hk).1

theorem hasDirectory_of_isFile_below (hmore : more ≠ [])
    (h : d.isFile (below p more) = .ok true) : d.HasDirectory p := by
  obtain ⟨-, m, b, he⟩ := Disk.isFile_eq_ok_true_iff.mp h
  exact hasDirectory_of_locate_below hmore (Disk.entry_eq_ok_iff.mp he).1

theorem isFile_ne_of_hasDirectory (h : d.HasDirectory p) : d.isFile p ≠ .ok true := by
  intro hfile
  obtain ⟨l, hl⟩ := h
  obtain ⟨-, m, b, hm⟩ := Disk.isFile_eq_ok_true_iff.mp hfile
  rw [hl] at hm
  simp at hm

/-- A directory of the tree is no file, whether or not its path is too long. -/
theorem isFile_below_ne {l : Location} (hp : d.entry p = .ok (l, .directory)) (hn : ".." ∉ names)
    (h : d.tree.find? (l ++ names) = some .directory) : d.isFile (below p names) ≠ .ok true := by
  intro hfile
  obtain ⟨-, m, b, hm⟩ := Disk.isFile_eq_ok_true_iff.mp hfile
  obtain ⟨-, hb⟩ := entry_below hp hn hm
  rw [h] at hb
  simp at hb

theorem probe_eq_some_iff {e : Entry} :
    d.probe p = .ok (some e) ↔ p.hasNul = false ∧ ∃ m, d.entry p = .ok (m, e) := by
  unfold Disk.probe
  cases p.hasNul with
  | true => simp
  | false =>
    cases he : d.entry p with
    | error c => cases c <;> simp
    | ok x =>
      obtain ⟨m, y⟩ := x
      simp

/-! ## Entries of a directory -/

theorem childrenOf_eq_ok {children : List (String × Entry)}
    (h : childrenOf d base names = .ok children) {x : String × Entry} (hx : x ∈ children) :
    ∃ l, d.entry (below base names) = .ok (l, .directory) ∧ children = d.tree.children l := by
  unfold childrenOf at h
  split at h
  · rename_i l hentry
    exact ⟨l, hentry, (Except.ok.inj h).symm⟩
  · contradiction
  · obtain rfl := Except.ok.inj h
    cases hx

theorem childrenOf_of_entry {l : Location} (h : d.entry (below base names) = .ok (l, .directory)) :
    childrenOf d base names = .ok (d.tree.children l) := by
  rw [childrenOf, h]

/-! ## One part of a search -/

variable {only : Bool} {parts : List GlobPart} {selected : List (List String)} {r : List String}

/-- Whether a search goes on at an entry, or ends there. -/
def passes (only : Bool) (rest : List GlobPart) (e : Entry) : Bool :=
  decide (e = .directory) || (rest.isEmpty && !only)

theorem selectFrom_named (n : String) (rest : List GlobPart) (names : List String) :
    selectFrom d base only (.named n :: rest) names =
      (do
        let found ← d.probe (below base (names ++ [n]))
        if found.any (passes only rest) then selectFrom d base only rest (names ++ [n])
        else pure []) := by
  rw [selectFrom]
  cases d.probe (below base (names ++ [n])) with
  | error e => rfl
  | ok found =>
    cases found with
    | none => rfl
    | some e => cases e <;> simp [bind, Except.bind, passes]

theorem selectFrom_wildcard (pieces : List Piece) (rest : List GlobPart) (names : List String) :
    selectFrom d base only (.wildcard pieces :: rest) names =
      (do
        let children ← childrenOf d base names
        gather (fun x => selectFrom d base only rest (names ++ [x.1]))
          (children.filter fun x => passes only rest x.2 && Piece.matchAll pieces x.1.toList)) := by
  rw [selectFrom]
  cases childrenOf d base names with
  | error e => rfl
  | ok children =>
    simp only [bind, Except.bind, ← mapM_flatten]
    rfl

/-- What is found from a starting point, if it can be listed. -/
def selectAt (d : Disk) (base : Path) (only : Bool) (rest : List GlobPart) (start : List String) :
    Except DiskError (List (List String)) := do
  let found ← selectFrom d base only rest start
  let _ ← childrenOf d base start
  pure found

theorem selectFrom_anyDepth (rest : List GlobPart) (names : List String) :
    selectFrom d base only (.anyDepth :: rest) names =
      (do
        let found ← gather (selectAt d base only rest) (startingPoints d base names)
        pure (distinct found)) := by
  rw [selectFrom, ← mapM_flatten]
  show (do
    let selected ← (startingPoints d base names).mapM (selectAt d base only rest)
    pure (distinct selected.flatten)) = _
  cases (startingPoints d base names).mapM (selectAt d base only rest) <;> rfl

theorem selectAt_eq_ok {rest : List GlobPart} {start : List String}
    (h : selectAt d base only rest start = .ok selected) :
    selectFrom d base only rest start = .ok selected := by
  obtain ⟨found, hs, h⟩ := exists_of_bind_eq_ok h
  obtain ⟨children, -, h⟩ := exists_of_bind_eq_ok h
  rw [hs, Except.ok.inj h]

/-! ## Which files are selected -/

theorem mem_selectFrom_named {n : String} {rest : List GlobPart}
    (h : selectFrom d base only (.named n :: rest) names = .ok selected) :
    r ∈ selected ↔ ∃ e found, d.probe (below base (names ++ [n])) = .ok (some e) ∧
      passes only rest e = true ∧ selectFrom d base only rest (names ++ [n]) = .ok found ∧
      r ∈ found := by
  rw [selectFrom_named] at h
  obtain ⟨there, hp, h⟩ := exists_of_bind_eq_ok h
  cases there with
  | none =>
    obtain rfl := Except.ok.inj h
    simp [hp]
  | some e =>
    rw [Option.any_some] at h
    by_cases he : passes only rest e = true
    · rw [if_pos he] at h
      simp [hp, h, he]
    · rw [if_neg he] at h
      obtain rfl := Except.ok.inj h
      simp [hp, he]

theorem mem_selectFrom_wildcard {pieces : List Piece} {rest : List GlobPart}
    (h : selectFrom d base only (.wildcard pieces :: rest) names = .ok selected) :
    r ∈ selected ↔ ∃ children x found, childrenOf d base names = .ok children ∧ x ∈ children ∧
      passes only rest x.2 = true ∧ Piece.Matches pieces x.1.toList ∧
      selectFrom d base only rest (names ++ [x.1]) = .ok found ∧ r ∈ found := by
  rw [selectFrom_wildcard] at h
  obtain ⟨children, hc, h⟩ := exists_of_bind_eq_ok h
  rw [mem_gather h, hc]
  simp only [List.mem_filter, Bool.and_eq_true, Piece.matchAll_iff, Except.ok.injEq,
    exists_and_left, exists_eq_left', and_assoc]

theorem mem_selectFrom_anyDepth {rest : List GlobPart}
    (h : selectFrom d base only (.anyDepth :: rest) names = .ok selected) :
    r ∈ selected ↔ ∃ start ∈ startingPoints d base names, ∃ found,
      selectAt d base only rest start = .ok found ∧ r ∈ found := by
  rw [selectFrom_anyDepth] at h
  obtain ⟨found, hg, h⟩ := exists_of_bind_eq_ok h
  rw [← Except.ok.inj h, mem_distinct, mem_gather hg]

theorem passes_eq_true_iff {e : Entry} {rest : List GlobPart} :
    passes only rest e = true ↔ e = .directory ∨ rest = [] ∧ only = false := by
  simp [passes, List.isEmpty_iff]

/-- A starting point is the directory itself or a directory below it. -/
theorem mem_startingPoints_iff (ht : d.tree.WellFormed) {start : List String} :
    start ∈ startingPoints d base names ↔ start = names ∨
      ∃ l front, d.entry (below base names) = .ok (l, .directory) ∧ start = names ++ front ∧
        front ≠ [] ∧ d.tree.find? (l ++ front) = some .directory := by
  rw [startingPoints, List.mem_cons]
  refine or_congr_right ?_
  split
  · rename_i l hl
    rw [hl, List.mem_map]
    constructor
    · rintro ⟨front, hfront, rfl⟩
      obtain ⟨hne, hfind⟩ := (Tree.mem_directoriesBelow_iff ht).mp hfront
      exact ⟨l, front, rfl, rfl, hne, hfind⟩
    · rintro ⟨l', front, hl', rfl, hne, hfind⟩
      obtain ⟨rfl, -⟩ := Prod.mk.inj (Except.ok.inj hl')
      exact ⟨front, (Tree.mem_directoriesBelow_iff ht).mpr ⟨hne, hfind⟩, rfl⟩
  · rename_i hno
    simp only [List.not_mem_nil, false_iff]
    rintro ⟨l, front, hl, -⟩
    exact hno l hl

theorem dots_not_mem_of_find? {t : Tree} (ht : t.WellFormed) {l : Location} {e : Entry}
    (h : t.find? (l ++ more) = some e) : ".." ∉ more :=
  fun hdots => (Tree.isName_of_find? ht h _ (List.mem_append_right l hdots)).ne_dots rfl

theorem prefix_of_mem_selectFrom (ht : d.tree.WellFormed)
    (h : selectFrom d base only parts names = .ok selected) (hr : r ∈ selected) : names <+: r := by
  induction parts generalizing names selected with
  | nil =>
    obtain rfl := Except.ok.inj h
    obtain rfl := List.mem_singleton.mp hr
    exact List.prefix_rfl
  | cons part rest ih =>
    cases part with
    | named n =>
      obtain ⟨e, found, -, -, hfound, hr⟩ := (mem_selectFrom_named h).mp hr
      exact (List.prefix_append names [n]).trans (ih hfound hr)
    | wildcard pieces =>
      obtain ⟨children, x, found, -, -, -, -, hfound, hr⟩ := (mem_selectFrom_wildcard h).mp hr
      exact (List.prefix_append names [x.1]).trans (ih hfound hr)
    | anyDepth =>
      obtain ⟨start, hstart, found, hfound, hr⟩ := (mem_selectFrom_anyDepth h).mp hr
      have hrest := ih (selectAt_eq_ok hfound) hr
      rcases (mem_startingPoints_iff ht).mp hstart with rfl | ⟨l, front, -, rfl, -⟩
      · exact hrest
      · exact (List.prefix_append names front).trans hrest

/-- A file that is selected has names that the parts lead to. -/
theorem leads_of_mem_selectFrom (ht : d.tree.WellFormed)
    (h : selectFrom d base only parts names = .ok selected) (hr : r ∈ selected)
    (hnames : d.isFile (below base names) ≠ .ok true) (hfile : d.isFile (below base r) = .ok true) :
    only = false ∧ ∃ more, r = names ++ more ∧ Leads parts more := by
  induction parts generalizing names selected with
  | nil =>
    obtain rfl := Except.ok.inj h
    rw [List.mem_singleton.mp hr] at hfile
    exact absurd hfile hnames
  | cons part rest ih =>
    -- What follows an entry `n` that the part stands for.
    have hgoOn : ∀ {n e found}, part.Admits n → passes only rest e = true →
        (e = .directory → d.isFile (below base (names ++ [n])) ≠ .ok true) →
        selectFrom d base only rest (names ++ [n]) = .ok found → r ∈ found →
        only = false ∧ ∃ more, r = names ++ more ∧ Leads (part :: rest) more := by
      intro n e found hadmits hpasses hdirectory hfound hr
      rcases passes_eq_true_iff.mp hpasses with he | ⟨rfl, honly⟩
      · obtain ⟨honly, more, rfl, hleads⟩ := ih hfound hr (hdirectory he)
        exact ⟨honly, n :: more, by simp, .step hadmits hleads⟩
      · obtain rfl := Except.ok.inj hfound
        exact ⟨honly, [n], List.mem_singleton.mp hr, .last hadmits⟩
    cases part with
    | named n =>
      obtain ⟨e, found, hprobe, hpasses, hfound, hr⟩ := (mem_selectFrom_named h).mp hr
      refine hgoOn (n := n) rfl hpasses (fun he => ?_) hfound hr
      obtain ⟨-, m, hm⟩ := probe_eq_some_iff.mp hprobe
      exact isFile_ne_of_hasDirectory ⟨m, he ▸ hm⟩
    | wildcard pieces =>
      obtain ⟨children, ⟨n, e⟩, found, hchildren, hx, hpasses, hmatches, hfound, hr⟩ :=
        (mem_selectFrom_wildcard h).mp hr
      refine hgoOn (n := n) hmatches hpasses (fun he => ?_) hfound hr
      obtain ⟨l, hl, rfl⟩ := childrenOf_eq_ok hchildren hx
      have hfind := (Tree.mem_children_iff ht).mp hx
      rw [below_append]
      exact isFile_below_ne hl (dots_not_mem_of_find? ht hfind) (he ▸ hfind)
    | anyDepth =>
      obtain ⟨start, hstart, found, hfound, hr⟩ := (mem_selectFrom_anyDepth h).mp hr
      rcases (mem_startingPoints_iff ht).mp hstart with rfl | ⟨l, front, hl, rfl, -, hfind⟩
      · obtain ⟨honly, more, rfl, hleads⟩ := ih (selectAt_eq_ok hfound) hr hnames
        exact ⟨honly, more, rfl, .depth [] hleads⟩
      · have hstart : d.isFile (below base (names ++ front)) ≠ .ok true := by
          rw [below_append]
          exact isFile_below_ne hl (dots_not_mem_of_find? ht hfind) hfind
        obtain ⟨honly, more, rfl, hleads⟩ := ih (selectAt_eq_ok hfound) hr hstart
        exact ⟨honly, front ++ more, by simp, .depth front hleads⟩

theorem step_of_selectFrom_named {n : String} {rest : List GlobPart} {e : Entry}
    (h : selectFrom d base only (.named n :: rest) names = .ok selected)
    (hprobe : d.probe (below base (names ++ [n])) = .ok (some e))
    (hpasses : passes only rest e = true) :
    selectFrom d base only rest (names ++ [n]) = .ok selected := by
  rw [selectFrom_named, hprobe] at h
  simpa [bind, Except.bind, hpasses] using h

theorem step_of_selectFrom_wildcard {pieces : List Piece} {rest : List GlobPart}
    {children : List (String × Entry)} {x : String × Entry}
    (h : selectFrom d base only (.wildcard pieces :: rest) names = .ok selected)
    (hchildren : childrenOf d base names = .ok children) (hx : x ∈ children)
    (hpasses : passes only rest x.2 = true) (hmatches : Piece.Matches pieces x.1.toList) :
    ∃ found, selectFrom d base only rest (names ++ [x.1]) = .ok found := by
  rw [selectFrom_wildcard, hchildren] at h
  refine step_of_gather h (List.mem_filter.mpr ⟨hx, ?_⟩)
  rw [hpasses, (Piece.matchAll_iff _ _).mpr hmatches, Bool.and_true]

theorem step_of_selectFrom_anyDepth {rest : List GlobPart} {start : List String}
    (h : selectFrom d base only (.anyDepth :: rest) names = .ok selected)
    (hstart : start ∈ startingPoints d base names) :
    ∃ found, selectAt d base only rest start = .ok found := by
  rw [selectFrom_anyDepth] at h
  obtain ⟨found, hg, -⟩ := exists_of_bind_eq_ok h
  exact step_of_gather hg hstart

/-- Every file with names that the parts lead to is selected. -/
theorem mem_selectFrom_of_leads (ht : d.tree.WellFormed)
    (h : selectFrom d base false parts names = .ok selected) (hleads : Leads parts more)
    (hdots : ".." ∉ more) (hfile : d.isFile (below base (names ++ more)) = .ok true) :
    names ++ more ∈ selected := by
  induction parts generalizing names more selected with
  | nil => cases hleads
  | cons part rest ih =>
    -- The entry `n` that the part stands for lets the search pass on.
    have hgoOn : ∀ {n e m}, part.Admits n → n ≠ ".." → passes false rest e = true →
        (below base (names ++ [n])).hasNul = false → d.entry (below base (names ++ [n])) = .ok (m, e) →
        (∀ {found}, selectFrom d base false rest (names ++ [n]) = .ok found →
          names ++ more ∈ found) → names ++ more ∈ selected := by
      intro n e m hadmits hn hpasses hnul hentry hfound
      cases part with
      | named n' =>
        obtain rfl : n = n' := hadmits
        exact hfound (step_of_selectFrom_named h (probe_eq_some_iff.mpr ⟨hnul, m, hentry⟩) hpasses)
      | wildcard pieces =>
        have hentry' := hentry
        rw [below_append] at hentry'
        obtain ⟨l, hl⟩ :=
          hasDirectory_of_locate_below (by simp) (Disk.entry_eq_ok_iff.mp hentry').1
        have hfind := (entry_below hl (by simpa using hn.symm) hentry').2
        have hchildren := childrenOf_of_entry hl
        have hx := (Tree.mem_children_iff ht).mpr hfind
        obtain ⟨found, hstep⟩ := step_of_selectFrom_wildcard h hchildren hx hpasses hadmits
        exact (mem_selectFrom_wildcard h).mpr
          ⟨_, (n, e), found, hchildren, hx, hpasses, hadmits, hstep, hfound hstep⟩
      | anyDepth => cases hadmits
    have hnul := (Disk.isFile_eq_ok_true_iff.mp hfile).1
    cases hleads with
    | @last _ n hadmits =>
      obtain ⟨-, m, b, hentry⟩ := Disk.isFile_eq_ok_true_iff.mp hfile
      have hn : n ≠ ".." := fun hn => hdots (List.mem_singleton.mpr hn.symm)
      refine hgoOn hadmits hn (passes_eq_true_iff.mpr (.inr ⟨rfl, rfl⟩)) hnul hentry
        fun hfound => ?_
      obtain rfl := Except.ok.inj hfound
      exact List.mem_singleton_self _
    | @step _ _ n more hadmits hleads =>
      obtain ⟨hn, hmore⟩ := List.ne_and_not_mem_of_not_mem_cons hdots
      have hsplit : names ++ n :: more = names ++ [n] ++ more := List.append_cons ..
      rw [hsplit] at hfile hnul ⊢
      obtain ⟨m, hentry⟩ :=
        hasDirectory_of_isFile_below hleads.ne_nil.2 (below_append base _ more ▸ hfile)
      rw [← hsplit]
      refine hgoOn hadmits hn.symm (passes_eq_true_iff.mpr (.inl rfl)) (hasNul_of_below hnul)
        hentry fun hfound => ?_
      rw [hsplit]
      exact ih hfound hleads hmore hfile
    | @depth _ more front hleads =>
      have hmore : ".." ∉ more := fun hm => hdots (List.mem_append_right _ hm)
      have hfront : ".." ∉ front := fun hm => hdots (List.mem_append_left _ hm)
      rw [← List.append_assoc] at hfile ⊢
      obtain ⟨m, hentry⟩ :=
        hasDirectory_of_isFile_below hleads.ne_nil.2 (below_append base _ more ▸ hfile)
      have hstart : names ++ front ∈ startingPoints d base names := by
        refine (mem_startingPoints_iff ht).mpr ?_
        by_cases hnil : front = []
        · exact .inl (by simp [hnil])
        · rw [below_append] at hentry
          obtain ⟨l, hl⟩ := hasDirectory_of_locate_below hnil (Disk.entry_eq_ok_iff.mp hentry).1
          exact .inr ⟨l, front, hl, rfl, hnil, (entry_below hl hfront hentry).2⟩
      obtain ⟨found, hstep⟩ := step_of_selectFrom_anyDepth h hstart
      exact (mem_selectFrom_anyDepth h).mpr
        ⟨_, hstart, found, hstep, ih (selectAt_eq_ok hstep) hleads hmore hfile⟩

theorem pairwise_of_childrenOf (ht : d.tree.WellFormed) {children : List (String × Entry)}
    (h : childrenOf d base names = .ok children) : children.Pairwise fun x y => x.1 ≠ y.1 := by
  cases children with
  | nil => exact .nil
  | cons x children =>
    obtain ⟨l, -, hl⟩ := childrenOf_eq_ok h List.mem_cons_self
    exact hl ▸ Tree.pairwise_children ht

/-- A search finds nothing twice. -/
theorem nodup_selectFrom (ht : d.tree.WellFormed)
    (h : selectFrom d base only parts names = .ok selected) : selected.Nodup := by
  induction parts generalizing names selected with
  | nil =>
    obtain rfl := Except.ok.inj h
    exact List.nodup_singleton _
  | cons part rest ih =>
    cases part with
    | named n =>
      rw [selectFrom_named] at h
      obtain ⟨there, -, h⟩ := exists_of_bind_eq_ok h
      split at h
      · exact ih h
      · obtain rfl := Except.ok.inj h
        exact List.nodup_nil
    | wildcard pieces =>
      rw [selectFrom_wildcard] at h
      obtain ⟨children, hc, h⟩ := exists_of_bind_eq_ok h
      refine nodup_gather h (fun x _ found hfound => ih hfound) ?_
      -- What is found below two entries begins with their names.
      refine ((pairwise_of_childrenOf ht hc).filter _).imp ?_
      refine fun {x y} hne found found' hfound hfound' r hr hr' => hne ?_
      have hx := prefix_of_mem_selectFrom ht hfound hr
      have hy := prefix_of_mem_selectFrom ht hfound' hr'
      have hxy := (List.prefix_of_prefix_length_le hx hy (by simp)).eq_of_length (by simp)
      simpa using hxy
    | anyDepth =>
      rw [selectFrom_anyDepth] at h
      obtain ⟨found, -, h⟩ := exists_of_bind_eq_ok h
      exact Except.ok.inj h ▸ nodup_distinct found

/-! ## The order of lists -/

/-- Whether two searches agree but for order: nothing in them depends on more than what is found at
each place. -/
theorem sameElements_selectFrom {e : Disk} (ht : d.tree.WellFormed) (h : Disk.SameEntries d e)
    (base : Path) (only : Bool) (parts : List GlobPart) (names : List String) :
    SameElements (selectFrom e base only parts names) (selectFrom d base only parts names) := by
  have hchildren : ∀ names, SameElements (childrenOf e base names) (childrenOf d base names) := by
    intro names
    unfold childrenOf
    rw [h.entry ht]
    split
    · exact .ok (Tree.children_perm h.entries _)
    · exact .error _ _
    · exact .refl _
  induction parts generalizing names with
  | nil => exact .refl _
  | cons part rest ih =>
    cases part with
    | named n =>
      rw [selectFrom_named, selectFrom_named, h.probe ht]
      cases d.probe (below base (names ++ [n])) with
      | error x => exact .refl _
      | ok there =>
        simp only [bind, Except.bind]
        split
        · exact ih _
        · exact .refl _
    | wildcard pieces =>
      rw [selectFrom_wildcard, selectFrom_wildcard]
      exact (hchildren names).bind fun hperm =>
        sameElements_gather (hperm.filter _) fun x _ => ih (names ++ [x.1])
    | anyDepth =>
      rw [selectFrom_anyDepth, selectFrom_anyDepth]
      have hstarts : (startingPoints e base names).Perm (startingPoints d base names) := by
        unfold startingPoints
        rw [h.entry ht]
        refine List.Perm.cons _ ?_
        split
        · exact (Tree.directoriesBelow_perm h.entries _).map _
        · exact .refl _
      refine (sameElements_gather hstarts fun start _ => ?_).bind fun hfound => .ok ?_
      · exact (ih start).bind fun hfound => (hchildren start).bind fun _ => .ok hfound
      · refine (List.perm_ext_iff_of_nodup (nodup_distinct _) (nodup_distinct _)).mpr fun r => ?_
        rw [mem_distinct, mem_distinct, hfound.mem_iff]

end Glob

end TypedContent.Preload
