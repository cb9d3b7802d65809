import Mathlib.Data.List.Induction
import TypedContent.Collision

/-!
# Exactness of the collision check

`Collision.find?_eq_none_iff`: a list of names is free of collisions exactly if distinct names of
it have distinct keys.  `Collision.exists_find?_eq_some_iff` says the same of a collision that is
found: two names with one key.  `Collision.stem_injOn` is the form in which a run uses it: names
without a collision of their case-folded stems have distinct stems.

`Collision.find?_exact` adds which collision is found: all names with the key of the earliest name
that shares its key, in order.  `Collision.find?_eq_findSome?_foldl`: one pass over the names, which
enters each into the class of its key, comes to the same.
-/

namespace TypedContent.Collision

/-! ## Classes -/

theorem classOf_map (f : String → String) (k : String) (names : List String) :
    classOf k (names.map fun n => (f n, n)) = names.filter fun n => f n = k := by
  rw [classOf, List.filter_map, List.map_map]
  exact List.map_id _

/-- What a class amounts to, if it has two names. -/
def ofClass (what : String) (derive : String → String) : List String → Option Collision
  | first :: second :: rest => some ⟨what, derive first, first :: second :: rest⟩
  | _ => none

theorem ofClass_eq_some_iff {what : String} {derive : String → String} {ns : List String}
    {c : Collision} : ofClass what derive ns = some c ↔
      ∃ first second rest, ns = first :: second :: rest ∧ c = ⟨what, derive first, ns⟩ := by
  match ns with
  | [] => simp [ofClass]
  | [_] => simp [ofClass]
  | first :: second :: rest => simp [ofClass, eq_comm]

/-- The names with the key `k`, each once, in order of first occurrence. -/
def sharers (f : String → String) (names : List String) (k : String) : List String :=
  (distinct names).filter fun n => f n = k

theorem mem_sharers {f : String → String} {names : List String} {k n : String} :
    n ∈ sharers f names k ↔ n ∈ names ∧ f n = k := by
  rw [sharers, List.mem_filter, mem_distinct, decide_eq_true_iff]

theorem find?_eq (what : String) (derive : String → String) (folded : Bool) (names : List String) :
    find? what derive folded names = (distinct names).findSome? fun n =>
      ofClass what derive (sharers (key derive folded) names (key derive folded n)) := by
  unfold find?
  simp only [List.findSome?_map, classOf_map]
  rfl

/-- The name shares its key with another one. -/
def Collides (f : String → String) (names : List String) (m : String) : Prop :=
  m ∈ names ∧ ∃ n ∈ names, m ≠ n ∧ f m = f n

/-- A class amounts to a collision exactly if it has two names. -/
theorem ofClass_sharers_eq_none_iff {f : String → String} {names : List String} {m : String}
    (hm : m ∈ names) (what : String) (derive : String → String) :
    ofClass what derive (sharers f names (f m)) = none ↔ ¬ Collides f names m := by
  have hmem : m ∈ sharers f names (f m) := mem_sharers.mpr ⟨hm, rfl⟩
  have hnodup : (sharers f names (f m)).Nodup := (nodup_distinct names).filter _
  have hother : Collides f names m ↔ ∃ n ∈ sharers f names (f m), m ≠ n := by
    simp only [Collides, mem_sharers, hm, true_and]
    exact exists_congr fun n => by rw [eq_comm (a := f m)]; tauto
  rw [hother]
  match hs : sharers f names (f m) with
  | [] => simp [hs] at hmem
  | [a] => simp_all [ofClass]
  | first :: second :: rest =>
    rw [hs] at hmem hnodup
    have hne : first ≠ second := fun he => by simp [he] at hnodup
    simp only [ofClass, reduceCtorEq, false_iff, not_not]
    by_cases hfirst : m = first
    · exact ⟨second, by simp, hfirst ▸ hne⟩
    · exact ⟨first, by simp, hfirst⟩

/-- No collision is found exactly if distinct names have distinct keys. -/
theorem find?_eq_none_iff (what : String) (derive : String → String) (folded : Bool)
    (names : List String) :
    find? what derive folded names = none ↔
      ∀ m ∈ names, ∀ n ∈ names, key derive folded m = key derive folded n → m = n := by
  rw [find?_eq, List.findSome?_eq_none_iff]
  simp only [mem_distinct]
  constructor
  · intro h m hm n hn hk
    have hapart := (ofClass_sharers_eq_none_iff hm what derive).mp (h m hm)
    exact Classical.byContradiction fun hne => hapart ⟨hm, n, hn, hne, hk⟩
  · intro h m hm
    refine (ofClass_sharers_eq_none_iff hm what derive).mpr ?_
    rintro ⟨-, n, hn, hne, hk⟩
    exact hne (h m hm n hn hk)

/-- A collision is found exactly if two distinct names have one key. -/
theorem exists_find?_eq_some_iff (what : String) (derive : String → String) (folded : Bool)
    (names : List String) :
    (∃ c, find? what derive folded names = some c) ↔
      ∃ m ∈ names, ∃ n ∈ names, m ≠ n ∧ key derive folded m = key derive folded n := by
  rw [← Option.isSome_iff_exists, ← Option.ne_none_iff_isSome, ne_eq, find?_eq_none_iff]
  constructor
  · intro h
    refine Classical.byContradiction fun hno => h fun m hm n hn hk => ?_
    exact Classical.byContradiction fun hne => hno ⟨m, hm, n, hn, hne, hk⟩
  · rintro ⟨m, hm, n, hn, hne, hk⟩ h
    exact hne (h m hm n hn hk)

/-- The same for the names of things: two of them with distinct names that have one key. -/
theorem exists_find?_eq_some_iff_of_mem {α : Type} {name : α → String} {xs : List α}
    {names : List String} (hnames : ∀ n, n ∈ names ↔ n ∈ xs.map name) (what : String)
    (derive : String → String) (folded : Bool) :
    (∃ c, find? what derive folded names = some c) ↔
      ∃ x ∈ xs, ∃ y ∈ xs, name x ≠ name y ∧
        key derive folded (name x) = key derive folded (name y) := by
  rw [exists_find?_eq_some_iff]
  simp only [hnames, List.mem_map]
  constructor
  · rintro ⟨_, ⟨x, hx, rfl⟩, _, ⟨y, hy, rfl⟩, h⟩
    exact ⟨x, hx, y, hy, h⟩
  · rintro ⟨x, hx, y, hy, h⟩
    exact ⟨name x, ⟨x, hx, rfl⟩, name y, ⟨y, hy, rfl⟩, h⟩

/-- Names whose case-folded stems do not collide have distinct stems. -/
theorem stem_injOn {what : String} {names : List String}
    (h : find? what Identifier.stem true names = none) {m n : String} (hm : m ∈ names)
    (hn : n ∈ names) (he : Identifier.stem m = Identifier.stem n) : m = n := by
  refine (find?_eq_none_iff _ _ _ _).mp h m hm n hn ?_
  simp only [key, if_true, he]

/-! ## The collision that is found -/

theorem pairwise_idxOf_distinct (names : List String) :
    (distinct names).Pairwise fun m n => names.idxOf m < names.idxOf n := by
  unfold distinct
  induction names with
  | nil => exact .nil
  | cons x names ih =>
    have hrest : ∀ y ∈ (distinctBy id names).filter (fun y => id y ≠ id x),
        (x :: names).idxOf y = names.idxOf y + 1 := by
      intro y hy
      have hne : y ≠ x := of_decide_eq_true (List.mem_filter.mp hy).2
      rw [List.idxOf_cons, beq_false_of_ne hne.symm, cond_false]
    refine .cons (fun y hy => ?_) ((ih.filter _).imp_of_mem fun {y z} hy hz hlt => ?_)
    · rw [List.idxOf_cons_self, hrest y hy]
      exact Nat.succ_pos _
    · rw [hrest y hy, hrest z hz]
      exact Nat.succ_lt_succ hlt

/-- The collision of a name: all that share its key, in order of first occurrence. -/
structure IsClassOf (what : String) (derive f : String → String) (names : List String)
    (first : String) (c : Collision) : Prop where
  what : c.what = what
  identifier : c.identifier = derive first
  head : c.names.head? = some first
  members (n : String) : n ∈ c.names ↔ n ∈ names ∧ f n = f first
  ordered : c.names.Pairwise fun m n => names.idxOf m < names.idxOf n
  collides : Collides f names first

theorem isClassOf_of_ofClass {what : String} {derive f : String → String} {names : List String}
    {first second : String} {rest : List String}
    (h : sharers f names (f first) = first :: second :: rest) :
    IsClassOf what derive f names first ⟨what, derive first, first :: second :: rest⟩ where
  what := rfl
  identifier := rfl
  head := rfl
  members n := by rw [← h, mem_sharers]
  ordered := by
    rw [← h]
    exact (pairwise_idxOf_distinct names).filter _
  collides := by
    have hfirst : first ∈ sharers f names (f first) := by simp [h]
    refine Classical.byContradiction fun hapart => ?_
    have hnone := (ofClass_sharers_eq_none_iff (mem_sharers.mp hfirst).1 what derive).mpr hapart
    rw [h] at hnone
    contradiction

/-- What is found is the collision of the earliest name that has one. -/
theorem isClassOf_of_find? {what : String} {derive : String → String} {folded : Bool}
    {names : List String} {c : Collision} (h : find? what derive folded names = some c) :
    ∃ first, IsClassOf what derive (key derive folded) names first c ∧
      ∀ m, Collides (key derive folded) names m → names.idxOf first ≤ names.idxOf m := by
  rw [find?_eq] at h
  obtain ⟨before, first, behind, hsplit, hclass, hbefore⟩ := List.findSome?_eq_some_iff.mp h
  have hnone : ∀ m ∈ before, ¬ Collides (key derive folded) names m :=
    fun m hm hc => (ofClass_sharers_eq_none_iff hc.1 what derive).mp (hbefore m hm) hc
  -- The class begins with the name at which it was found: none before it shares a key.
  have hhead : ∃ rest, sharers (key derive folded) names (key derive folded first) =
      first :: rest := by
    have hfirst : first ∈ names := mem_distinct.mp (hsplit ▸ by simp)
    have hempty : before.filter (fun n => key derive folded n = key derive folded first) = [] := by
      refine List.filter_eq_nil_iff.mpr fun m hm he => ?_
      have hm' : m ∈ names := mem_distinct.mp (hsplit ▸ List.mem_append_left _ hm)
      have hnodup : (before ++ first :: behind).Nodup := hsplit ▸ nodup_distinct names
      refine hnone m hm ⟨hm', first, hfirst, ?_, of_decide_eq_true he⟩
      exact fun hmf => (List.nodup_append.mp hnodup).2.2 m hm first (by simp) hmf
    refine ⟨behind.filter fun n => key derive folded n = key derive folded first, ?_⟩
    rw [sharers, hsplit, List.filter_append, hempty, List.nil_append,
      List.filter_cons_of_pos (by simp)]
  obtain ⟨first', second, rest, hs, rfl⟩ := ofClass_eq_some_iff.mp hclass
  obtain ⟨rest', hrest'⟩ := hhead
  obtain ⟨rfl, -⟩ := List.cons.inj (hrest'.symm.trans hs)
  refine ⟨first, hs ▸ isClassOf_of_ofClass hs, fun m hm => ?_⟩
  have hmem : m ∈ before ++ first :: behind := hsplit ▸ mem_distinct.mpr hm.1
  have hpair := pairwise_idxOf_distinct names
  rw [hsplit, List.pairwise_append] at hpair
  rcases List.mem_append.mp hmem with hbefore | hmem
  · exact absurd hm (hnone m hbefore)
  · rcases List.mem_cons.mp hmem with rfl | hbehind
    · exact Nat.le_refl _
    · exact Nat.le_of_lt (List.rel_of_pairwise_cons hpair.2.1 hbehind)

/-- A collision is found exactly if two distinct names have one key, and then it is the class of the
earliest such name; how often and in which order the names come does not decide whether. -/
theorem find?_exact (what : String) (derive : String → String) (folded : Bool)
    (names : List String) :
    ((∃ c, find? what derive folded names = some c) ↔
      ∃ m ∈ names, ∃ n ∈ names, m ≠ n ∧ key derive folded m = key derive folded n) ∧
    (∀ c, find? what derive folded names = some c →
      ∃ first, IsClassOf what derive (key derive folded) names first c ∧
        ∀ m, Collides (key derive folded) names m → names.idxOf first ≤ names.idxOf m) ∧
    ∀ names' : List String, (∀ n, n ∈ names' ↔ n ∈ names) →
      ((∃ c, find? what derive folded names' = some c) ↔
        ∃ c, find? what derive folded names = some c) := by
  refine ⟨exists_find?_eq_some_iff what derive folded names, fun c => isClassOf_of_find?, ?_⟩
  intro names' hsame
  rw [exists_find?_eq_some_iff, exists_find?_eq_some_iff]
  simp only [hsame]

/-! ## One pass -/

/-- Enters a name into the class of its key.  A key that is new opens a class behind the others. -/
def enter (k name : String) : List (String × List String) → List (String × List String)
  | [] => [(k, [name])]
  | (k', owners) :: rest =>
    if k' = k then (k', if name ∈ owners then owners else owners ++ [name]) :: rest
    else (k', owners) :: enter k name rest

/-- Where a pass has got to: each key with the names that share it. -/
def classes (f : String → String) (names : List String) : List (String × List String) :=
  (distinct (names.map f)).map fun k => (k, sharers f names k)

theorem distinct_concat (names : List String) (n : String) :
    distinct (names ++ [n]) = if n ∈ names then distinct names else distinct names ++ [n] := by
  unfold distinct
  induction names with
  | nil => rfl
  | cons x names ih =>
    rw [List.cons_append, distinctBy, distinctBy, ih]
    by_cases hn : n ∈ names
    · rw [if_pos hn, if_pos (List.mem_cons_of_mem x hn)]
    · by_cases hx : n = x
      · subst hx
        simp [hn]
      · simp [hn, hx]

theorem sharers_concat (f : String → String) (names : List String) (n k : String) :
    sharers f (names ++ [n]) k =
      if f n = k ∧ n ∉ sharers f names k then sharers f names k ++ [n] else sharers f names k := by
  have hmem : n ∈ sharers f names k ↔ n ∈ names ∧ f n = k := mem_sharers
  unfold sharers at hmem ⊢
  rw [distinct_concat]
  by_cases hn : n ∈ names
  · by_cases hk : f n = k <;> simp [hmem, hn, hk]
  · by_cases hk : f n = k <;> simp [hmem, hn, hk]

theorem enter_of_mem {k name : String} {g : String → List String} {ks : List String}
    (hk : k ∈ ks) (hks : ks.Nodup) :
    enter k name (ks.map fun k' => (k', g k')) =
      ks.map fun k' => (k', if k = k' ∧ name ∉ g k' then g k' ++ [name] else g k') := by
  induction ks with
  | nil => cases hk
  | cons k' ks ih =>
    obtain ⟨hnot, hks⟩ := List.nodup_cons.mp hks
    rw [List.map_cons, List.map_cons, enter]
    by_cases he : k' = k
    · subst he
      have hrest : ∀ k'' ∈ ks, ¬ (k' = k'' ∧ name ∉ g k'') := fun k'' hk'' h => hnot (h.1 ▸ hk'')
      rw [if_pos rfl]
      congr 1
      · by_cases hn : name ∈ g k' <;> simp [hn]
      · exact List.map_congr_left fun k'' hk'' => by rw [if_neg (hrest k'' hk'')]
    · rw [if_neg he, if_neg fun h => he h.1.symm,
        ih ((List.mem_cons.mp hk).resolve_left (Ne.symm he)) hks]

theorem enter_of_not_mem {k name : String} {g : String → List String} {ks : List String}
    (hk : k ∉ ks) :
    enter k name (ks.map fun k' => (k', g k')) =
      (ks.map fun k' => (k', g k')) ++ [(k, [name])] := by
  induction ks with
  | nil => rfl
  | cons k' ks ih =>
    obtain ⟨hne, hks⟩ := List.ne_and_not_mem_of_not_mem_cons hk
    rw [List.map_cons, enter, if_neg (Ne.symm hne), ih hks, List.cons_append]

/-- A step of the pass. -/
theorem enter_classes (f : String → String) (names : List String) (n : String) :
    enter (f n) n (classes f names) = classes f (names ++ [n]) := by
  unfold classes
  rw [List.map_append, List.map_singleton, distinct_concat]
  by_cases hk : f n ∈ names.map f
  · rw [if_pos hk, enter_of_mem (mem_distinct.mpr hk) (nodup_distinct _)]
    simp only [sharers_concat]
  · have hnone : sharers f names (f n) = [] := by
      refine List.eq_nil_iff_forall_not_mem.mpr fun m hm => hk ?_
      obtain ⟨hm, he⟩ := mem_sharers.mp hm
      exact List.mem_map.mpr ⟨m, hm, he⟩
    rw [if_neg hk, enter_of_not_mem (fun h => hk (mem_distinct.mp h)), List.map_append,
      List.map_singleton, sharers_concat, if_pos ⟨rfl, by simp [hnone]⟩, hnone, List.nil_append]
    congr 1
    refine List.map_congr_left fun k hmem => ?_
    have hne : f n ≠ k := fun he => hk (he ▸ mem_distinct.mp hmem)
    rw [sharers_concat, if_neg fun h => hne h.1]

theorem foldl_enter (f : String → String) (names : List String) :
    names.foldl (fun cs n => enter (f n) n cs) [] = classes f names := by
  induction names using List.reverseRecOn with
  | nil => rfl
  | append_singleton names n ih =>
    rw [List.foldl_append, ih, List.foldl_cons, List.foldl_nil, enter_classes]

theorem findSome?_filter_of_none {α β : Type} {g : α → Option β} {p : α → Bool} {xs : List α}
    (h : ∀ x ∈ xs, p x = false → g x = none) : (xs.filter p).findSome? g = xs.findSome? g := by
  induction xs with
  | nil => rfl
  | cons x xs ih =>
    have hxs := ih fun y hy => h y (List.mem_cons_of_mem x hy)
    cases hp : p x with
    | true => rw [List.filter_cons_of_pos hp, List.findSome?_cons, List.findSome?_cons, hxs]
    | false =>
      rw [List.filter_cons_of_neg (by simp [hp]), List.findSome?_cons,
        h x List.mem_cons_self hp, hxs]

/-- Where a search has come upon nothing it comes upon nothing again. -/
theorem findSome?_distinct {α β : Type} [DecidableEq α] (g : α → Option β) (xs : List α) :
    (distinct xs).findSome? g = xs.findSome? g := by
  unfold distinct
  induction xs with
  | nil => rfl
  | cons x xs ih =>
    rw [distinctBy, List.findSome?_cons, List.findSome?_cons]
    cases hx : g x with
    | some b => rfl
    | none =>
      simp only
      rw [findSome?_filter_of_none, ih]
      intro y _ hy
      rw [show y = x by simpa using hy, hx]

/-- The check may enter the names one by one and then look for the first class with two of them. -/
theorem find?_eq_findSome?_foldl (what : String) (derive : String → String) (folded : Bool)
    (names : List String) :
    find? what derive folded names =
      (names.foldl (fun cs n => enter (key derive folded n) n cs) []).findSome? fun e =>
        ofClass what derive e.2 := by
  let f := key derive folded
  let found := fun k => ofClass what derive (sharers f names k)
  calc find? what derive folded names = (distinct names).findSome? (found ∘ f) := find?_eq ..
    _ = names.findSome? (found ∘ f) := findSome?_distinct ..
    _ = (names.map f).findSome? found := List.findSome?_map.symm
    _ = (distinct (names.map f)).findSome? found := (findSome?_distinct ..).symm
    _ = (classes f names).findSome? fun e => ofClass what derive e.2 := by
      rw [classes, List.findSome?_map]
      rfl
    _ = _ := by rw [foldl_enter]

end TypedContent.Collision
