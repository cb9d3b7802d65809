/-!
# First occurrences

`distinctBy key` keeps of the elements with one key the first, in order.
-/

namespace TypedContent

variable {α β : Type} [DecidableEq β]

def distinctBy (key : α → β) : List α → List α
  | [] => []
  | x :: xs => x :: (distinctBy key xs).filter fun y => key y ≠ key x

/-- The elements without repetitions, in order of first occurrence. -/
def distinct (xs : List β) : List β := distinctBy id xs

theorem mem_of_mem_distinctBy {key : α → β} {xs : List α} {x : α} (h : x ∈ distinctBy key xs) :
    x ∈ xs := by
  induction xs with
  | nil => exact h
  | cons y ys ih =>
    rcases List.mem_cons.mp h with h | h
    · exact List.mem_cons.mpr (.inl h)
    · exact List.mem_cons_of_mem _ (ih (List.mem_filter.mp h).1)

theorem exists_mem_distinctBy (key : α → β) {xs : List α} {x : α} (h : x ∈ xs) :
    ∃ y ∈ distinctBy key xs, key y = key x := by
  induction xs with
  | nil => cases h
  | cons y ys ih =>
    by_cases e : key x = key y
    · exact ⟨y, by simp [distinctBy], e.symm⟩
    · rcases List.mem_cons.mp h with h | h
      · exact absurd (congrArg key h) e
      · obtain ⟨z, hz, hk⟩ := ih h
        exact ⟨z, by simp [distinctBy, hz, hk, e], hk⟩

theorem mem_distinct {xs : List β} {x : β} : x ∈ distinct xs ↔ x ∈ xs := by
  constructor
  · exact mem_of_mem_distinctBy
  · intro h
    obtain ⟨y, hy, e⟩ := exists_mem_distinctBy id h
    exact (show y = x from e) ▸ hy

theorem pairwise_distinctBy (key : α → β) (xs : List α) :
    (distinctBy key xs).Pairwise fun x y => key x ≠ key y := by
  induction xs with
  | nil => exact .nil
  | cons x xs ih =>
    refine .cons ?_ (ih.filter _)
    intro y hy
    have := (List.mem_filter.mp hy).2
    exact fun e => (of_decide_eq_true this) e.symm

theorem nodup_map_distinctBy (key : α → β) (xs : List α) :
    ((distinctBy key xs).map key).Nodup :=
  List.pairwise_map.mpr (pairwise_distinctBy key xs)

theorem nodup_distinct (xs : List β) : (distinct xs).Nodup := by
  have h := nodup_map_distinctBy id xs
  rwa [List.map_id] at h

theorem distinct_of_nodup {xs : List β} (h : xs.Nodup) : distinct xs = xs := by
  unfold distinct
  induction xs with
  | nil => rfl
  | cons x xs ih =>
    obtain ⟨hx, hxs⟩ := List.nodup_cons.mp h
    rw [distinctBy, ih hxs, List.filter_eq_self.mpr]
    intro y hy
    exact decide_eq_true fun e => hx ((show y = x from e) ▸ hy)

theorem map_distinctBy (key : α → β) (xs : List α) :
    (distinctBy key xs).map key = distinct (xs.map key) := by
  unfold distinct
  induction xs with
  | nil => rfl
  | cons x xs ih =>
    rw [distinctBy, List.map_cons, List.map_cons, distinctBy, ← ih, List.filter_map]
    rfl

/-- Elements with keys of their own are only taken out where they repeat. -/
theorem distinctBy_eq_distinct [DecidableEq α] {key : α → β} {xs : List α}
    (h : ∀ x ∈ xs, ∀ y ∈ xs, key x = key y → x = y) : distinctBy key xs = distinct xs := by
  unfold distinct
  induction xs with
  | nil => rfl
  | cons x xs ih =>
    have hxs : distinctBy key xs = distinctBy id xs := ih fun y hy z hz =>
      h y (List.mem_cons_of_mem _ hy) z (List.mem_cons_of_mem _ hz)
    rw [distinctBy, distinctBy, hxs]
    congr 1
    refine List.filter_congr fun y hy => decide_eq_decide.mpr (not_congr ⟨?_, congrArg key⟩)
    exact h y (List.mem_cons_of_mem _ (mem_of_mem_distinctBy hy)) x List.mem_cons_self

/-- What stays is the first of those with its key. -/
theorem find?_eq_some_of_mem_distinctBy {key : α → β} {xs : List α} {x : α}
    (h : x ∈ distinctBy key xs) : xs.find? (fun y => key y = key x) = some x := by
  induction xs with
  | nil => simp [distinctBy] at h
  | cons y ys ih =>
    rcases List.mem_cons.mp h with rfl | h
    · simp
    · obtain ⟨hmem, hne⟩ := List.mem_filter.mp h
      have hyx : ¬ key y = key x := fun e => of_decide_eq_true hne e.symm
      rw [List.find?_cons_of_neg (by simpa using hyx), ih hmem]

end TypedContent
