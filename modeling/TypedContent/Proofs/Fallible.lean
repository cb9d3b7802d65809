import Mathlib.Data.List.Nodup

/-!
# A step for each element, that may fail

`gather` puts the lists that the steps give one behind the other; `mapM_flatten` and
`filterM_eq_gather` bring loops into that form.  It succeeds if every step does, with the elements
that the steps give (`mem_gather`), and fails with the failure of a step.

`SameElements` compares results in no fixed order, where it may depend on the order which of several
failures is met; `sameElements_gather`: going through the same elements in another order gives the
same ones.
-/

namespace TypedContent.Fallible

variable {ε α β : Type} {f : α → Except ε (List β)} {xs : List α} {ys : List β} {e : ε}

/-- The lists that a step gives for each element, one behind the other. -/
def gather (f : α → Except ε (List β)) : List α → Except ε (List β)
  | [] => .ok []
  | x :: xs => do
    let ys ← f x
    let zs ← gather f xs
    pure (ys ++ zs)

theorem eq_ok_of_toOption {r : Except ε α} {a : α} (h : r.toOption = some a) : r = .ok a := by
  cases r with
  | error e => contradiction
  | ok b => exact congrArg Except.ok (Option.some.inj h)

theorem exists_eq_error_of_toOption {r : Except ε α} (h : r.toOption = none) :
    ∃ e, r = .error e := by
  cases r with
  | error e => exact ⟨e, rfl⟩
  | ok b => contradiction

theorem exists_of_bind_eq_ok {r : Except ε α} {k : α → Except ε β} {b : β}
    (h : r >>= k = .ok b) : ∃ a, r = .ok a ∧ k a = .ok b := by
  cases r with
  | error e => contradiction
  | ok a => exact ⟨a, rfl, h⟩

theorem bind_eq_error {r : Except ε α} {k : α → Except ε β} (h : r >>= k = .error e) :
    r = .error e ∨ ∃ a, r = .ok a ∧ k a = .error e := by
  cases r with
  | error e' => exact .inl (congrArg Except.error (Except.error.inj h))
  | ok a => exact .inr ⟨a, rfl, h⟩

/-! ## Loops -/

theorem mapM_flatten (f : α → Except ε (List β)) (xs : List α) :
    (do let ys ← xs.mapM f; pure ys.flatten) = gather f xs := by
  induction xs with
  | nil => rfl
  | cons x xs ih =>
    rw [gather, ← ih, List.mapM_cons]
    cases f x with
    | error e => rfl
    | ok y =>
      cases xs.mapM f with
      | error e => rfl
      | ok ys => rfl

/-- The element itself if it is to be kept. -/
def keep (f : α → Except ε Bool) (x : α) : Except ε (List α) :=
  (f x).map fun b => if b then [x] else []

theorem filterAuxM_eq_gather (f : α → Except ε Bool) (xs acc : List α) :
    xs.filterAuxM f acc = (gather (keep f) xs).map fun kept => kept.reverse ++ acc := by
  induction xs generalizing acc with
  | nil => rfl
  | cons x xs ih =>
    rw [List.filterAuxM, gather]
    cases hx : f x with
    | error e => simp [keep, hx, bind, Except.bind, Except.map]
    | ok b =>
      simp only [keep, hx, bind, Except.bind, Except.map]
      rw [ih]
      cases gather (keep f) xs with
      | error e => rfl
      | ok kept => cases b <;> simp [Except.map, pure, Except.pure]

theorem filterM_eq_gather (f : α → Except ε Bool) (xs : List α) :
    xs.filterM f = gather (keep f) xs := by
  rw [List.filterM, filterAuxM_eq_gather]
  cases gather (keep f) xs with
  | error e => rfl
  | ok kept => simp [Except.map, bind, Except.bind, pure, Except.pure]

/-! ## Successes and failures -/

theorem gather_cons_eq_ok {x : α} (h : gather f (x :: xs) = .ok ys) :
    ∃ zs rest, f x = .ok zs ∧ gather f xs = .ok rest ∧ ys = zs ++ rest := by
  obtain ⟨zs, hx, h⟩ := exists_of_bind_eq_ok h
  obtain ⟨rest, hxs, h⟩ := exists_of_bind_eq_ok h
  exact ⟨zs, rest, hx, hxs, (Except.ok.inj h).symm⟩

/-- No step of a success failed. -/
theorem step_of_gather (h : gather f xs = .ok ys) {x : α} (hx : x ∈ xs) : ∃ zs, f x = .ok zs := by
  induction xs generalizing ys with
  | nil => cases hx
  | cons x' xs ih =>
    obtain ⟨zs, rest, hstep, hrest, -⟩ := gather_cons_eq_ok h
    rcases List.mem_cons.mp hx with rfl | hx
    · exact ⟨zs, hstep⟩
    · exact ih hrest hx

theorem mem_gather (h : gather f xs = .ok ys) {y : β} :
    y ∈ ys ↔ ∃ x ∈ xs, ∃ zs, f x = .ok zs ∧ y ∈ zs := by
  induction xs generalizing ys with
  | nil =>
    obtain rfl := Except.ok.inj h
    simp
  | cons x xs ih =>
    obtain ⟨zs, rest, hstep, hrest, rfl⟩ := gather_cons_eq_ok h
    simp only [List.mem_append, List.mem_cons, exists_eq_or_imp, ih hrest, hstep, Except.ok.injEq,
      exists_eq_left']

theorem exists_step_of_gather_eq_error (h : gather f xs = .error e) : ∃ x ∈ xs, f x = .error e := by
  induction xs with
  | nil => contradiction
  | cons x xs ih =>
    rcases bind_eq_error h with hx | ⟨zs, -, h⟩
    · exact ⟨x, List.mem_cons_self, hx⟩
    · rcases bind_eq_error h with hxs | ⟨rest, -, h⟩
      · obtain ⟨x', hx', he⟩ := ih hxs
        exact ⟨x', List.mem_cons_of_mem x hx', he⟩
      · contradiction

/-- Steps that repeat nothing, neither in one list nor in two, repeat nothing together. -/
theorem nodup_gather (h : gather f xs = .ok ys) (hlists : ∀ x ∈ xs, ∀ zs, f x = .ok zs → zs.Nodup)
    (hdisjoint : xs.Pairwise fun x x' => ∀ zs zs', f x = .ok zs → f x' = .ok zs' →
      List.Disjoint zs zs') : ys.Nodup := by
  induction xs generalizing ys with
  | nil =>
    obtain rfl := Except.ok.inj h
    exact List.nodup_nil
  | cons x xs ih =>
    obtain ⟨zs, rest, hstep, hrest, rfl⟩ := gather_cons_eq_ok h
    obtain ⟨hx, hxs⟩ := List.pairwise_cons.mp hdisjoint
    refine List.Nodup.append (hlists x List.mem_cons_self zs hstep)
      (ih hrest (fun x' hx' => hlists x' (List.mem_cons_of_mem x hx')) hxs) fun y hy hy' => ?_
    obtain ⟨x', hx', zs', hstep', hy'⟩ := (mem_gather hrest).mp hy'
    exact hx x' hx' zs zs' hstep hstep' hy hy'

theorem keep_eq_ok {f : α → Except ε Bool} {x : α} {zs : List α} (h : keep f x = .ok zs) :
    ∃ b, f x = .ok b ∧ zs = if b then [x] else [] := by
  unfold keep at h
  cases hx : f x with
  | error e => simp [hx, Except.map] at h
  | ok b =>
    simp only [hx, Except.map, Except.ok.injEq] at h
    exact ⟨b, rfl, h.symm⟩

theorem mem_filterM {f : α → Except ε Bool} {ys : List α} (h : xs.filterM f = .ok ys) {x : α} :
    x ∈ ys ↔ x ∈ xs ∧ f x = .ok true := by
  rw [filterM_eq_gather] at h
  rw [mem_gather h]
  constructor
  · rintro ⟨x', hx', zs, hkeep, hx⟩
    obtain ⟨b, hf, rfl⟩ := keep_eq_ok hkeep
    cases b with
    | false => simp at hx
    | true =>
      obtain rfl := List.mem_singleton.mp hx
      exact ⟨hx', hf⟩
  · rintro ⟨hx, hf⟩
    exact ⟨x, hx, [x], by simp [keep, hf, Except.map], List.mem_singleton_self x⟩

theorem step_of_filterM {f : α → Except ε Bool} {ys : List α} (h : xs.filterM f = .ok ys) {x : α}
    (hx : x ∈ xs) : ∃ b, f x = .ok b := by
  rw [filterM_eq_gather] at h
  obtain ⟨zs, hkeep⟩ := step_of_gather h hx
  obtain ⟨b, hb, -⟩ := keep_eq_ok hkeep
  exact ⟨b, hb⟩

theorem nodup_filterM {f : α → Except ε Bool} {ys : List α} (h : xs.filterM f = .ok ys)
    (hxs : xs.Nodup) : ys.Nodup := by
  rw [filterM_eq_gather] at h
  refine nodup_gather h (fun x _ zs hkeep => ?_) (hxs.imp fun hne zs zs' hkeep hkeep' => ?_)
  · obtain ⟨b, -, rfl⟩ := keep_eq_ok hkeep
    split <;> simp
  · obtain ⟨b, -, rfl⟩ := keep_eq_ok hkeep
    obtain ⟨b', -, rfl⟩ := keep_eq_ok hkeep'
    cases b <;> cases b' <;> simp [hne.symm]

theorem exists_step_of_filterM_eq_error {f : α → Except ε Bool} (h : xs.filterM f = .error e) :
    ∃ x ∈ xs, f x = .error e := by
  rw [filterM_eq_gather] at h
  obtain ⟨x, hx, he⟩ := exists_step_of_gather_eq_error h
  refine ⟨x, hx, ?_⟩
  unfold keep at he
  cases hf : f x with
  | error e' => simpa [hf, Except.map] using he
  | ok b => simp [hf, Except.map] at he

/-! ## Up to order -/

/-- Both results are failures, or both are lists with the same elements. -/
inductive SameElements : Except ε (List α) → Except ε (List α) → Prop
  | error (e e' : ε) : SameElements (.error e) (.error e')
  | ok {xs ys : List α} : xs.Perm ys → SameElements (.ok xs) (.ok ys)

namespace SameElements

variable {r s t : Except ε (List α)}

theorem refl (r : Except ε (List α)) : SameElements r r := by
  cases r with
  | error e => exact .error e e
  | ok xs => exact .ok (.refl xs)

theorem trans (h : SameElements r s) (k : SameElements s t) : SameElements r t := by
  cases h with
  | error e e' => cases k with | error _ e'' => exact .error e e''
  | ok h => cases k with | ok k => exact .ok (h.trans k)

/-- What is made of a result, if it is the same for every order. -/
theorem bind {g k : List α → Except ε (List β)} (h : SameElements r s)
    (hgk : ∀ {xs ys : List α}, xs.Perm ys → SameElements (g xs) (k ys)) :
    SameElements (r >>= g) (s >>= k) := by
  cases h with
  | error e e' => exact .error e e'
  | ok h => exact hgk h

end SameElements

theorem sameElements_gather_congr {g : α → Except ε (List β)}
    (h : ∀ x ∈ xs, SameElements (f x) (g x)) : SameElements (gather f xs) (gather g xs) := by
  induction xs with
  | nil => exact .refl _
  | cons x xs ih =>
    refine (h x List.mem_cons_self).bind fun hys => ?_
    exact (ih fun y hy => h y (List.mem_cons_of_mem x hy)).bind fun hzs => .ok (hys.append hzs)

theorem sameElements_gather_perm (f : α → Except ε (List β)) {xs ys : List α} (h : xs.Perm ys) :
    SameElements (gather f xs) (gather f ys) := by
  induction h with
  | nil => exact .refl _
  | cons x _ ih => exact (SameElements.refl _).bind fun hys => ih.bind fun hzs => .ok (hys.append hzs)
  | trans _ _ ih ih' => exact ih.trans ih'
  | swap x y xs =>
    simp only [gather]
    cases f x with
    | error e =>
      cases f y with
      | error e' => exact .error e' e
      | ok ys => exact .error e e
    | ok zs =>
      cases f y with
      | error e' => exact .error e' e'
      | ok ys =>
        cases gather f xs with
        | error e => exact .error e e
        | ok rest =>
          refine .ok ?_
          rw [← List.append_assoc, ← List.append_assoc]
          exact List.perm_append_comm.append_right rest

/-- Going through the same elements in another order, with steps that agree but for order. -/
theorem sameElements_gather {g : α → Except ε (List β)} {zs : List α} (h : xs.Perm zs)
    (hfg : ∀ x ∈ xs, SameElements (f x) (g x)) : SameElements (gather f xs) (gather g zs) :=
  (sameElements_gather_congr hfg).trans (sameElements_gather_perm g h)

end TypedContent.Fallible
