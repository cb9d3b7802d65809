import Mathlib.Data.List.Forall2
import TypedContent.Schema.Definition

/-!
# What a check decides

`Decides` says all there is to say of a check: which values it gives, and what it lists if it gives
none.  The parts of which the checks of a shape are made keep it, so that what a whole check decides
is put together in the way in which the check is.  The list is in order of the places
(`Decides.ordered`), fields as they are declared and items as they come, and so no place is in it
twice (`Decides.nodup`).
-/

namespace TypedContent.Schema

/-! ## Places in order -/

/-- The fields of all shapes, in the order in which the shapes declare them. -/
def declared : List String :=
  ["name", "displayName", "display_name", "description", "guid", "type", "properties"]

def Step.rank : Step → Nat
  | .field name => declared.idxOf name
  | .item index => index

/-- One place comes before another: fields as they are declared, items as they are listed. -/
def Earlier (p q : List Step) : Prop := p.map Step.rank < q.map Step.rank

instance (p q : List Step) : Decidable (Earlier p q) :=
  inferInstanceAs (Decidable (p.map Step.rank < q.map Step.rank))

theorem Earlier.irrefl (p : List Step) : ¬ Earlier p p := List.lt_irrefl _

theorem earlier_cons_iff {s t : Step} {p q : List Step} :
    Earlier (s :: p) (t :: q) ↔ s.rank < t.rank ∨ s.rank = t.rank ∧ Earlier p q := by
  rw [Earlier, List.map_cons, List.map_cons, List.cons_lt_cons_iff]
  rfl

/-! ## Checks -/

variable {α β : Type}

def faults : Checked α → List Violation
  | .ok _ => []
  | .error vs => vs

/-- What is wrong at a place, seen from one step further up. -/
def Violation.under (s : Step) (x : Violation) : Violation := { x with place := s :: x.place }

/-- The check gives exactly the good values.  Without one it lists exactly what is bad, at least one
thing, in order of the places. -/
structure Decides (c : Checked α) (good : α → Prop) (bad : Violation → Prop) : Prop where
  ok_iff : ∀ a, c = .ok a ↔ good a
  mem_iff : ∀ x, x ∈ faults c ↔ bad x
  ne_nil : c ≠ .error []
  ordered : ((faults c).map (·.place)).Pairwise Earlier

namespace Decides

variable {c : Checked α} {d : Checked β} {good : α → Prop} {fine : β → Prop}
  {bad ill : Violation → Prop}

theorem nodup (h : Decides c good bad) : ((faults c).map (·.place)).Nodup := by
  refine h.ordered.imp ?_
  rintro p _ hlt rfl
  exact Earlier.irrefl p hlt

theorem congr (h : Decides c good bad) {good' : α → Prop} {bad' : Violation → Prop}
    (hgood : ∀ a, good a ↔ good' a) (hbad : ∀ x, bad x ↔ bad' x) : Decides c good' bad' where
  ok_iff a := (h.ok_iff a).trans (hgood a)
  mem_iff x := (h.mem_iff x).trans (hbad x)
  ne_nil := h.ne_nil
  ordered := h.ordered

theorem ok {a : α} (hgood : ∀ b, good b ↔ a = b) (hbad : ∀ x, ¬ bad x) :
    Decides (.ok a) good bad where
  ok_iff b := by rw [hgood, Except.ok.injEq]
  mem_iff x := by simpa [faults] using hbad x
  ne_nil := nofun
  ordered := .nil

theorem error {x : Violation} (hgood : ∀ a, ¬ good a) (hbad : ∀ y, bad y ↔ y = x) :
    Decides (.error [x] : Checked α) good bad where
  ok_iff a := by simpa using hgood a
  mem_iff y := by rw [hbad, faults, List.mem_singleton]
  ne_nil := nofun
  ordered := List.pairwise_singleton _ _

theorem map (h : Decides c good bad) (f : α → β) :
    Decides (c.map f) (fun b => ∃ a, good a ∧ f a = b) bad := by
  cases c with
  | ok a =>
    refine .ok (fun b => ?_) fun x => ?_
    · simp [← h.ok_iff]
    · simp [← h.mem_iff, faults]
  | error vs =>
    exact { ok_iff := fun b => by simp [← h.ok_iff, Except.map]
            mem_iff := h.mem_iff
            ne_nil := by simpa [Except.map] using h.ne_nil
            ordered := h.ordered }

theorem both (hc : Decides c good bad) (hd : Decides d fine ill)
    (hlt : ∀ x y, bad x → ill y → Earlier x.place y.place) :
    Decides (both c d) (fun p => good p.1 ∧ fine p.2) (fun x => bad x ∨ ill x) := by
  have hfaults : faults (Schema.both c d) = faults c ++ faults d := by
    cases c <;> cases d <;> simp [Schema.both, faults]
  refine ⟨fun p => ?_, fun x => ?_, ?_, ?_⟩
  · rw [← hc.ok_iff, ← hd.ok_iff]
    cases c <;> cases d <;> simp [Schema.both, Prod.ext_iff]
  · rw [hfaults, List.mem_append, hc.mem_iff, hd.mem_iff]
  · have h₁ := hc.ne_nil
    have h₂ := hd.ne_nil
    cases c <;> cases d <;> simp_all [Schema.both]
  · rw [hfaults, List.map_append, List.pairwise_append]
    refine ⟨hc.ordered, hd.ordered, ?_⟩
    simp only [List.mem_map]
    rintro _ ⟨x, hx, rfl⟩ _ ⟨y, hy, rfl⟩
    exact hlt x y ((hc.mem_iff x).mp hx) ((hd.mem_iff y).mp hy)

theorem below (h : Decides c good bad) (s : Step) :
    Decides (below s c) good (fun x => ∃ y, bad y ∧ y.under s = x) := by
  have hfaults : faults (Schema.below s c) = (faults c).map (Violation.under s) := by
    cases c <;> rfl
  refine ⟨fun a => ?_, fun x => ?_, ?_, ?_⟩
  · rw [← h.ok_iff]
    cases c <;> simp [Schema.below]
  · simp only [hfaults, List.mem_map, h.mem_iff]
  · have hne := h.ne_nil
    cases c <;> simp_all [Schema.below]
  · have hordered := h.ordered
    rw [List.pairwise_map] at hordered
    rw [hfaults, List.map_map, List.pairwise_map]
    exact hordered.imp fun hxy => earlier_cons_iff.mpr (.inr ⟨rfl, hxy⟩)

/-- Items are good or bad one by one, and what is bad has the index of its item. -/
theorem items {check : Json → Checked α} {good : Json → α → Prop} {bad : Json → Violation → Prop}
    (h : ∀ v, Decides (check v) (good v) (bad v)) (k : Nat) (vs : List Json) :
    Decides (items check k vs) (List.Forall₂ good vs)
      (fun x => ∃ i v y, vs[i]? = some v ∧ bad v y ∧ y.under (.item (k + i)) = x) := by
  -- Each item is checked one index further on, so `k` is kept general.
  induction vs generalizing k with
  | nil => exact .ok (fun l => by simp [eq_comm]) (by simp)
  | cons v vs ih =>
    have hitems : Schema.items check k (v :: vs) =
        (Schema.both (Schema.below (.item k) (check v)) (Schema.items check (k + 1) vs)).map
          fun p => p.1 :: p.2 := by
      rw [Schema.items]
      cases Schema.both (Schema.below (.item k) (check v)) (Schema.items check (k + 1) vs) <;> rfl
    rw [hitems]
    refine ((((h v).below (.item k)).both (ih (k + 1)) ?_).map _).congr (fun l => ?_) fun x => ?_
    · rintro _ _ ⟨y, -, rfl⟩ ⟨i, w, z, -, -, rfl⟩
      exact earlier_cons_iff.mpr (.inl (by simp only [Step.rank]; omega))
    · rw [List.forall₂_cons_left_iff]
      constructor
      · rintro ⟨⟨a, l'⟩, ⟨ha, hl⟩, rfl⟩
        exact ⟨a, l', ha, hl, rfl⟩
      · rintro ⟨a, l', ha, hl, rfl⟩
        exact ⟨(a, l'), ⟨ha, hl⟩, rfl⟩
    · constructor
      · rintro (⟨y, hy, rfl⟩ | ⟨i, w, y, hi, hy, rfl⟩)
        · exact ⟨0, v, y, rfl, hy, rfl⟩
        · exact ⟨i + 1, w, y, hi, hy, by rw [Nat.add_right_comm, Nat.add_assoc]⟩
      · rintro ⟨i, w, y, hi, hy, rfl⟩
        cases i with
        | zero => exact .inl ⟨y, Option.some.inj hi ▸ hy, rfl⟩
        | succ i => exact .inr ⟨i, w, y, hi, hy, by rw [Nat.add_right_comm, Nat.add_assoc]⟩

end Decides

end TypedContent.Schema
