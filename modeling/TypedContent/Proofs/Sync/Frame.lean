import TypedContent.Proofs.Sync.Abort
import TypedContent.Proofs.Sync.Report

/-!
# What a run leaves alone

`file?_run_of_outside`: whatever becomes of a run, the files that are not directly in its directory
stay as they are.  `Reached.file?_run_of_stale` is about those that are: a stale one is gone when
the fan-out has ended, unless the disk refused to remove it.
-/

namespace TypedContent.Sync

open Files Schema TypeScript

variable {j : Job} {s : Schedule} {d : Disk} {l m : Location}

theorem Cleaned.file?_of_outside {p : Path} {overview : Disk → Option (List TypeSummary)}
    {listed types : List TypeSummary} {c : Cleanup} (h : Cleaned p overview d l listed types c)
    (hm : m.dropLast ≠ l) (hup : m ≠ l.dropLast) : c.disk.tree.file? m = d.tree.file? m := by
  have hinside : ∀ name, m ≠ l ++ [name] := by
    rintro name rfl
    exact hm (List.dropLast_concat ..)
  rw [h.cleanup, Tree.file?_congr (find?_removeStale h.place (fun name _ _ => hinside name) hup)]
  exact (d.makeDirectory_extends p).file? m

/-- A run touches no file that is not directly in its directory. -/
theorem file?_run_of_outside (j : Job) (s : Schedule) (d : Disk)
    (hm : ∀ l, (d.makeDirectory j.directory).1.entry j.directory = .ok (l, .directory) →
      m.dropLast ≠ l ∧ m ≠ l.dropLast) :
    (j.run s d).disk.tree.file? m = d.tree.file? m := by
  cases hp : prelude j.directory j.overview d with
  | mk e x =>
    have hdisk := j.run_disk s d
    rw [Job.outline, hp] at hdisk
    cases x with
    | unnamed | noDirectory | noOverview | colliding | unlisted =>
      have hmake := makeDirectory_of_prelude hp rfl
      have hfile := (d.makeDirectory_extends j.directory).file? m
      rw [hmake] at hfile
      rw [hdisk, ← hfile]
    | stopped x =>
      obtain ⟨l, listed, types, c, rfl, h, -⟩ := prelude_eq_stopped hp
      obtain ⟨hne, hup⟩ := hm l h.place
      rw [hdisk]
      exact h.file?_of_outside hne hup
    | ready types c =>
      obtain ⟨rfl, l, listed, hprep⟩ := prelude_eq_ready hp
      obtain ⟨hne, hup⟩ := hm l hprep.place
      obtain ⟨r, g, -, -, h⟩ := hprep.exists_reached hp s
      have hinside : ∀ name, m ≠ l ++ [name] := by
        rintro name rfl
        exact hne (List.dropLast_concat ..)
      rw [Tree.file?_congr (h.find?_eq (hinside _) fun t _ => hinside _)]
      exact hprep.toCleaned.file?_of_outside hne hup

namespace Reached

variable {r : Report} {listed types : List TypeSummary} {c : Cleanup}
  {g : TypeSummary → Except ModelError SourceFile}

theorem find?_of_stale (h : Reached j s d r l listed types c g) {name : String}
    (hs : isStale (modelStems types) name = true) :
    (j.run s d).disk.tree.find? (l ++ [name]) = c.disk.tree.find? (l ++ [name]) := by
  refine h.find?_eq (fun he => ?_) fun t ht he => ?_
  · obtain rfl := (List.cons.inj (List.append_cancel_left he)).1
    simp [isStale_registryFileName] at hs
  · obtain rfl := (List.cons.inj (List.append_cancel_left he)).1
    simp [isStale_modelFileName ht] at hs

/-- A stale file is gone after the run, unless the disk refused to remove it. -/
theorem file?_run_of_stale (h : Reached j s d r l listed types c g) {name : String}
    (hname : Path.IsName name) (hs : isStale (modelStems types) name = true)
    (hrefused :
      refusal? (d.makeDirectory j.directory).1 j.directory (modelStems types) name = none) :
    (j.run s d).disk.tree.file? (l ++ [name]) = none := by
  rw [Tree.file?_congr (h.find?_of_stale hs)]
  exact h.file?_of_stale hname (fun _ => hrefused) hs

end Reached

end TypedContent.Sync
