import Mathlib.Data.List.Basic
import TypedContent.Proofs.Sync.Prelude

/-!
# What a fan-out asks

A task asks about its type when it starts, and never again.  So after every turn the questions asked
so far are those of the tasks that have started: `questions_step` says that one turn keeps this,
`questions_run` what it comes to in the end.
-/

namespace TypedContent.Sync

open Files Schema

/-- The question that a task has asked. -/
def Task.asked? (t : Task) : Option Question :=
  match t.state with
  | .waiting => none
  | _ => some (.type t.type.guid)

theorem Task.asked?_of_isFinished {t : Task} (h : t.state.isFinished = true) :
    t.asked? = some (.type t.type.guid) := by
  obtain ⟨type, state⟩ := t
  cases state with
  | waiting | generated => contradiction
  | finished => rfl

theorem generateModel_exchange (c : Client) (d : Disk) (t : TypeSummary) (names : List String) :
    (generateModel c d t names).exchange =
      ⟨.type t.guid, (c.answer d (.type t.guid)).request⟩ :=
  request_exchange c d _ _

namespace FanOut

variable {w : Work}

/-- The questions asked so far, in the order in which they were asked. -/
def questions (f : FanOut) : List Question := f.exchanges.map (·.question)

/-- The questions asked are those of the tasks that have started. -/
def AskedOnce (f : FanOut) : Prop := f.questions.Perm (f.tasks.filterMap Task.asked?)

/-- A new state of one task, between the tasks before and behind it. -/
theorem exists_setState_tasks (f : FanOut) {i : Nat} {t : Task} (h : f.tasks[i]? = some t)
    (s : TaskState) : ∃ before behind, f.tasks = before ++ t :: behind ∧
      (f.setState i s).tasks = before ++ { t with state := s } :: behind := by
  obtain ⟨hlt, hget⟩ := List.getElem?_eq_some_iff.mp h
  obtain ⟨before, u, behind, htasks, hlen, hmodify⟩ :=
    List.exists_of_modify (fun t : Task => { t with state := s }) hlt
  have hu : u = t := by
    have hmid : f.tasks[i]? = some u := by
      rw [htasks, List.getElem?_append_right (Nat.le_of_eq hlen), hlen, Nat.sub_self]
      rfl
    exact Option.some.inj (hmid.symm.trans h)
  subst hu
  exact ⟨before, behind, htasks, hmodify⟩

/-- A task that goes on has asked before. -/
theorem AskedOnce.setState {f g : FanOut} (h : f.AskedOnce) {i : Nat} {t : Task}
    (ht : f.tasks[i]? = some t) {s : TaskState} (htasks : g.tasks = (f.setState i s).tasks)
    (hquestions : g.questions = f.questions)
    (hs : Task.asked? { t with state := s } = t.asked?) : g.AskedOnce := by
  obtain ⟨before, behind, hf, hset⟩ := f.exists_setState_tasks ht s
  have hsame : g.tasks.filterMap Task.asked? = f.tasks.filterMap Task.asked? := by
    rw [htasks, hset, hf, List.filterMap_append, List.filterMap_append, List.filterMap_cons,
      List.filterMap_cons, hs]
  rw [AskedOnce, hquestions, hsame]
  exact h

/-- A task that starts asks about its type. -/
theorem AskedOnce.start {f g : FanOut} (h : f.AskedOnce) {i : Nat} {t : Task}
    (ht : f.tasks[i]? = some t) (hwait : t.state = .waiting) {o}
    (htasks : g.tasks = (f.setState i (.generated o)).tasks)
    (hquestions : g.questions = f.questions ++ [.type t.type.guid]) : g.AskedOnce := by
  obtain ⟨before, behind, hf, hset⟩ := f.exists_setState_tasks ht (.generated o)
  have hbefore : t.asked? = none := by rw [Task.asked?, hwait]
  have hasked : f.tasks.filterMap Task.asked? =
      before.filterMap Task.asked? ++ behind.filterMap Task.asked? := by
    rw [hf, List.filterMap_append, List.filterMap_cons_none hbefore]
  have hafter : g.tasks.filterMap Task.asked? =
      before.filterMap Task.asked? ++ .type t.type.guid :: behind.filterMap Task.asked? := by
    rw [htasks, hset, List.filterMap_append]
    rfl
  rw [AskedOnce, hquestions, hafter]
  rw [AskedOnce, hasked] at h
  exact (List.perm_append_singleton _ _).trans ((h.cons _).trans List.perm_middle.symm)

theorem questions_step {f : FanOut} (h : f.AskedOnce) : ∀ x, (f.step w x).AskedOnce
  | .registry => by
    have hq : (f.step w .registry).questions = f.questions := by
      simp only [step, stepRegistry]
      split <;> rfl
    rw [AskedOnce, hq, step_registry_tasks]
    exact h
  | .task i => by
    simp only [step]
    cases ht : f.tasks[i]? with
    | none => exact h
    | some t =>
      simp only [stepTask]
      cases hs : t.state with
      | waiting =>
        simp only
        split
        · refine h.start ht hs rfl ?_
          simp [questions, generateModel_exchange]
        · exact h
      | generated o =>
        have hasked : ∀ o', Task.asked? { t with state := .finished o' } = t.asked? := by
          intro o'
          rw [Task.asked?, Task.asked?, hs]
        cases o with
        | error e => exact h.setState ht rfl rfl (hasked _)
        | ok file => exact h.setState ht rfl rfl (hasked _)
      | finished o => exact h

theorem questions_foldl (turns : List Turn) {f : FanOut} (h : f.AskedOnce) :
    (turns.foldl (step w) f).AskedOnce := by
  induction turns generalizing f with
  | nil => exact h
  | cons x turns ih => exact ih (questions_step h x)

theorem askedOnce_start (d : Disk) (types : List TypeSummary) : (start d types).AskedOnce := by
  have hnone : (start d types).tasks.filterMap Task.asked? = [] := by
    rw [List.filterMap_eq_nil_iff]
    intro t ht
    obtain ⟨type, -, rfl⟩ := List.mem_map.mp ht
    rfl
  rw [AskedOnce, hnone]
  exact .nil

/-- In the end every type has been asked about once, whatever the schedule. -/
theorem questions_run (hw : 0 < w.workers) (s : Schedule) (d : Disk) (types : List TypeSummary)
    (htypes : ((start d types).run w s).tasks.map (·.type) = types) :
    ((start d types).run w s).questions.Perm (types.map fun t => .type t.guid) := by
  have hasked := questions_foldl (w := w) (s.turns ++ closing (start d types).tasks.length)
    (askedOnce_start d types)
  have hall : ((start d types).run w s).tasks.filterMap Task.asked? =
      (((start d types).run w s).tasks.map (·.type)).map fun t => .type t.guid := by
    rw [List.map_map]
    refine List.filterMap_eq_map_iff_forall_eq_some.mpr fun t ht => ?_
    exact Task.asked?_of_isFinished (run_isFinished hw s _ ht)
  rw [htypes] at hall
  rw [← hall]
  exact hasked

end FanOut

end TypedContent.Sync
