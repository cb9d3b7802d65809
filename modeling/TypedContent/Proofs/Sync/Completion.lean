import TypedContent.Sync.FanOut

/-!
# Every schedule comes to an end

Whatever turns a schedule takes, and in whichever order, `FanOut.run` finishes all tasks and writes
the registry: `run_isFinished`, `run_registry`.  The invariant of the first closing round is that no
task that had its two turns is running; then a worker is free in the second round, and what holds
there is that every task that had its two turns has finished.
-/

namespace TypedContent.Sync

namespace TaskState

def isFinished : TaskState → Bool
  | .finished _ => true
  | _ => false

/-- What one turn makes of a task, where `free` says whether a worker is free. -/
inductive Advance (free : Prop) : TaskState → TaskState → Prop where
  | start (h : free) (outcome) : Advance free .waiting (.generated outcome)
  | wait (h : ¬ free) : Advance free .waiting .waiting
  | finish (generated outcome) : Advance free (.generated generated) (.finished outcome)
  | stay (outcome) : Advance free (.finished outcome) (.finished outcome)

variable {free free' : Prop} {a b c : TaskState}

theorem Advance.of_waiting (h : Advance free a .waiting) : a = .waiting ∧ ¬ free := by
  cases h with
  | wait h => exact ⟨rfl, h⟩

/-- After two turns a task is not running, unless a worker has become free in between. -/
theorem Advance.not_isRunning (h : Advance free a b) (k : Advance free' b c)
    (hf : b = .waiting → free' → free) : c.isRunning = false := by
  cases h with
  | start h o => cases k; rfl
  | wait h =>
    cases k with
    | start hk o => exact absurd (hf rfl hk) h
    | wait => rfl
  | finish g o => cases k; rfl
  | stay o => cases k; rfl

/-- With a free worker two turns are enough. -/
theorem Advance.isFinished_of_free (h : Advance free a b) (k : Advance free' b c) (hf : free) :
    c.isFinished = true := by
  cases h with
  | start h o => cases k; rfl
  | wait h => exact absurd hf h
  | finish g o => cases k; rfl
  | stay o => cases k; rfl

end TaskState

namespace FanOut

open TaskState

variable {w : Work}

theorem setState_getElem? (f : FanOut) (i : Nat) (s : TaskState) (j : Nat) :
    (f.setState i s).tasks[j]? =
      if i = j then f.tasks[j]?.map fun t => { t with state := s } else f.tasks[j]? := by
  simp only [setState, List.getElem?_modify]
  by_cases h : i = j <;> simp [h]

/-! ## One turn -/

theorem step_registry_tasks (f : FanOut) : (f.step w .registry).tasks = f.tasks := by
  simp only [step, stepRegistry]
  split <;> rfl

/-- A turn of a task changes no other task. -/
theorem step_task_other (f : FanOut) {i j : Nat} (h : i ≠ j) :
    (f.step w (.task i)).tasks[j]? = f.tasks[j]? := by
  have hset : ∀ s, (f.setState i s).tasks[j]? = f.tasks[j]? := by
    intro s
    rw [setState_getElem?, if_neg h]
  simp only [step]
  cases ht : f.tasks[i]? with
  | none => rfl
  | some t =>
    simp only [stepTask]
    split
    · split
      · exact hset _
      · rfl
    · exact hset _
    · exact hset _
    · rfl

/-- A task without number gets no turn. -/
theorem step_task_none (f : FanOut) {i : Nat} (h : f.tasks[i]? = none) :
    f.step w (.task i) = f := by
  simp [step, h]

/-- A turn of a task takes it one step further. -/
theorem step_task_self (f : FanOut) {i : Nat} {t : Task} (h : f.tasks[i]? = some t) :
    ∃ s, (f.step w (.task i)).tasks[i]? = some { t with state := s } ∧
      Advance (f.running < w.workers) t.state s := by
  have hset : ∀ s, (f.setState i s).tasks[i]? = some { t with state := s } := by
    intro s
    rw [setState_getElem?, if_pos rfl, h]
    rfl
  obtain ⟨type, state⟩ := t
  simp only [step, h, stepTask]
  cases state with
  | waiting =>
    by_cases hr : f.running < w.workers
    · exact ⟨_, by simpa [hr] using hset _, .start hr _⟩
    · exact ⟨.waiting, by simpa [hr] using h, .wait hr⟩
  | generated g =>
    cases g with
    | error e => exact ⟨_, hset _, .finish _ _⟩
    | ok file => exact ⟨_, hset _, .finish _ _⟩
  | finished o => exact ⟨_, h, .stay o⟩

theorem step_length (f : FanOut) (x : Turn) : (f.step w x).tasks.length = f.tasks.length := by
  cases x with
  | registry => rw [step_registry_tasks]
  | task i =>
    simp only [step]
    cases ht : f.tasks[i]? with
    | none => rfl
    | some t =>
      simp only [stepTask]
      split
      · split <;> simp [setState]
      · simp [setState]
      · simp [setState]
      · rfl

theorem step_registry_isSome (f : FanOut) : (f.step w .registry).registry.isSome = true := by
  simp only [step, stepRegistry]
  split <;> simp_all

theorem step_keeps_registry (f : FanOut) (x : Turn) (h : f.registry.isSome = true) :
    (f.step w x).registry.isSome = true := by
  cases x with
  | registry => exact step_registry_isSome f
  | task i =>
    simp only [step]
    cases ht : f.tasks[i]? with
    | none => exact h
    | some t =>
      simp only [stepTask]
      split
      · split <;> exact h
      · exact h
      · exact h
      · exact h

/-! ## Two turns for a task -/

/-- The task at `i`, if there is one, has the property. -/
def TaskIs (P : TaskState → Bool) (f : FanOut) (i : Nat) : Prop :=
  ∀ t, f.tasks[i]? = some t → P t.state = true

def notRunning (s : TaskState) : Bool := !s.isRunning

def twice (w : Work) (f : FanOut) (i : Nat) : FanOut := (f.step w (.task i)).step w (.task i)

theorem twice_other (f : FanOut) {i j : Nat} (h : i ≠ j) :
    (twice w f i).tasks[j]? = f.tasks[j]? := by
  rw [twice, step_task_other _ h, step_task_other _ h]

/-- The first turn of a task that stays waiting changes nothing. -/
theorem step_task_waiting (f : FanOut) {i : Nat} {t : Task} (h : f.tasks[i]? = some t)
    (ht : t.state = .waiting) (hr : ¬ f.running < w.workers) : f.step w (.task i) = f := by
  simp [step, h, stepTask, ht, hr]

theorem twice_not_running (f : FanOut) (i : Nat) : TaskIs notRunning (twice w f i) i := by
  intro u hu
  cases ht : f.tasks[i]? with
  | none =>
    rw [twice, step_task_none f ht, step_task_none f ht, ht] at hu
    contradiction
  | some t =>
    obtain ⟨a, ha, hadv⟩ := step_task_self (w := w) f ht
    obtain ⟨b, hb, hadv'⟩ := step_task_self (w := w) _ ha
    rw [twice, hb] at hu
    obtain rfl := Option.some.inj hu
    have hrun : b.isRunning = false := by
      refine hadv.not_isRunning hadv' fun hwait hfree => ?_
      -- The task is waiting after its first turn, so that turn changed nothing.
      obtain ⟨hs, hn⟩ := (hwait ▸ hadv).of_waiting
      rwa [step_task_waiting f ht hs hn] at hfree
    simp [notRunning, hrun]

theorem twice_finished (f : FanOut) (i : Nat) (h : f.running < w.workers) :
    TaskIs isFinished (twice w f i) i := by
  intro u hu
  cases ht : f.tasks[i]? with
  | none =>
    rw [twice, step_task_none f ht, step_task_none f ht, ht] at hu
    contradiction
  | some t =>
    obtain ⟨a, ha, hadv⟩ := step_task_self (w := w) f ht
    obtain ⟨b, hb, hadv'⟩ := step_task_self (w := w) _ ha
    rw [twice, hb] at hu
    obtain rfl := Option.some.inj hu
    exact hadv.isFinished_of_free hadv' h

theorem running_eq_zero (f : FanOut) (h : ∀ i, TaskIs notRunning f i) : f.running = 0 := by
  rw [running, List.length_eq_zero_iff, List.filter_eq_nil_iff]
  intro t ht
  obtain ⟨i, hi⟩ := List.mem_iff_getElem?.mp ht
  simpa [notRunning] using h i t hi

/-! ## Rounds -/

theorem foldl_round (n : Nat) (f : FanOut) :
    (round n).foldl (step w) f = (List.range n).foldl (twice w) f := by
  rw [round, List.foldl_flatMap]
  rfl

/-- Tasks that are not named keep their state. -/
theorem foldl_twice_other (is : List Nat) (f : FanOut) {j : Nat} (h : j ∉ is) :
    (is.foldl (twice w) f).tasks[j]? = f.tasks[j]? := by
  induction is generalizing f with
  | nil => rfl
  | cons i is ih =>
    rw [List.mem_cons, not_or] at h
    rw [List.foldl_cons, ih _ h.2, twice_other f fun e => h.1 e.symm]

theorem foldl_twice_not_running (is : List Nat) (f : FanOut) {j : Nat} (h : j ∈ is) :
    TaskIs notRunning (is.foldl (twice w) f) j := by
  induction is generalizing f with
  | nil => simp at h
  | cons i is ih =>
    by_cases hj : j ∈ is
    · exact ih _ hj
    · obtain rfl : j = i := (List.mem_cons.mp h).resolve_right hj
      intro t ht
      rw [List.foldl_cons, foldl_twice_other is _ hj] at ht
      exact twice_not_running f j t ht

/-- With no task running a worker is free for each task in turn. -/
theorem foldl_twice_finished (hw : 0 < w.workers) (is : List Nat) (f : FanOut)
    (hquiet : ∀ i, TaskIs notRunning f i) {j : Nat} (h : j ∈ is) :
    TaskIs isFinished (is.foldl (twice w) f) j := by
  induction is generalizing f with
  | nil => simp at h
  | cons i is ih =>
    have hfree : f.running < w.workers := by rwa [running_eq_zero f hquiet]
    have hquiet' : ∀ k, TaskIs notRunning (twice w f i) k := by
      intro k
      by_cases hk : i = k
      · subst hk
        exact twice_not_running f i
      · intro t ht
        rw [twice_other f hk] at ht
        exact hquiet k t ht
    by_cases hj : j ∈ is
    · exact ih _ hquiet' hj
    · obtain rfl : j = i := (List.mem_cons.mp h).resolve_right hj
      intro t ht
      rw [List.foldl_cons, foldl_twice_other is _ hj] at ht
      exact twice_finished f j hfree t ht

theorem foldl_step_length (turns : List Turn) (f : FanOut) :
    (turns.foldl (step w) f).tasks.length = f.tasks.length := by
  induction turns generalizing f with
  | nil => rfl
  | cons x xs ih => rw [List.foldl_cons, ih, step_length]

theorem foldl_step_registry (turns : List Turn) (f : FanOut) (h : f.registry.isSome = true) :
    (turns.foldl (step w) f).registry.isSome = true := by
  induction turns generalizing f with
  | nil => exact h
  | cons x xs ih => exact ih _ (step_keeps_registry f x h)

/-! ## Whole runs -/

/-- The registry is written, whatever the schedule. -/
theorem run_registry (s : Schedule) (f : FanOut) : (f.run w s).registry.isSome = true := by
  rw [run, closing, List.foldl_append, List.cons_append, List.foldl_cons]
  exact foldl_step_registry _ _ (step_registry_isSome _)

/-- All tasks finish, whatever the schedule. -/
theorem run_isFinished (hw : 0 < w.workers) (s : Schedule) (f : FanOut) {t : Task}
    (h : t ∈ (f.run w s).tasks) : t.state.isFinished = true := by
  have hlen : (f.run w s).tasks.length = f.tasks.length := foldl_step_length _ f
  obtain ⟨i, hi⟩ := List.mem_iff_getElem?.mp h
  have hlt : i < f.tasks.length := by
    rw [← hlen]
    exact (List.getElem?_eq_some_iff.mp hi).1
  rw [run, closing, List.foldl_append, List.cons_append, List.foldl_cons, List.foldl_append,
    foldl_round, foldl_round] at hi
  generalize hg : (s.turns.foldl (step w) f).step w .registry = g at hi
  have hlen' : g.tasks.length = f.tasks.length := by
    rw [← hg, step_length, foldl_step_length]
  have hquiet : ∀ k, TaskIs notRunning ((List.range f.tasks.length).foldl (twice w) g) k := by
    intro k
    by_cases hk : k ∈ List.range f.tasks.length
    · exact foldl_twice_not_running _ g hk
    · intro u hu
      rw [foldl_twice_other _ g hk] at hu
      have := (List.getElem?_eq_some_iff.mp hu).1
      simp only [List.mem_range] at hk
      omega
  exact foldl_twice_finished hw _ _ hquiet (List.mem_range.mpr hlt) t hi

end FanOut

end TypedContent.Sync
