import TypedContent.Proofs.Sync.Questions

/-!
# What a run asks of its client

Whatever the schedule, each exchange of a run is one with the client of the job: what was asked of
the network is what the client asks there on some disk.  `ofClient_step` says so of one turn of a
fan-out, `ofClient_run` of a whole run.
-/

namespace TypedContent.Sync

open Files Schema

/-- The request of the exchange is the one that the client makes for its question. -/
def Exchange.OfClient (x : Exchange) (c : Client) : Prop :=
  ∃ d, x.request = (c.answer d x.question).request

namespace FanOut

variable {w : Work} {f : FanOut}

/-- One turn adds no exchange but one with the client. -/
theorem ofClient_step (h : ∀ x ∈ f.exchanges, x.OfClient w.client) (turn : Turn) :
    ∀ x ∈ (f.step w turn).exchanges, x.OfClient w.client := by
  cases turn with
  | registry =>
    simp only [step, stepRegistry]
    split <;> exact h
  | task i =>
    simp only [step]
    cases f.tasks[i]? with
    | none => exact h
    | some t =>
      simp only [stepTask]
      split
      · split
        · intro x hx
          rcases List.mem_append.mp hx with hx | hx
          · exact h x hx
          · rw [List.mem_singleton.mp hx, Exchange.OfClient, generateModel_exchange]
            exact ⟨_, rfl⟩
        · exact h
      · exact h
      · exact h
      · exact h

theorem ofClient_foldl (turns : List Turn) (h : ∀ x ∈ f.exchanges, x.OfClient w.client) :
    ∀ x ∈ (turns.foldl (step w) f).exchanges, x.OfClient w.client := by
  induction turns generalizing f with
  | nil => exact h
  | cons turn turns ih => exact ih (ofClient_step h turn)

theorem ofClient_run (s : Schedule) (d : Disk) (types : List TypeSummary) :
    ∀ x ∈ ((start d types).run w s).exchanges, x.OfClient w.client :=
  ofClient_foldl _ (by simp [start])

end FanOut

namespace Job

variable {j : Job} {s : Schedule} {d : Disk}

theorem exchanges_generate (types : List TypeSummary) (r : Report) :
    (j.generate s types r d).exchanges =
      ((FanOut.start d types).run (j.work types) s).exchanges := rfl

theorem ofClient_replace (types : List TypeSummary) (r : Report) :
    ∀ x ∈ (j.replace s types r d).exchanges, x.OfClient j.client := by
  unfold replace
  simp only
  split
  · simp [aborted]
  · split
    · simp [aborted]
    · split
      · simp
      · rw [exchanges_generate]
        exact FanOut.ofClient_run s _ types

theorem ofClient_survey (r : Report) :
    ∀ x ∈ (j.survey s r d).exchanges, x.OfClient j.client := by
  have hoverview : (fetchOverview j.client d).exchange.OfClient j.client := by
    rw [Exchange.OfClient, fetchOverview_exchange]
    exact ⟨_, rfl⟩
  unfold survey
  simp only
  split
  · simpa using hoverview
  · exact List.forall_mem_cons.mpr ⟨hoverview, ofClient_replace _ r⟩

/-- Each exchange of a run is one with the client of the job. -/
theorem ofClient_run (j : Job) (s : Schedule) (d : Disk) :
    ∀ x ∈ (j.run s d).exchanges, x.OfClient j.client := by
  unfold run
  simp only
  split
  · simp
  · simp
  · exact ofClient_survey _

end Job

end TypedContent.Sync
