import TypedContent.Text.Blank
import TypedContent.Text.Lines

/-!
# Cutting texts into lines

A line that has no line end in it and stands between line ends is a line of the text, and the other
lines do not depend on what it is (`splitLines_around`).  Making line ends uniform keeps it where it
is (`uniformLines_around`).
-/

namespace TypedContent.Text

/-- There is no line end in the text. -/
def Inline (s : List Char) : Prop := ∀ c ∈ s, isLineEnd c = false

instance (s : List Char) : Decidable (Inline s) := List.decidableBAll (isLineEnd · = false) s

/-- What is in front of a line is nothing, or ends with a line end. -/
def Before (s : List Char) : Prop := ∀ c, s.getLast? = some c → isLineEnd c = true

/-- What is behind a line is nothing, or begins with a line end. -/
def Behind (s : List Char) : Prop := ∀ c, s.head? = some c → isLineEnd c = true

variable {s t u v l : List Char} {c : Char}

theorem isBlank_of_isLineEnd (h : isLineEnd c = true) : isBlank c = true := by
  simp only [isLineEnd, Bool.or_eq_true, beq_iff_eq] at h
  rcases h with ((((((((rfl | rfl) | rfl) | rfl) | rfl) | rfl) | rfl) | rfl) | rfl) | rfl
  all_goals decide

theorem inline_append : Inline (s ++ t) ↔ Inline s ∧ Inline t := List.forall_mem_append

theorem inline_cons : Inline (c :: s) ↔ isLineEnd c = false ∧ Inline s := List.forall_mem_cons

theorem ne_newline_of_not_isLineEnd (hc : isLineEnd c = false) : c ≠ '\n' ∧ c ≠ '\r' := by
  constructor <;> (rintro rfl; contradiction)

theorem head?_ne_newline (hl : Inline l) (hne : l ≠ []) (s : List Char) :
    (l ++ s).head? ≠ some '\n' := by
  cases l with
  | nil => contradiction
  | cons c l =>
    intro h
    exact (ne_newline_of_not_isLineEnd (hl c List.mem_cons_self)).1 (Option.some.inj h)

theorem Before.tail (h : Before (c :: s)) : Before s := by
  intro d hd
  refine h d ?_
  rw [List.getLast?_cons, hd]
  rfl

theorem Before.cons (h : Before s) (hc : isLineEnd c = true) : Before (c :: s) := by
  intro d hd
  rw [List.getLast?_cons] at hd
  cases hlast : s.getLast? with
  | none =>
    rw [hlast] at hd
    exact Option.some.inj hd ▸ hc
  | some e =>
    rw [hlast] at hd
    exact h d (hlast.trans hd)

/-! ## Uniform line ends -/

theorem uniformLines_return_cons {r : List Char} (h : ∀ r', r ≠ '\n' :: r') :
    uniformLines ('\r' :: r) = '\n' :: uniformLines r := by
  rw [uniformLines]
  exact h

theorem uniformLines_cons (hc : c ≠ '\r') (r : List Char) :
    uniformLines (c :: r) = c :: uniformLines r := by
  rw [uniformLines]
  · exact fun _ h => absurd h hc
  · exact hc

/-- A cut through the uniform text comes from a cut through the text. -/
theorem exists_of_uniformLines_eq_append (h : uniformLines s = u ++ v) :
    ∃ s₁ s₂, s = s₁ ++ s₂ ∧ uniformLines s₁ = u ∧ uniformLines s₂ = v := by
  fun_induction uniformLines s generalizing u with
  | case1 =>
    obtain ⟨rfl, rfl⟩ := List.append_eq_nil_iff.mp h.symm
    exact ⟨[], [], rfl, rfl, rfl⟩
  | case2 r ih =>
    rcases List.append_eq_cons_iff.mp h.symm with ⟨rfl, rfl⟩ | ⟨u, rfl, hu⟩
    · exact ⟨[], '\r' :: '\n' :: r, rfl, rfl, rfl⟩
    · obtain ⟨s₁, s₂, rfl, rfl, rfl⟩ := ih hu
      exact ⟨'\r' :: '\n' :: s₁, s₂, rfl, rfl, rfl⟩
  | case3 r hr ih =>
    rcases List.append_eq_cons_iff.mp h.symm with ⟨rfl, rfl⟩ | ⟨u, rfl, hu⟩
    · exact ⟨[], '\r' :: r, rfl, rfl, uniformLines_return_cons hr⟩
    · obtain ⟨s₁, s₂, rfl, rfl, rfl⟩ := ih hu
      -- A line feed behind the first part would be one behind the carriage return.
      refine ⟨'\r' :: s₁, s₂, rfl, uniformLines_return_cons fun r' he => ?_, rfl⟩
      exact hr (r' ++ s₂) (by rw [he, List.cons_append])
  | case4 c r hc hr ih =>
    rcases List.append_eq_cons_iff.mp h.symm with ⟨rfl, rfl⟩ | ⟨u, rfl, hu⟩
    · exact ⟨[], c :: r, rfl, rfl, uniformLines_cons hr r⟩
    · obtain ⟨s₁, s₂, rfl, rfl, rfl⟩ := ih hu
      exact ⟨c :: s₁, s₂, rfl, uniformLines_cons hr s₁, rfl⟩

/-- Where the uniform text has no line end, it is the text. -/
theorem uniformLines_eq_self (h : '\n' ∉ uniformLines s) : uniformLines s = s := by
  fun_induction uniformLines s with
  | case1 => rfl
  | case2 r ih => exact absurd List.mem_cons_self h
  | case3 r hr ih => exact absurd List.mem_cons_self h
  | case4 c r hc hr ih => rw [ih fun hm => h (List.mem_cons_of_mem c hm)]

/-- A text may be cut anywhere but between the two signs of one line end. -/
theorem uniformLines_append (s : List Char) (ht : t.head? ≠ some '\n') :
    uniformLines (s ++ t) = uniformLines s ++ uniformLines t := by
  fun_induction uniformLines s with
  | case1 => rfl
  | case2 r ih => exact congrArg ('\n' :: ·) ih
  | case3 r hr ih =>
    have hfeed : ∀ r', r ++ t ≠ '\n' :: r' := by
      intro r' h
      cases r with
      | nil => exact ht (by rw [show t = '\n' :: r' from h, List.head?_cons])
      | cons d r => exact hr r (by rw [(List.cons.inj h).1])
    rw [List.cons_append, uniformLines_return_cons hfeed, ih, List.cons_append]
  | case4 c r hc hr ih => rw [List.cons_append, uniformLines_cons hr, ih, List.cons_append]

theorem uniformLines_inline_append (hl : Inline l) (s : List Char) :
    uniformLines (l ++ s) = l ++ uniformLines s := by
  induction l with
  | nil => rfl
  | cons c l ih =>
    obtain ⟨hc, hl⟩ := inline_cons.mp hl
    rw [List.cons_append, uniformLines_cons (ne_newline_of_not_isLineEnd hc).2, ih hl,
      List.cons_append]

theorem uniformLines_ne_nil (hne : s ≠ []) : uniformLines s ≠ [] := by
  unfold uniformLines
  split <;> simp_all

theorem intercalate_cons_cons (l m : List Char) (ls : List (List Char)) :
    ['\n'].intercalate (l :: m :: ls) = l ++ '\n' :: ['\n'].intercalate (m :: ls) := by
  simp

theorem uniformLines_intercalate {ls : List (List Char)} (hls : ∀ l ∈ ls, Inline l) :
    uniformLines (['\n'].intercalate ls) = ['\n'].intercalate ls := by
  induction ls with
  | nil => rfl
  | cons l ls ih =>
    obtain ⟨hl, hls⟩ := List.forall_mem_cons.mp hls
    cases ls with
    | nil =>
      have h := uniformLines_inline_append hl []
      rw [List.append_nil, show uniformLines [] = [] from rfl, List.append_nil] at h
      rwa [List.intercalate_singleton]
    | cons m ls =>
      rw [intercalate_cons_cons, uniformLines_inline_append hl, uniformLines_cons (by decide),
        ih hls]

theorem before_uniformLines (h : Before s) : Before (uniformLines s) := by
  fun_induction uniformLines s with
  | case1 => exact h
  | case2 r ih => exact (ih h.tail.tail).cons (by decide)
  | case3 r hr ih => exact (ih h.tail).cons (by decide)
  | case4 c r hc hr ih =>
    cases r with
    | nil => exact h
    | cons d r =>
      obtain ⟨e, t, ht⟩ := List.exists_cons_of_ne_nil (uniformLines_ne_nil (List.cons_ne_nil d r))
      have hrest := ih h.tail
      rw [ht] at hrest ⊢
      intro x hx
      rw [List.getLast?_cons_cons] at hx
      exact hrest x hx

theorem behind_uniformLines (h : Behind s) : Behind (uniformLines s) := by
  unfold uniformLines
  split
  · exact h
  · exact fun c hc => Option.some.inj hc ▸ rfl
  · exact fun c hc => Option.some.inj hc ▸ rfl
  · exact h

/-- A line of its own stays where it is. -/
theorem uniformLines_around (hl : Inline l) (hne : l ≠ []) :
    uniformLines (s ++ (l ++ t)) = uniformLines s ++ (l ++ uniformLines t) := by
  rw [uniformLines_append s (head?_ne_newline hl hne t), uniformLines_inline_append hl]

/-! ## Single lines -/

/-- What is behind the line end that a text begins with. -/
def behindEnd : List Char → List Char
  | '\r' :: '\n' :: r => r
  | _ :: r => r
  | [] => []

/-- A line end of one sign. -/
theorem splitLines_single (hc : isLineEnd c = true) {r : List Char}
    (hr : ∀ r', c = '\r' → r ≠ '\n' :: r') : splitLines (c :: r) = [] :: splitLines r := by
  rw [splitLines.eq_def]
  split
  · contradiction
  · next h =>
    obtain ⟨rfl, rfl⟩ := List.cons.inj h
    exact absurd rfl (hr _ rfl)
  · next h =>
    obtain ⟨rfl, rfl⟩ := List.cons.inj h
    exact if_pos hc

theorem splitLines_end (hc : isLineEnd c = true) (r : List Char) :
    splitLines (c :: r) = [] :: splitLines (behindEnd (c :: r)) := by
  by_cases hr : ∀ r', c = '\r' → r ≠ '\n' :: r'
  · rw [splitLines_single hc hr, behindEnd]
    exact hr
  · obtain ⟨r', rfl, rfl⟩ : ∃ r', c = '\r' ∧ r = '\n' :: r' := by simpa using hr
    rw [splitLines.eq_def]
    rfl

theorem splitLines_cons (hc : isLineEnd c = false) (r : List Char) :
    splitLines (c :: r) = consLine c (splitLines r) := by
  rw [splitLines.eq_def]
  split
  · contradiction
  · next h =>
    obtain ⟨rfl, rfl⟩ := List.cons.inj h
    contradiction
  · next h =>
    obtain ⟨rfl, rfl⟩ := List.cons.inj h
    simp [hc]

theorem splitLines_ne_nil (hne : s ≠ []) : splitLines s ≠ [] := by
  cases s with
  | nil => contradiction
  | cons c s =>
    cases hc : isLineEnd c with
    | true => simp [splitLines_end hc]
    | false =>
      rw [splitLines_cons hc]
      cases splitLines s <;> simp [consLine]

/-- A line goes up to the next line end. -/
theorem splitLines_inline_append (hl : Inline l) (hne : l ≠ []) (ht : Behind t) :
    splitLines (l ++ t) = l :: splitLines (behindEnd t) := by
  induction l with
  | nil => contradiction
  | cons c l ih =>
    obtain ⟨hc, hl⟩ := inline_cons.mp hl
    rw [List.cons_append, splitLines_cons hc]
    by_cases hempty : l = []
    · subst hempty
      cases t with
      | nil => rfl
      | cons d t =>
        rw [List.nil_append, splitLines_end (ht d rfl)]
        rfl
    · rw [ih hl hempty]
      rfl

theorem splitLines_append_newline (hl : Inline l) (s : List Char) :
    splitLines (l ++ '\n' :: s) = l :: splitLines s := by
  by_cases hne : l = []
  · rw [hne, List.nil_append]
    exact splitLines_end (by decide) s
  · exact splitLines_inline_append hl hne fun c hc => Option.some.inj hc ▸ by decide

theorem splitLines_inline (hl : Inline l) (hne : l ≠ []) : splitLines l = [l] := by
  have h := splitLines_inline_append hl hne (t := []) fun c hc => nomatch hc
  rwa [List.append_nil] at h

/-- Lines with line feeds between them are cut where they were joined.  A last line that is empty
is no line, and makes no difference to what takes nothing from empty lines. -/
theorem filterMap_splitLines_intercalate {α : Type} {f : List Char → Option α} (hf : f [] = none)
    {ls : List (List Char)} (hls : ∀ l ∈ ls, Inline l) :
    (splitLines (['\n'].intercalate ls)).filterMap f = ls.filterMap f := by
  induction ls with
  | nil => rfl
  | cons l ls ih =>
    obtain ⟨hl, hls⟩ := List.forall_mem_cons.mp hls
    cases ls with
    | nil =>
      by_cases hne : l = []
      · rw [hne, List.intercalate_singleton, List.filterMap_cons, hf]
        rfl
      · rw [List.intercalate_singleton, splitLines_inline hl hne]
    | cons m ls =>
      simp only [intercalate_cons_cons, splitLines_append_newline hl, List.filterMap_cons, ih hls]

/-- Where a line ends, a text may be cut. -/
theorem splitLines_append (hs : Before s) (ht : t.head? ≠ some '\n') :
    splitLines (s ++ t) = splitLines s ++ splitLines t := by
  fun_induction splitLines s with
  | case1 => rfl
  | case2 r ih => exact congrArg ([] :: ·) (ih hs.tail.tail)
  | case3 c r hr hc ih =>
    have hfeed : ∀ r', c = '\r' → r ++ t ≠ '\n' :: r' := by
      intro r' he h
      cases r with
      | nil => exact ht (by rw [show t = '\n' :: r' from h, List.head?_cons])
      | cons d r => exact hr r he (by rw [(List.cons.inj h).1])
    rw [List.cons_append, splitLines_single hc hfeed, ih hs.tail, List.cons_append]
  | case4 c r hr hc ih =>
    -- No line end is the last sign, so that there is another one behind it.
    have hne : r ≠ [] := by
      rintro rfl
      exact hc (hs c rfl)
    obtain ⟨l, ls, hsplit⟩ := List.exists_cons_of_ne_nil (splitLines_ne_nil hne)
    rw [List.cons_append, splitLines_cons (by simpa using hc), ih hs.tail, hsplit]
    rfl

/-- A line of its own is a line of the text, whatever it is. -/
theorem splitLines_around (hs : Before s) (ht : Behind t) (hl : Inline l) (hne : l ≠ []) :
    splitLines (s ++ (l ++ t)) = splitLines s ++ l :: splitLines (behindEnd t) := by
  rw [splitLines_append hs (head?_ne_newline hl hne t), splitLines_inline_append hl hne ht]

end TypedContent.Text
