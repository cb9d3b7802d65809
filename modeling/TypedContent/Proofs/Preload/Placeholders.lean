import Mathlib.Data.List.TakeWhile
import TypedContent.Preload.Placeholder

/-!
# Placeholders of a text

* `parse?_eq_some_iff`: what is read at the start of a text is a placeholder as it is written there;
* `find?_eq_some_iff`: the first placeholder is one that stands in the text, and none starts before;
* `find?_leftmost`: it is the only one at the least index at which one stands, and nothing is found
  only in a text that holds none;
* `scan` goes on behind each placeholder, so that none overlap, and `scan_replace` says what is left
  of them when an inert text takes the place of the first one: all others, where they were.
-/

namespace TypedContent.Preload.Placeholder

/-! ## Reading one placeholder -/

/-- Nothing in the text ends an argument. -/
def IsArgument (s : String) : Prop := ∀ c ∈ s.toList, isArgumentChar c = true

instance (s : String) : Decidable (IsArgument s) :=
  decidable_of_iff (s.toList.all isArgumentChar = true) List.all_eq_true

/-- A placeholder that can stand in a source. -/
structure IsWritten (a : Placeholder) : Prop where
  path : IsArgument a.path
  target : IsArgument a.target
  base : IsArgument a.base

theorem isArgument_argument (s : List Char) : IsArgument (argument s).1 := by
  intro c hc
  rw [argument, String.toList_ofList] at hc
  exact List.mem_takeWhile_imp hc

/-- An argument ends at the quote behind it. -/
theorem argument_append_quote {s : String} (h : IsArgument s) (t : List Char) :
    argument (s.toList ++ '"' :: t) = (s, '"' :: t) := by
  have htake : (s.toList ++ '"' :: t).takeWhile isArgumentChar = s.toList := by
    rw [List.takeWhile_append_of_pos h, List.takeWhile_cons_of_neg (by decide), List.append_nil]
  have hdrop : (s.toList ++ '"' :: t).dropWhile isArgumentChar = '"' :: t := by
    rw [List.dropWhile_append_of_pos h, List.dropWhile_cons_of_neg (by decide)]
  rw [argument, htake, hdrop, String.ofList_toList]

theorem parse?_text {a : Placeholder} (h : a.IsWritten) (rest : List Char) :
    parse? (a.text ++ rest) = some (a, rest) := by
  have hpath : ∀ t, argument (a.path.toList ++ (between ++ t)) = (a.path, between ++ t) :=
    fun t => argument_append_quote h.path _
  have htarget : ∀ t, argument (a.target.toList ++ (between ++ t)) = (a.target, between ++ t) :=
    fun t => argument_append_quote h.target _
  have hbase : ∀ t, argument (a.base.toList ++ (closing ++ t)) = (a.base, closing ++ t) :=
    fun t => argument_append_quote h.base _
  simp only [parse?, text, List.append_assoc, skip_append, Option.bind_eq_bind, Option.bind_some,
    hpath, htarget, hbase, Option.pure_def]

theorem eq_text_of_parse? {s rest : List Char} {a : Placeholder} (h : parse? s = some (a, rest)) :
    s = a.text ++ rest ∧ a.IsWritten := by
  simp only [parse?, Option.bind_eq_bind, Option.bind_eq_some_iff, Option.pure_def,
    Option.some.injEq, Prod.mk.injEq] at h
  obtain ⟨s₁, h₁, s₂, h₂, s₃, h₃, s₄, h₄, rfl, rfl⟩ := h
  refine ⟨?_, isArgument_argument s₁, isArgument_argument s₂, isArgument_argument s₃⟩
  calc s = opening ++ s₁ := eq_append_of_skip h₁
    _ = opening ++ ((argument s₁).1.toList ++ (between ++ s₂)) := by
      rw [← eq_append_of_skip h₂, argument_append]
    _ = opening ++ ((argument s₁).1.toList ++ (between ++ ((argument s₂).1.toList ++
        (between ++ s₃)))) := by
      rw [← eq_append_of_skip h₃, argument_append]
    _ = opening ++ ((argument s₁).1.toList ++ (between ++ ((argument s₂).1.toList ++
        (between ++ ((argument s₃).1.toList ++ (closing ++ s₄)))))) := by
      rw [← eq_append_of_skip h₄, argument_append]
    _ = text ⟨(argument s₁).1, (argument s₂).1, (argument s₃).1⟩ ++ s₄ := by
      simp only [text, List.append_assoc]

theorem parse?_eq_some_iff {s rest : List Char} {a : Placeholder} :
    parse? s = some (a, rest) ↔ s = a.text ++ rest ∧ a.IsWritten :=
  ⟨eq_text_of_parse?, fun h => h.1 ▸ parse?_text h.2 rest⟩

theorem closing_eq : closing = ['"', ')'] := rfl

theorem getLast?_text (a : Placeholder) : a.text.getLast? = some ')' := by
  rw [text, closing_eq, List.getLast?_append]
  rfl

theorem text_ne_nil (a : Placeholder) : a.text ≠ [] := by
  intro h
  have hlast := getLast?_text a
  rw [h] at hlast
  contradiction

theorem IsArgument.newline_not_mem {s : String} (h : IsArgument s) : '\n' ∉ s.toList :=
  fun hm => absurd (h _ hm) (by decide)

theorem IsArgument.quote_not_mem {s : String} (h : IsArgument s) : '"' ∉ s.toList :=
  fun hm => absurd (h _ hm) (by decide)

namespace IsWritten

variable {a : Placeholder}

/-- A placeholder stands in one line. -/
theorem newline_not_mem (h : a.IsWritten) : '\n' ∉ a.text := by
  have hopening : '\n' ∉ opening := by decide
  have hbetween : '\n' ∉ between := by decide
  have hclosing : '\n' ∉ closing := by decide
  simp only [text, List.mem_append, h.path.newline_not_mem, h.target.newline_not_mem,
    h.base.newline_not_mem, hopening, hbetween, hclosing, or_self, not_false_eq_true]

theorem count_quote (h : a.IsWritten) : a.text.count '"' = 6 := by
  have hopening : opening.count '"' = 1 := by decide
  have hbetween : between.count '"' = 2 := by decide
  have hclosing : closing.count '"' = 1 := by decide
  simp only [text, List.count_append, List.count_eq_zero.mpr h.path.quote_not_mem,
    List.count_eq_zero.mpr h.target.quote_not_mem, List.count_eq_zero.mpr h.base.quote_not_mem,
    hopening, hbetween, hclosing]

end IsWritten

/-! ## Finding the first one -/

/-- No placeholder starts in the text `x` when `s` follows it. -/
def NoneStarts (x s : List Char) : Prop := ∀ w, w ≠ [] → w <:+ x → parse? (w ++ s) = none

theorem noneStarts_nil (s : List Char) : NoneStarts [] s :=
  fun _ hne hw => absurd (List.suffix_nil.mp hw) hne

theorem noneStarts_cons {c : Char} {x s : List Char} :
    NoneStarts (c :: x) s ↔ parse? (c :: (x ++ s)) = none ∧ NoneStarts x s := by
  constructor
  · intro h
    exact ⟨h (c :: x) (by simp) (List.suffix_refl _),
      fun w hne hw => h w hne (hw.trans (List.suffix_cons c x))⟩
  · rintro ⟨hc, hx⟩ w hne hw
    rcases List.suffix_cons_iff.mp hw with rfl | hw
    · exact hc
    · exact hx w hne hw

theorem noneStarts_append {x y s : List Char} (hx : NoneStarts x (y ++ s)) (hy : NoneStarts y s) :
    NoneStarts (x ++ y) s := by
  induction x with
  | nil => exact hy
  | cons c x ih =>
    obtain ⟨hc, hx⟩ := noneStarts_cons.mp hx
    rw [List.cons_append]
    refine noneStarts_cons.mpr ⟨?_, ih hx⟩
    rwa [List.append_assoc]

/-- A text in which no placeholder starts is passed over. -/
theorem find?_append {x s : List Char} (h : NoneStarts x s) :
    find? (x ++ s) = (find? s).map fun (before, a, rest) => (x ++ before, a, rest) := by
  induction x with
  | nil => simp
  | cons c x ih =>
    obtain ⟨hc, hx⟩ := noneStarts_cons.mp h
    rw [List.cons_append, find?, hc, ih hx, Option.map_map]
    rfl

theorem find?_eq_none_iff {s : List Char} : find? s = none ↔ NoneStarts s [] := by
  induction s with
  | nil => simp [find?, noneStarts_nil]
  | cons c s ih =>
    rw [noneStarts_cons, List.append_nil, ← ih, find?]
    cases parse? (c :: s) <;> simp

theorem find?_text {a : Placeholder} (h : a.IsWritten) (rest : List Char) :
    find? (a.text ++ rest) = some ([], a, rest) := by
  have hp := parse?_text h rest
  cases hs : a.text ++ rest with
  | nil => exact absurd hs (by simp [text_ne_nil])
  | cons c s =>
    rw [hs] at hp
    rw [find?, hp]

theorem find?_eq_some_iff {s before rest : List Char} {a : Placeholder} :
    find? s = some (before, a, rest) ↔
      s = before ++ (a.text ++ rest) ∧ a.IsWritten ∧ NoneStarts before (a.text ++ rest) := by
  constructor
  · intro h
    induction s generalizing before with
    | nil => simp [find?] at h
    | cons c s ih =>
      rw [find?] at h
      cases hp : parse? (c :: s) with
      | some x =>
        simp only [hp, Option.some.injEq, Prod.mk.injEq] at h
        obtain ⟨rfl, rfl, rfl⟩ := h
        obtain ⟨hs, hwritten⟩ := eq_text_of_parse? hp
        exact ⟨hs, hwritten, noneStarts_nil _⟩
      | none =>
        simp only [hp, Option.map_eq_some_iff, Prod.exists, Prod.mk.injEq] at h
        obtain ⟨before, _, _, hs, rfl, rfl, rfl⟩ := h
        obtain ⟨rfl, hwritten, hnone⟩ := ih hs
        exact ⟨rfl, hwritten, noneStarts_cons.mpr ⟨hp, hnone⟩⟩
  · rintro ⟨rfl, hwritten, hnone⟩
    rw [find?_append hnone, find?_text hwritten]
    simp

theorem length_lt_of_find? {s before rest : List Char} {a : Placeholder}
    (h : find? s = some (before, a, rest)) : rest.length < s.length := by
  have hpos := List.length_pos_iff.mpr (text_ne_nil a)
  rw [(find?_eq_some_iff.mp h).1]
  simp only [List.length_append]
  omega

/-! ## Where the first one stands -/

/-- The placeholder is written in the text from the index on. -/
structure StandsAt (s : List Char) (i : Nat) (a : Placeholder) : Prop where
  written : a.IsWritten
  here : a.text <+: s.drop i

/-- The placeholder is the only one at the index, and none stands at an index before it. -/
structure FirstAt (s : List Char) (i : Nat) (a : Placeholder) : Prop where
  stands : StandsAt s i a
  only (b : Placeholder) : StandsAt s i b → b = a
  least (j : Nat) : j < i → ∀ b, ¬ StandsAt s j b

theorem standsAt_iff {s : List Char} {i : Nat} {a : Placeholder} :
    StandsAt s i a ↔ ∃ rest, parse? (s.drop i) = some (a, rest) := by
  simp only [parse?_eq_some_iff]
  constructor
  · rintro ⟨hwritten, rest, hrest⟩
    exact ⟨rest, hrest.symm, hwritten⟩
  · rintro ⟨rest, hrest, hwritten⟩
    exact ⟨hwritten, rest, hrest.symm⟩

namespace StandsAt

variable {s : List Char} {i : Nat} {a b : Placeholder}

theorem unique (ha : StandsAt s i a) (hb : StandsAt s i b) : b = a := by
  obtain ⟨rest, hrest⟩ := standsAt_iff.mp ha
  obtain ⟨rest', hrest'⟩ := standsAt_iff.mp hb
  rw [hrest] at hrest'
  exact (Prod.mk.inj (Option.some.inj hrest')).1.symm

theorem lt_length (h : StandsAt s i a) : i < s.length := by
  have hpos := List.length_pos_iff.mpr (text_ne_nil a)
  have hle := h.here.length_le
  rw [List.length_drop] at hle
  omega

theorem isInfix (h : StandsAt s i a) : a.text <:+: s :=
  h.here.isInfix.trans (List.drop_suffix i s).isInfix

/-- The text between the two ends of the placeholder is the placeholder as it is written. -/
theorem extract_eq (h : StandsAt s i a) : s.extract i (i + a.text.length) = a.text := by
  rw [List.extract_eq_take_drop, Nat.add_sub_cancel_left]
  exact (List.prefix_iff_eq_take.mp h.here).symm

end StandsAt

theorem exists_standsAt_iff {s : List Char} {a : Placeholder} (ha : a.IsWritten) :
    (∃ i, StandsAt s i a) ↔ a.text <:+: s := by
  constructor
  · rintro ⟨i, h⟩
    exact h.isInfix
  · rintro ⟨front, back, rfl⟩
    refine ⟨front.length, ha, ?_⟩
    rw [List.append_assoc, List.drop_left]
    exact List.prefix_append _ _

theorem noneStarts_iff {x s : List Char} :
    NoneStarts x s ↔ ∀ i < x.length, ∀ a, ¬ StandsAt (x ++ s) i a := by
  constructor
  · intro h i hi a ha
    obtain ⟨rest, hrest⟩ := standsAt_iff.mp ha
    have hne : x.drop i ≠ [] := by simpa using hi
    rw [List.drop_append_of_le_length hi.le, h _ hne (List.drop_suffix i x)] at hrest
    contradiction
  · rintro h w hne ⟨front, rfl⟩
    have hlt : front.length < (front ++ w).length := by
      simpa using List.length_pos_iff.mpr hne
    cases hp : parse? (w ++ s) with
    | none => rfl
    | some found =>
      refine absurd (standsAt_iff.mpr ⟨found.2, ?_⟩) (h front.length hlt found.1)
      rw [List.append_assoc, List.drop_left, hp]

/-- The first placeholder is found where it stands, and nothing is found only if none is written
anywhere in the text. -/
theorem find?_leftmost (s : List Char) :
    (find? s = none ↔ ∀ a : Placeholder, a.IsWritten → ¬ a.text <:+: s) ∧
    ∀ before a rest, find? s = some (before, a, rest) →
      FirstAt s before.length a ∧
      s.extract before.length (before.length + a.text.length) = a.text ∧
      s = before ++ a.text ++ rest := by
  constructor
  · rw [find?_eq_none_iff, noneStarts_iff, List.append_nil]
    constructor
    · intro h a ha hinfix
      obtain ⟨i, hi⟩ := (exists_standsAt_iff ha).mpr hinfix
      exact h i hi.lt_length a hi
    · exact fun h i _ a ha => h a ha.written ha.isInfix
  · intro before a rest hfind
    obtain ⟨hs, hwritten, hnone⟩ := find?_eq_some_iff.mp hfind
    have hstands : StandsAt s before.length a := by
      refine ⟨hwritten, ?_⟩
      rw [hs, List.drop_left]
      exact List.prefix_append _ _
    refine ⟨⟨hstands, fun b hb => hstands.unique hb, ?_⟩, hstands.extract_eq, ?_⟩
    · rw [hs]
      exact noneStarts_iff.mp hnone
    · rw [hs, List.append_assoc]

/-! ## Finding all of them -/

/-- The placeholders of a text from left to right, none overlapping another, each with the text
between it and the one before; and the text behind the last. -/
def scan (s : List Char) : List (List Char × Placeholder) × List Char :=
  match _h : find? s with
  | none => ([], s)
  | some (before, a, rest) => ((before, a) :: (scan rest).1, (scan rest).2)
termination_by s.length
decreasing_by all_goals exact length_lt_of_find? _h

/-- The placeholders that a scan comes upon. -/
def all (s : List Char) : List Placeholder := (scan s).1.map (·.2)

theorem scan_of_find?_none {s : List Char} (h : find? s = none) : scan s = ([], s) := by
  rw [scan]
  split
  · rfl
  · simp_all

theorem scan_of_find?_some {s before rest : List Char} {a : Placeholder}
    (h : find? s = some (before, a, rest)) :
    scan s = ((before, a) :: (scan rest).1, (scan rest).2) := by
  rw [scan]
  split
  · simp_all
  · simp_all

theorem all_of_find?_none {s : List Char} (h : find? s = none) : all s = [] := by
  rw [all, scan_of_find?_none h, List.map_nil]

theorem all_of_find?_some {s before rest : List Char} {a : Placeholder}
    (h : find? s = some (before, a, rest)) : all s = a :: all rest := by
  rw [all, scan_of_find?_some h, List.map_cons, all]

theorem find?_of_scan_nil {s last : List Char} (h : scan s = ([], last)) :
    find? s = none ∧ last = s := by
  cases hs : find? s with
  | none =>
    rw [scan_of_find?_none hs] at h
    exact ⟨rfl, (Prod.mk.inj h).2.symm⟩
  | some found =>
    rw [scan_of_find?_some hs] at h
    simp at h

theorem find?_of_scan_cons {s before last : List Char} {a : Placeholder}
    {found : List (List Char × Placeholder)} (h : scan s = ((before, a) :: found, last)) :
    ∃ rest, find? s = some (before, a, rest) ∧ scan rest = (found, last) := by
  cases hs : find? s with
  | none =>
    rw [scan_of_find?_none hs] at h
    simp at h
  | some x =>
    obtain ⟨before', a', rest⟩ := x
    rw [scan_of_find?_some hs] at h
    simp only [Prod.mk.injEq, List.cons.injEq] at h
    obtain ⟨⟨⟨rfl, rfl⟩, rfl⟩, rfl⟩ := h
    exact ⟨rest, rfl, rfl⟩

/-- The texts in front of placeholders, each with its placeholder, one behind the other. -/
def unscan (found : List (List Char × Placeholder)) : List Char :=
  found.flatMap fun x => x.1 ++ x.2.text

/-- A scan loses nothing of the text. -/
theorem unscan_scan (s : List Char) : unscan (scan s).1 ++ (scan s).2 = s := by
  induction hn : s.length using Nat.strongRecOn generalizing s with
  | ind n ih =>
    cases hs : find? s with
    | none =>
      rw [scan_of_find?_none hs]
      rfl
    | some x =>
      obtain ⟨before, a, rest⟩ := x
      have hrest := ih rest.length (hn ▸ length_lt_of_find? hs) rest rfl
      calc unscan (scan s).1 ++ (scan s).2
          = before ++ (a.text ++ (unscan (scan rest).1 ++ (scan rest).2)) := by
            rw [scan_of_find?_some hs]
            simp [unscan]
        _ = before ++ (a.text ++ rest) := by rw [hrest]
        _ = s := (find?_eq_some_iff.mp hs).1.symm

/-- What a scan finds when a text stands in front in which no placeholder starts. -/
def behind (x : List Char) :
    List (List Char × Placeholder) × List Char → List (List Char × Placeholder) × List Char
  | ([], last) => ([], x ++ last)
  | ((before, a) :: found, last) => ((x ++ before, a) :: found, last)

theorem behind_map_snd (x : List Char) (found : List (List Char × Placeholder) × List Char) :
    (behind x found).1.map (·.2) = found.1.map (·.2) := by
  obtain ⟨found, last⟩ := found
  cases found <;> rfl

theorem behind_nil (found : List (List Char × Placeholder) × List Char) : behind [] found = found := by
  obtain ⟨found, last⟩ := found
  cases found <;> rfl

theorem unscan_behind (x last : List Char) (found : List (List Char × Placeholder)) :
    unscan (behind x (found, last)).1 ++ (behind x (found, last)).2 =
      x ++ unscan found ++ last := by
  cases found <;> simp [behind, unscan]

theorem scan_append {x s : List Char} (h : NoneStarts x s) : scan (x ++ s) = behind x (scan s) := by
  have hfind := find?_append h
  cases hs : find? s with
  | none =>
    rw [hs] at hfind
    rw [scan_of_find?_none hfind, scan_of_find?_none hs, behind]
  | some found =>
    obtain ⟨before, a, rest⟩ := found
    rw [hs] at hfind
    rw [scan_of_find?_some hfind, scan_of_find?_some hs, behind]

/-! ## Replacing the first one -/

/-- A text that neither holds a placeholder nor has a part in one, whatever stands around it. -/
structure Inert (b : List Char) : Prop where
  inside (t : List Char) : NoneStarts b t
  border {w t rest : List Char} {a : Placeholder} :
    parse? (w ++ (b ++ t)) = some (a, rest) → a.text <+: w

/-- Where no placeholder starts before the first one, none starts before what takes its place. -/
theorem Inert.noneStarts {b before rest : List Char} {a : Placeholder} (hb : Inert b)
    (h : NoneStarts before (a.text ++ rest)) : NoneStarts before (b ++ rest) := by
  intro w hne hw
  cases hp : parse? (w ++ (b ++ rest)) with
  | none => rfl
  | some found =>
    obtain ⟨a', rest'⟩ := found
    obtain ⟨v, rfl⟩ := hb.border hp
    have hwritten := (eq_text_of_parse? hp).2
    have hstarts := h _ hne hw
    rw [List.append_assoc, parse?_text hwritten] at hstarts
    contradiction

/-- Behind an inert text in the place of the first placeholder a scan comes upon all the others, and
upon no more. -/
theorem scan_replace {s before rest b : List Char} {a : Placeholder} (hb : Inert b)
    (h : find? s = some (before, a, rest)) :
    scan (before ++ b ++ rest) = behind (before ++ b) (scan rest) :=
  scan_append (noneStarts_append (hb.noneStarts (find?_eq_some_iff.mp h).2.2) (hb.inside rest))

end TypedContent.Preload.Placeholder
