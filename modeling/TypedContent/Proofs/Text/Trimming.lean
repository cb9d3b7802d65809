import Mathlib.Data.List.TakeWhile
import TypedContent.Text.Blank

/-!
# Trimming

Blanks around a text make no difference to what trimming leaves of it (`trim_around`), and the text
is what is left with blanks around it (`exists_trim_eq`).  A text that no blank begins or ends is
left as it is (`trim_eq_self`).
-/

namespace TypedContent.Text

/-- There is nothing but blanks in the text. -/
def Blanks (s : List Char) : Prop := ∀ c ∈ s, isBlank c = true

instance (s : List Char) : Decidable (Blanks s) := List.decidableBAll (isBlank · = true) s

variable {s t a b : List Char} {c : Char}

theorem blanks_append : Blanks (a ++ b) ↔ Blanks a ∧ Blanks b := List.forall_mem_append

/-! ## At the left end -/

theorem trimLeft_append (ha : Blanks a) (s : List Char) : trimLeft (a ++ s) = trimLeft s :=
  List.dropWhile_append_of_pos ha

theorem trimLeft_cons (hc : isBlank c = false) (s : List Char) : trimLeft (c :: s) = c :: s :=
  List.dropWhile_cons_of_neg (by simp [hc])

theorem exists_trimLeft_eq (s : List Char) : ∃ a, Blanks a ∧ s = a ++ trimLeft s :=
  ⟨s.takeWhile isBlank, fun _ hc => List.mem_takeWhile_imp hc, List.takeWhile_append_dropWhile.symm⟩

theorem isBlank_of_trimLeft_eq_cons (h : trimLeft s = c :: t) : isBlank c = false := by
  have hhead := List.head?_dropWhile_not isBlank s
  rw [show s.dropWhile isBlank = c :: t from h] at hhead
  simpa using hhead

theorem trimLeft_eq_nil_iff : trimLeft s = [] ↔ Blanks s := List.dropWhile_eq_nil_iff

/-! ## At the right end -/

theorem trimRight_append (front t : List Char) (hc : isBlank c = false) :
    trimRight (front ++ c :: t) = front ++ c :: trimRight t := by
  have hstop : ¬ isBlank c = true := by simp [hc]
  unfold trimRight
  rw [List.reverse_append, List.reverse_cons, List.append_assoc, List.dropWhile_append]
  split
  · next hempty =>
    rw [List.isEmpty_iff.mp hempty, List.singleton_append, List.dropWhile_cons_of_neg hstop]
    simp
  · simp

theorem trimRight_append_blanks (s : List Char) (hb : Blanks b) :
    trimRight (s ++ b) = trimRight s := by
  have hreverse : ∀ c ∈ b.reverse, isBlank c = true := fun c hc => hb c (List.mem_reverse.mp hc)
  rw [trimRight, List.reverse_append, List.dropWhile_append_of_pos hreverse, trimRight]

theorem exists_trimRight_eq (s : List Char) : ∃ b, Blanks b ∧ s = trimRight s ++ b := by
  obtain ⟨a, ha, hs⟩ := exists_trimLeft_eq s.reverse
  refine ⟨a.reverse, fun c hc => ha c (List.mem_reverse.mp hc), ?_⟩
  rw [trimRight, ← List.reverse_append]
  exact List.reverse_eq_iff.mp hs

theorem trimRight_begins (s : List Char) : trimRight s <+: s := by
  obtain ⟨b, -, hs⟩ := exists_trimRight_eq s
  exact ⟨b, hs.symm⟩

/-! ## At both ends -/

theorem trim_blanks_append (ha : Blanks a) (s : List Char) : trim (a ++ s) = trim s := by
  rw [trim, trimLeft_append ha, trim]

theorem trim_append_blanks (s : List Char) (hb : Blanks b) : trim (s ++ b) = trim s := by
  unfold trim
  cases hs : trimLeft s with
  | nil =>
    have hall : Blanks (s ++ b) := blanks_append.mpr ⟨trimLeft_eq_nil_iff.mp hs, hb⟩
    rw [trimLeft_eq_nil_iff.mpr hall]
  | cons c t =>
    obtain ⟨a, ha, hsplit⟩ := exists_trimLeft_eq s
    have hc := isBlank_of_trimLeft_eq_cons hs
    rw [hsplit, hs, List.append_assoc, trimLeft_append ha, List.cons_append, trimLeft_cons hc,
      ← List.cons_append, trimRight_append_blanks _ hb]

theorem trim_around (ha : Blanks a) (hb : Blanks b) (s : List Char) :
    trim (a ++ (s ++ b)) = trim s := by
  rw [trim_blanks_append ha, trim_append_blanks s hb]

theorem trim_of_blanks (ha : Blanks a) : trim a = [] := by
  have h := trim_blanks_append ha []
  rwa [List.append_nil] at h

/-- A character that is no blank stays, with all that is in front of it from the first on. -/
theorem trim_cons (hc : isBlank c = false) (s : List Char) : trim (c :: s) = c :: trimRight s := by
  rw [trim, trimLeft_cons hc]
  exact trimRight_append [] s hc

theorem trim_eq_self {first last : Char} (hfirst : isBlank first = false)
    (hlast : isBlank last = false) (s : List Char) :
    trim (first :: (s ++ [last])) = first :: (s ++ [last]) := by
  rw [trim_cons hfirst, trimRight_append s [] hlast]
  rfl

theorem exists_trim_eq (s : List Char) :
    ∃ a b, Blanks a ∧ Blanks b ∧ s = a ++ (trim s ++ b) := by
  obtain ⟨a, ha, hleft⟩ := exists_trimLeft_eq s
  obtain ⟨b, hb, hright⟩ := exists_trimRight_eq (trimLeft s)
  exact ⟨a, b, ha, hb, hleft.trans (congrArg (a ++ ·) hright)⟩

theorem trim_trimRight (s : List Char) : trim (trimRight s) = trim s := by
  obtain ⟨b, hb, hs⟩ := exists_trimRight_eq s
  calc trim (trimRight s) = trim (trimRight s ++ b) := (trim_append_blanks _ hb).symm
    _ = trim s := by rw [← hs]

theorem isBlank_of_trim_eq_cons (h : trim s = c :: t) : isBlank c = false := by
  cases hs : trimLeft s with
  | nil =>
    rw [trim, hs] at h
    contradiction
  | cons d r =>
    have hd := isBlank_of_trimLeft_eq_cons hs
    rw [trim, hs, show trimRight (d :: r) = d :: trimRight r from trimRight_append [] r hd] at h
    exact (List.cons.inj h).1 ▸ hd

theorem trim_eq_nil_iff : trim s = [] ↔ Blanks s := by
  refine ⟨fun h => ?_, trim_of_blanks⟩
  obtain ⟨a, b, ha, hb, hs⟩ := exists_trim_eq s
  rw [hs, h]
  exact blanks_append.mpr ⟨ha, hb⟩

end TypedContent.Text
