import Mathlib.Data.List.TakeWhile
import TypedContent.Json.Reader

/-!
# Integers that are too long

The reader refuses a text for the length of an integer only if the text holds that many digits in a
row (`hasLongInteger_of_readDocument`), wherever else it may be at fault.  Each part of the reader
leaves an end of what it was given, so what it complains of stands in the whole text: `Sound` says
both.
-/

namespace TypedContent.Json

/-- More digits in a row than an integer may have. -/
def HasLongInteger (s : List Char) : Prop :=
  ∃ digits, digits <:+: s ∧ Text.maxDigits < digits.length ∧ ∀ c ∈ digits, c.isDigit = true

theorem HasLongInteger.of_suffix {s t : List Char} (h : HasLongInteger t) (hs : t <:+ s) :
    HasLongInteger s := by
  obtain ⟨digits, hinfix, hlong⟩ := h
  exact ⟨digits, hinfix.trans hs.isInfix, hlong⟩

/-- What was read leaves an end of the text, and a complaint about the length of an integer is
true. -/
def Sound {α : Type} (s : List Char) : Except ReadError (α × Cursor) → Prop
  | .ok (_, k) => k.rest <:+ s
  | .error e => ∀ n, e.fault = .longInteger n → HasLongInteger s

variable {α β : Type} {s t : List Char} {r : Except ReadError (α × Cursor)}

theorem Sound.of_suffix (h : Sound t r) (hs : t <:+ s) : Sound s r := by
  cases r with
  | error e => exact fun n hn => (h n hn).of_suffix hs
  | ok x => exact List.IsSuffix.trans h hs

theorem Sound.map (h : Sound s r) (f : α → β) : Sound s (r.map fun x => (f x.1, x.2)) := by
  cases r with
  | error e => exact h
  | ok x => exact h

theorem Sound.bind {f : α × Cursor → Except ReadError (β × Cursor)} (h : Sound s r)
    (hf : ∀ x k, r = .ok (x, k) → Sound k.rest (f (x, k))) : Sound s (r >>= f) := by
  cases r with
  | error e => exact h
  | ok x => exact (hf x.1 x.2 rfl).of_suffix h

/-- Whatever else is wrong. -/
theorem sound_error {fault : ReadFault} (h : ∀ n, fault ≠ .longInteger n) (position : Nat) :
    Sound (α := α) s (.error ⟨fault, position⟩) := fun n hn => absurd hn (h n)

theorem skipSpace_suffix (position : Nat) (s : List Char) : (skipSpace position s).rest <:+ s := by
  fun_induction skipSpace position s with
  | case1 => exact List.suffix_refl _
  | case2 position c r _ ih => exact ih.trans (List.suffix_cons c r)
  | case3 => exact List.suffix_refl _

theorem sound_readString (start position : Nat) (s : List Char) :
    Sound s (readString start position s) := by
  -- A string is refused, is closed, or goes on behind a character or an escape.
  fun_induction readString start position s
  all_goals first
    | exact sound_error (by simp) _
    | exact List.suffix_cons _ _
    | exact (Sound.map (by assumption) _).of_suffix (by simp [List.suffix_cons_iff])

theorem whole?_eq_some {whole rest : List Char} (h : whole? s = some (whole, rest)) :
    s = whole ++ rest ∧ ∀ c ∈ whole, c.isDigit = true := by
  unfold whole? at h
  split at h
  · cases h
    exact ⟨rfl, by simp⟩
  · next c r _ =>
    split at h
    · next hc =>
      cases h
      have hdigit : c.isDigit = true := by
        have hlow : '0' ≤ c := Char.le_trans (by decide) hc.1
        simpa [Char.isDigit, Char.le_def] using And.intro hlow hc.2
      refine ⟨?_, List.forall_mem_cons.mpr ⟨hdigit, fun d hd => ?_⟩⟩
      · rw [List.cons_append, List.takeWhile_append_dropWhile]
      · exact List.mem_takeWhile_imp hd
    · contradiction
  · contradiction

theorem fraction?_suffix {ds rest : List Char} (h : fraction? s = some (ds, rest)) : rest <:+ s := by
  unfold fraction? at h
  split at h
  · next d r =>
    split at h
    · cases h
      exact (List.dropWhile_suffix _).trans (by simp [List.suffix_cons_iff])
    · contradiction
  · contradiction

theorem exponent?_suffix {e : Bool × List Char} {rest : List Char}
    (h : exponent? s = some (e, rest)) : rest <:+ s := by
  unfold exponent? at h
  split at h
  · next c r =>
    split at h
    · next hc =>
      simp only at h
      split at h
      · contradiction
      · cases h
        refine (List.dropWhile_suffix _).trans ?_
        refine List.IsSuffix.trans ?_ (List.suffix_cons c r)
        split
        · exact List.suffix_cons _ _
        · exact List.suffix_cons _ _
        · exact List.suffix_refl _
    · contradiction
  · contradiction

/-- What is left behind a number, and its digits in front of a fraction or an exponent. -/
theorem literal?_eq_some {l : Literal} {rest : List Char} (h : literal? s = some (l, rest)) :
    rest <:+ s ∧ l.whole <:+: s ∧ ∀ c ∈ l.whole, c.isDigit = true := by
  unfold literal? at h
  obtain ⟨⟨whole, behind⟩, hwhole, h⟩ := Option.map_eq_some_iff.mp h
  obtain ⟨hs, hdigits⟩ := whole?_eq_some hwhole
  have hsign : whole ++ behind <:+ s := by
    rw [← hs]
    split
    · exact List.suffix_cons _ _
    · exact List.suffix_refl s
  cases h
  refine ⟨?_, ?_, hdigits⟩
  · have hbehind : behind <:+ s := (List.suffix_append whole behind).trans hsign
    cases hfraction : fraction? behind with
    | none =>
      simp only
      split
      · next h => exact (exponent?_suffix h).trans hbehind
      · exact hbehind
    | some x =>
      obtain ⟨ds, r⟩ := x
      have hr : r <:+ s := (fraction?_suffix hfraction).trans hbehind
      simp only
      split
      · next h => exact (exponent?_suffix h).trans hr
      · exact hr
  · exact (List.prefix_append whole behind).isInfix.trans hsign.isInfix

theorem sound_readNumber (k : Cursor) : Sound k.rest (readNumber k) := by
  unfold readNumber
  cases h : literal? k.rest with
  | none => exact sound_error (by simp) _
  | some x =>
    obtain ⟨l, rest⟩ := x
    obtain ⟨hrest, hwhole, hdigits⟩ := literal?_eq_some h
    simp only
    unfold Literal.value
    split
    · split
      · next hlong => exact fun n _ => ⟨l.whole, hwhole, hlong, hdigits⟩
      · exact hrest
    · exact hrest

theorem readLiteral?_eq_some {k k' : Cursor} {v : Json} (h : readLiteral? k = some (v, k')) :
    k'.rest <:+ k.rest := by
  obtain ⟨⟨text, w⟩, -, hw⟩ := List.exists_of_findSome?_eq_some h
  simp only at hw
  split at hw
  · cases hw
    exact List.drop_suffix _ _
  · contradiction

mutual

theorem sound_readValue (depth : Nat) (k : Cursor) : Sound k.rest (readValue depth k) := by
  cases depth with
  | zero => exact sound_error (by simp) _
  | succ depth =>
    unfold readValue
    simp only
    split
    · exact sound_error (by simp) _
    · next r hr =>
      rw [hr]
      exact ((sound_readString _ _ r).map fun s => str (String.ofList s)).of_suffix
        (List.suffix_cons _ r)
    · next r hr =>
      rw [hr]
      refine Sound.of_suffix ?_ ((skipSpace_suffix (k.position + 1) r).trans (List.suffix_cons _ r))
      split
      · next r' hr' =>
        rw [hr']
        exact List.suffix_cons _ r'
      · exact sound_readFields depth [] _
    · next r hr =>
      rw [hr]
      refine Sound.of_suffix ?_ ((skipSpace_suffix (k.position + 1) r).trans (List.suffix_cons _ r))
      split
      · next r' hr' =>
        rw [hr']
        exact List.suffix_cons _ r'
      · exact sound_readItems depth [] _
    · split
      · next x hx => exact readLiteral?_eq_some hx
      · exact sound_readNumber k

theorem sound_readItems (depth : Nat) (done : List Json) (k : Cursor) :
    Sound k.rest (readItems depth done k) := by
  cases depth with
  | zero => exact sound_error (by simp) _
  | succ depth =>
    unfold readItems
    refine (sound_readValue depth k).bind fun v k' _ => ?_
    refine Sound.of_suffix ?_ (skipSpace_suffix k'.position k'.rest)
    simp only [Cursor.skipSpace]
    split
    · next r hr =>
      rw [hr]
      exact List.suffix_cons _ r
    · next r hr =>
      rw [hr]
      exact (sound_readItems depth _ _).of_suffix
        ((skipSpace_suffix _ r).trans (List.suffix_cons _ r))
    · exact sound_error (by simp) _

theorem sound_readFields (depth : Nat) (done : List (String × Json)) (k : Cursor) :
    Sound k.rest (readFields depth done k) := by
  cases depth with
  | zero => exact sound_error (by simp) _
  | succ depth =>
    unfold readFields
    simp only
    split
    · next r hr =>
      rw [hr]
      refine Sound.of_suffix ?_ (List.suffix_cons _ r)
      refine (sound_readString k.position (k.position + 1) r).bind fun name k' _ => ?_
      refine Sound.of_suffix ?_ (skipSpace_suffix k'.position k'.rest)
      simp only [Cursor.skipSpace]
      split
      · next r' hr' =>
        rw [hr']
        refine Sound.of_suffix ((sound_readValue depth _).bind fun v k'' _ => ?_)
          ((skipSpace_suffix _ r').trans (List.suffix_cons _ r'))
        refine Sound.of_suffix ?_ (skipSpace_suffix k''.position k''.rest)
        split
        · next r'' hr'' =>
          rw [hr'']
          exact List.suffix_cons _ r''
        · next r'' hr'' =>
          rw [hr'']
          exact (sound_readFields depth _ _).of_suffix
            ((skipSpace_suffix _ r'').trans (List.suffix_cons _ r''))
        · exact sound_error (by simp) _
      · exact sound_error (by simp) _
    · exact sound_error (by simp) _

end

/-- A text that is refused for the length of an integer has so many digits in a row. -/
theorem hasLongInteger_of_readDocument {text : List Char} {e : ReadError} {n : Nat}
    (h : readDocument text = .error e) (hn : e.fault = .longInteger n) : HasLongInteger text := by
  have hsound := (sound_readValue (2 * text.length + 2) (skipSpace 0 text)).of_suffix
    (skipSpace_suffix 0 text)
  unfold readDocument at h
  cases hvalue : readValue (2 * text.length + 2) (skipSpace 0 text) with
  | error e' =>
    rw [hvalue] at h hsound
    cases h
    exact hsound n hn
  | ok x =>
    rw [hvalue] at h
    simp only [bind, Except.bind] at h
    split at h
    · contradiction
    · cases h
      contradiction

theorem hasLongInteger_of_read {text : List Char} {e : ReadError} {n : Nat}
    (h : read text = .error e) (hn : e.fault = .longInteger n) : HasLongInteger text := by
  unfold read at h
  split at h
  · cases h
    contradiction
  · exact hasLongInteger_of_readDocument h hn

end TypedContent.Json
