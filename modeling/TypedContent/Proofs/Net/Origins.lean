import Mathlib.Data.List.TakeWhile
import TypedContent.Net.Service
import TypedContent.Proofs.Fallible
import TypedContent.Proofs.Text.Trimming
import TypedContent.Settings.Basic

/-!
# Origins of URLs

An `Origin` is a scheme of the web with a network location that passes all checks.  An address that
was accepted for the server has one (`exists_origin_of_checkServerUrl`), and whatever identifier is
asked for, the URL of the request is put together and has the same (`exists_join`), as has the
target that the request is made to (`exists_target`).
-/

namespace TypedContent.Net

open Url

/-- A scheme is what stands in front of the first character that may not be part of one, if that is
a colon. -/
theorem scheme?_eq_some_iff {s scheme t : List Char} : scheme? s = some (scheme, t) ↔
    ∃ front, s = front ++ ':' :: t ∧ (∀ c ∈ front, isSchemeChar c = true) ∧
      front.head?.any Char.isAlpha = true ∧ scheme = front.map Char.toLower := by
  constructor
  · intro h
    have hs := List.takeWhile_append_dropWhile (p := isSchemeChar) (l := s)
    unfold scheme? at h
    split at h
    · next t' ht' =>
      split at h
      · next halpha =>
        cases h
        rw [ht'] at hs
        refine ⟨s.takeWhile isSchemeChar, hs.symm, fun c => List.mem_takeWhile_imp, ?_, rfl⟩
        cases hfront : s.takeWhile isSchemeChar with
        | nil =>
          rw [← hs, hfront] at halpha
          contradiction
        | cons c r =>
          rw [← hs, hfront] at halpha
          exact halpha
      · contradiction
    · contradiction
  · rintro ⟨front, rfl, hfront, halpha, rfl⟩
    have hcolon : ¬ isSchemeChar ':' = true := by decide
    have hhead : (front ++ ':' :: t).head?.any Char.isAlpha = true := by
      cases front with
      | nil => contradiction
      | cons c r => exact halpha
    rw [scheme?, List.dropWhile_append_of_pos hfront, List.dropWhile_cons_of_neg hcolon]
    simp only [hhead, if_true, List.takeWhile_append_of_pos hfront,
      List.takeWhile_cons_of_neg hcolon, List.append_nil]

/-- Behind its last occurrence, and in front of that. -/
theorem exists_eq_append_behindLast {mark : Char} {s : List Char} (h : mark ∈ s) :
    ∃ front, s = front ++ mark :: behindLast mark s := by
  have hs := List.takeWhile_append_dropWhile (p := (· != mark)) (l := s.reverse)
  have hhead : (s.reverse.dropWhile (· != mark)).head? = s.reverse.find? (· == mark) :=
    (s.reverse.find?_eq_head?_dropWhile_not (· == mark)).symm
  cases hdrop : s.reverse.dropWhile (· != mark) with
  | nil =>
    have hall := List.dropWhile_eq_nil_iff.mp hdrop mark (List.mem_reverse.mpr h)
    simp at hall
  | cons c r =>
    rw [hdrop] at hs hhead
    obtain rfl : c = mark := by simpa using List.find?_some hhead.symm
    refine ⟨r.reverse, ?_⟩
    simpa [behindLast] using (congrArg List.reverse hs).symm

structure Origin where
  scheme : List Char
  netloc : List Char
  web : scheme = ['h', 't', 't', 'p'] ∨ scheme = ['h', 't', 't', 'p', 's']
  named : netloc ≠ []
  bounded : ∀ c ∈ netloc, isDelimiter c = false
  unbroken : ∀ c ∈ netloc, c ≠ '\t' ∧ c ≠ '\r' ∧ c ≠ '\n'
  brackets : checkBrackets netloc = .ok ()
  normal : checkNormalization netloc = .ok ()

namespace Origin

variable {o : Origin} {s rest : List Char}

/-- The URL of an origin, without a path. -/
def chars (o : Origin) : List Char := o.scheme ++ ':' :: '/' :: '/' :: o.netloc

/-- The text is of this origin, behind which stands `rest`. -/
structure Begins (o : Origin) (s rest : List Char) : Prop where
  scheme : scheme? (clean s) = some (o.scheme, '/' :: '/' :: (o.netloc ++ rest))
  behind : ∀ c ∈ rest.head?, isDelimiter c = true

/-- A text of an origin is split into the parts of that. -/
theorem Begins.exists_split (h : o.Begins s rest) (default : List Char) :
    ∃ u, split default s = .ok u ∧ u.scheme = o.scheme ∧ u.netloc = o.netloc := by
  have hnetloc : (o.netloc ++ rest).takeWhile (!isDelimiter ·) = o.netloc := by
    rw [List.takeWhile_append_of_pos fun c hc => by simp [o.bounded c hc]]
    cases hrest : rest with
    | nil => simp
    | cons c r => simp [h.behind c (by simp [hrest])]
  simp only [split, h.scheme, Option.getD_some, hnetloc, o.brackets, o.normal, bind, Except.bind,
    pure, Except.pure]
  exact ⟨_, rfl, rfl, rfl⟩

/-- The scheme and the location of a text that could be split. -/
theorem split_eq_ok {default : List Char} {u : Url} (h : split default s = .ok u) :
    ∃ t, (scheme? (clean s)).getD (default, clean s) = (u.scheme, t) ∧
      (u.netloc = [] ∨ ∃ r, t = '/' :: '/' :: r ∧ u.netloc = r.takeWhile (!isDelimiter ·)) ∧
      checkBrackets u.netloc = .ok () ∧ checkNormalization u.netloc = .ok () := by
  simp only [split] at h
  generalize (scheme? (clean s)).getD (default, clean s) = x at h ⊢
  obtain ⟨scheme, t⟩ := x
  simp only at h
  obtain ⟨⟨⟩, hbrackets, h⟩ := Fallible.exists_of_bind_eq_ok h
  obtain ⟨⟨⟩, hnormal, h⟩ := Fallible.exists_of_bind_eq_ok h
  cases h
  refine ⟨t, rfl, ?_, hbrackets, hnormal⟩
  clear h hbrackets hnormal
  simp only
  split
  · next r => exact .inr ⟨r, rfl, rfl⟩
  · exact .inl rfl

/-- A URL of the web that could be split is of an origin. -/
theorem exists_begins {u : Url} (h : split [] s = .ok u)
    (hweb : u.scheme = ['h', 't', 't', 'p'] ∨ u.scheme = ['h', 't', 't', 'p', 's'])
    (hnamed : u.netloc ≠ []) : ∃ (o : Origin) (rest : List Char), o.Begins s rest := by
  obtain ⟨t, hscheme, hlocation, hbrackets, hnormal⟩ := split_eq_ok h
  obtain ⟨r, rfl, hnetloc⟩ := hlocation.resolve_left hnamed
  have hsome : scheme? (clean s) = some (u.scheme, '/' :: '/' :: r) := by
    cases hs : scheme? (clean s) with
    | none =>
      rw [hs] at hscheme
      obtain ⟨hempty, -⟩ := Prod.mk.inj hscheme
      rcases hweb with hweb | hweb <;> rw [← hempty] at hweb <;> contradiction
    | some x =>
      rw [hs] at hscheme
      exact congrArg some hscheme
  have hmem : ∀ c ∈ u.netloc, c ∈ clean s := fun c hc => by
    rw [hnetloc] at hc
    have hr : c ∈ r := (List.takeWhile_prefix _).subset hc
    obtain ⟨front, hfront, -⟩ := scheme?_eq_some_iff.mp hsome
    simp [hfront, hr]
  let o : Origin :=
    { scheme := u.scheme
      netloc := u.netloc
      web := hweb
      named := hnamed
      bounded := fun c hc => by
        rw [hnetloc] at hc
        simpa using List.mem_takeWhile_imp hc
      unbroken := fun c hc => by
        simpa [and_assoc] using (List.mem_filter.mp (hmem c hc)).2
      brackets := hbrackets
      normal := hnormal }
  refine ⟨o, r.dropWhile (!isDelimiter ·), ?_, fun c hc => ?_⟩
  · rw [hsome, show o.netloc = r.takeWhile (!isDelimiter ·) from hnetloc,
      List.takeWhile_append_dropWhile]
  · exact List.find?_some ((r.find?_eq_head?_dropWhile_not isDelimiter).trans hc)

/-- A slash at its end. -/
theorem Begins.append_slash (h : o.Begins s rest) : o.Begins (s ++ ['/']) (rest ++ ['/']) where
  scheme := by
    have hclean : clean (s ++ ['/']) = clean s ++ ['/'] := by
      unfold clean
      rw [List.dropWhile_append]
      split
      · next hempty => rw [List.isEmpty_iff.mp hempty]; rfl
      · rw [List.filter_append]; rfl
    obtain ⟨front, hfront, hchars, halpha, hscheme⟩ := scheme?_eq_some_iff.mp h.scheme
    refine scheme?_eq_some_iff.mpr ⟨front, ?_, hchars, halpha, hscheme⟩
    rw [hclean, hfront]
    simp
  behind := by
    cases rest with
    | nil => simp [isDelimiter]
    | cons c r => simpa using h.behind

/-- An address that was accepted for the server is of an origin. -/
theorem exists_origin_of_checkServerUrl {g : Settings.Given} {url : String}
    (h : Settings.checkServerUrl g = .ok url) :
    ∃ (o : Origin) (rest : List Char), o.Begins url.toList rest ∧
      url.toList.getLast? = some '/' := by
  unfold Settings.checkServerUrl at h
  simp only at h
  split at h
  · contradiction
  · next text _ =>
    split at h
    · contradiction
    · next u hsplit =>
      split at h
      · next hweb =>
        have hscheme : u.scheme = ['h', 't', 't', 'p'] ∨ u.scheme = ['h', 't', 't', 'p', 's'] :=
          hweb.1.imp (fun he => String.ofList_injective he) fun he => String.ofList_injective he
        obtain ⟨o, rest, hbegins⟩ := exists_begins hsplit hscheme hweb.2
        cases h
        split
        · next hlast => exact ⟨o, rest, hbegins, hlast⟩
        · refine ⟨o, rest ++ ['/'], ?_, ?_⟩
          · rw [String.toList_append]
            exact hbegins.append_slash
          · rw [String.toList_append]
            exact List.getLast?_concat
      · contradiction

theorem scheme_spelled (o : Origin) : (∀ c ∈ o.scheme, isSchemeChar c = true) ∧
    o.scheme.map Char.toLower = o.scheme ∧ o.scheme.head? = some 'h' := by
  have hspelled : o.scheme.all isSchemeChar = true ∧ o.scheme.map Char.toLower = o.scheme ∧
      o.scheme.head? = some 'h' := by
    rcases o.web with h | h <;> rw [h] <;> decide
  exact hspelled.imp_left List.all_eq_true.mp

theorem ne_of_mem_scheme (o : Origin) {c d : Char} (hc : c ∈ o.scheme)
    (hd : isSchemeChar d = false) : c ≠ d := by
  rintro rfl
  exact absurd (o.scheme_spelled.1 c hc) (by simp [hd])

theorem chars_eq_cons (o : Origin) : ∃ t, o.chars = 'h' :: t := by
  obtain ⟨t, ht⟩ := List.head?_eq_some_iff.mp o.scheme_spelled.2.2
  exact ⟨t ++ ':' :: '/' :: '/' :: o.netloc, by rw [chars, ht]; rfl⟩

/-- Nothing that does not count is in the URL of an origin. -/
theorem clean_chars_append (o : Origin) (t : List Char) : ∃ t',
    clean (o.chars ++ '/' :: t) = o.chars ++ '/' :: t' := by
  refine ⟨t.filter fun c => c != '\t' && c != '\r' && c != '\n', ?_⟩
  have hkept : ∀ c ∈ o.chars, (c != '\t' && c != '\r' && c != '\n') = true := by
    intro c hc
    simp only [chars, List.mem_append, List.mem_cons] at hc
    rcases hc with hc | rfl | rfl | rfl | hc
    · have hne := fun d => o.ne_of_mem_scheme hc (d := d)
      simp [hne '\t' rfl, hne '\r' rfl, hne '\n' rfl]
    · decide
    · decide
    · decide
    · simpa [and_assoc] using o.unbroken c hc
  obtain ⟨tail, htail⟩ := o.chars_eq_cons
  have hfront : (o.chars ++ '/' :: t).dropWhile (fun c => decide (c.toNat ≤ 0x20)) =
      o.chars ++ '/' :: t := by
    rw [htail]
    rfl
  rw [clean, hfront, List.filter_append, List.filter_eq_self.mpr hkept]
  rfl

/-- Behind an origin, a path. -/
theorem begins_chars (o : Origin) (t : List Char) :
    ∃ rest, o.Begins (o.chars ++ '/' :: t) ('/' :: rest) := by
  obtain ⟨t', ht'⟩ := o.clean_chars_append t
  obtain ⟨hchars, hlower, hhead⟩ := o.scheme_spelled
  refine ⟨t', ?_, by simp [isDelimiter]⟩
  refine scheme?_eq_some_iff.mpr ⟨o.scheme, ?_, hchars, ?_, hlower.symm⟩
  · rw [ht', chars]
    simp
  · rw [hhead]
    decide

/-- Put together, a URL with a path is its origin with something behind a slash. -/
theorem exists_toChars {u : Url} (hscheme : u.scheme = o.scheme) (hnetloc : u.netloc = o.netloc)
    (hpath : u.path ≠ []) : ∃ t, u.toChars = o.chars ++ '/' :: t := by
  have hlocated : o.netloc.isEmpty = false := by simpa using o.named
  have hnamed : o.scheme.isEmpty = false := by
    rcases o.web with hweb | hweb <;> rw [hweb] <;> rfl
  obtain ⟨p, hp⟩ : ∃ p, rooted u.path = '/' :: p := by
    cases hu : u.path with
    | nil => exact absurd hu hpath
    | cons c r =>
      by_cases hc : c = '/'
      · exact ⟨r, by simp [rooted, hc]⟩
      · exact ⟨c :: r, by simp [rooted, hc]⟩
  simp only [toChars, hscheme, hnetloc, hlocated, hnamed, hp, Bool.not_false, Bool.true_or, if_true,
    Bool.false_eq_true, if_false, chars, List.cons_append, List.append_assoc]
  cases u.query.isEmpty <;> cases u.fragment.isEmpty <;> simp

/-! ### The URL of a request -/

theorem exists_pathFor (guid : String) :
    ∃ t, (pathFor guid).toList = 'a' :: 'p' :: 'i' :: '/' :: t := by
  unfold pathFor
  split
  · exact ⟨_, rfl⟩
  · rw [String.toList_append, String.toList_append]
    exact ⟨_, rfl⟩

/-- The path that is asked for is split into a path, with neither a scheme nor a location. -/
theorem exists_split_pathFor (default : List Char) (guid : String) :
    ∃ u t, split default (pathFor guid).toList = .ok u ∧ u.scheme = default ∧ u.netloc = [] ∧
      u.path = 'a' :: 'p' :: 'i' :: '/' :: t := by
  obtain ⟨t, ht⟩ := exists_pathFor guid
  rw [ht]
  exact ⟨_, _, rfl, rfl, rfl, rfl⟩

/-- Parameters do not make up a whole path. -/
theorem splitParameters_ne_nil {u : Url} {t : List Char}
    (h : u.path = 'a' :: 'p' :: 'i' :: '/' :: t) : (splitParameters u).1 ≠ [] := by
  unfold splitParameters
  split
  · have hslash : '/' ∈ u.path := by simp [h]
    obtain ⟨front, hfront⟩ := exists_eq_append_behindLast hslash
    have hlength : u.path.length - (behindLast '/' u.path).length ≠ 0 := by
      rw [congrArg List.length hfront, List.length_append, List.length_cons]
      omega
    refine List.append_ne_nil_of_left_ne_nil (fun hnil => ?_) _
    exact (List.take_eq_nil_iff.mp hnil).elim hlength (by simp [h])
  · simp [h]

theorem resolvePath_ne_nil (base path : List Char) : resolvePath base path ≠ [] := by
  unfold resolvePath
  simp only
  split
  · simp
  · next h => exact h

/-- Whatever is asked for, the URL of the request is put together and is of the server's origin. -/
theorem Begins.exists_join (h : o.Begins s rest) (guid : String) :
    ∃ t, join s (pathFor guid).toList = .ok (o.chars ++ '/' :: t) := by
  obtain ⟨b, hb, hscheme, hnetloc⟩ := h.exists_split []
  obtain ⟨r, p, hr, hrscheme, hrnetloc, hrpath⟩ := exists_split_pathFor b.scheme guid
  have hs : s ≠ [] := by
    rintro rfl
    exact absurd h.scheme (by simp [clean, scheme?])
  have href : (pathFor guid).toList ≠ [] := by
    obtain ⟨t, ht⟩ := exists_pathFor guid
    simp [ht]
  have hamong : isAmong relativeSchemes r = true ∧ isAmong locatedSchemes r = true := by
    unfold isAmong
    rw [hrscheme, hscheme]
    rcases o.web with hweb | hweb <;> rw [hweb] <;> decide
  have hpath : (splitParameters r).1.isEmpty = false := by
    simpa using splitParameters_ne_nil hrpath
  have hresolved : withParameters (resolvePath (splitParameters b).1 (splitParameters r).1)
      (splitParameters r).2 ≠ [] := by
    unfold withParameters
    split
    · exact resolvePath_ne_nil _ _
    · simp
  obtain ⟨t, ht⟩ := exists_toChars (u := ⟨b.scheme, b.netloc, _, r.query, r.fragment⟩) hscheme
    hnetloc hresolved
  refine ⟨t, ?_⟩
  unfold join
  simp only [List.isEmpty_eq_false_iff.mpr hs, List.isEmpty_eq_false_iff.mpr href, hb, hr, hrscheme,
    hrnetloc, hamong.1, hamong.2, hpath, bind, Except.bind, pure, Except.pure, Bool.false_eq_true,
    if_false, ne_eq, not_true, false_or, Bool.not_true, List.isEmpty_nil, Bool.and_false,
    Bool.false_and, if_true]
  exact congrArg Except.ok ht

/-- Nothing is put around the URL of an origin, but blanks may stand behind it. -/
theorem unwrap_chars (o : Origin) (t : List Char) :
    unwrap (o.chars ++ '/' :: t) = o.chars ++ '/' :: Text.trimRight t := by
  obtain ⟨tail, htail⟩ := o.chars_eq_cons
  have hleft : Text.trimLeft (o.chars ++ '/' :: t) = o.chars ++ '/' :: t := by
    rw [htail]
    rfl
  have htrim : Text.trim (o.chars ++ '/' :: t) = o.chars ++ '/' :: Text.trimRight t := by
    rw [Text.trim, hleft, Text.trimRight_append _ _ (by decide)]
  unfold unwrap
  simp only [htrim]
  rw [htail]
  rfl

theorem isRequestable_chars (o : Origin) (t : List Char) :
    isRequestable (o.chars ++ t) = true := by
  unfold isRequestable chars
  rcases o.web with hweb | hweb
  · rw [hweb]
    rfl
  · rw [hweb]
    rfl

/-- In front of the last mark stands all that has none. -/
theorem take_behindLast {front t : List Char} {mark : Char} (hfront : mark ∉ front)
    (h : mark ∈ front ++ t) : ∃ t', (front ++ t).take
      ((front ++ t).length - (behindLast mark (front ++ t)).length - 1) = front ++ t' := by
  obtain ⟨f, hf⟩ := exists_eq_append_behindLast h
  have htake : (front ++ t).take
      ((front ++ t).length - (behindLast mark (front ++ t)).length - 1) = f := by
    generalize behindLast mark (front ++ t) = last at hf ⊢
    rw [hf]
    refine List.take_left' ?_
    rw [List.length_append, List.length_cons]
    omega
  rw [htake]
  rcases List.append_eq_append_iff.mp hf with ⟨t', rfl, -⟩ | ⟨between, rfl, hbetween⟩
  · exact ⟨t', rfl⟩
  · cases between with
    | nil => exact ⟨[], by simp⟩
    | cons c r =>
      obtain ⟨rfl, -⟩ := List.cons.inj hbetween
      exact absurd (List.mem_append_right f List.mem_cons_self) hfront

theorem hash_not_mem_chars (o : Origin) : '#' ∉ o.chars ++ ['/'] := by
  intro h
  simp only [chars, List.mem_append, List.mem_cons, List.not_mem_nil, or_false] at h
  rcases h with (h | h | h | h | h) | h
  · exact o.ne_of_mem_scheme h rfl rfl
  · contradiction
  · contradiction
  · contradiction
  · exact absurd (o.bounded '#' h) (by decide)
  · contradiction

/-- A request to such a URL can be made. -/
theorem exists_target (o : Origin) (t : List Char) :
    ∃ t', target (o.chars ++ '/' :: t) = .ok (o.chars ++ '/' :: t') := by
  have hsplit (t : List Char) : ∃ u, split [] (o.chars ++ '/' :: t) = .ok u := by
    obtain ⟨rest, hbegins⟩ := o.begins_chars t
    obtain ⟨u, hu, -⟩ := hbegins.exists_split []
    exact ⟨u, hu⟩
  unfold target
  rw [unwrap_chars]
  generalize Text.trimRight t = t
  -- What is left in front of a fragment is as well the origin with a path.
  obtain ⟨t', ht'⟩ : ∃ t', (if (o.chars ++ '/' :: t).contains '#' then
      (o.chars ++ '/' :: t).take ((o.chars ++ '/' :: t).length -
        (behindLast '#' (o.chars ++ '/' :: t)).length - 1) else o.chars ++ '/' :: t) =
      o.chars ++ '/' :: t' := by
    split
    · next h =>
      rw [show o.chars ++ '/' :: t = (o.chars ++ ['/']) ++ t by simp] at h ⊢
      obtain ⟨t', ht'⟩ := take_behindLast o.hash_not_mem_chars (by simpa using h)
      exact ⟨t', by rw [ht']; simp⟩
    · exact ⟨t, rfl⟩
  obtain ⟨shown, hshown⟩ : ∃ t'', (if (behindLast '#' (o.chars ++ '/' :: t)).isEmpty then
      o.chars ++ '/' :: t' else o.chars ++ '/' :: t) = o.chars ++ '/' :: t'' := by
    split
    · exact ⟨t', rfl⟩
    · exact ⟨t, rfl⟩
  obtain ⟨u, hu⟩ := hsplit shown
  exact ⟨shown, by simp only [ht', isRequestable_chars, if_true, hshown, hu]⟩

end Origin

end TypedContent.Net
