import Mathlib.Algebra.Ring.Parity
import Mathlib.Data.List.DropRight
import Mathlib.Order.Bounds.Basic
import TypedContent.Proofs.TypeScript.Keys
import TypedContent.TypeScript.Registry

/-!
# Where escaped literals end

A quote in a text is escaped if an odd number of backslashes stands right before it, and a literal
ends at the first quote that is not (`LiteralAt`).  Escaping leaves the number of backslashes at the
end of a text even (`even_trailingSlashes`), so it is odd before each quote inside
(`odd_trailingSlashes`), and only the quote that is put behind can end the literal, wherever that
stands (`literalAt_escapeLiteral`).  To escape is to replace twice, the second time in what the
first replacement gave (`toList_escapeLiteral`).  `literals_unbroken` is about both quotes, and
about the keys in the map of every registry.
-/

namespace TypedContent.TypeScript

open Identifier

variable {quote : Char}

/-! ## Literals in a text -/

/-- The number of backslashes at the end of a text. -/
def trailingSlashes (s : List Char) : Nat := (s.rtakeWhile (· = '\\')).length

/-- At this position there is a quote that is not escaped. -/
def ClosesAt (quote : Char) (text : List Char) (i : Nat) : Prop :=
  text[i]? = some quote ∧ ¬ Odd (trailingSlashes (text.take i))

/-- A backslash gives way to the character behind it, whatever that is. -/
def resolveEscapes : List Char → List Char
  | [] => []
  | '\\' :: c :: rest => c :: resolveEscapes rest
  | c :: rest => c :: resolveEscapes rest

/-- The literal that opens at `start` ends at `stop` and stands for `value`. -/
structure LiteralAt (quote : Char) (text : List Char) (start stop : Nat) (value : List Char) :
    Prop where
  opening : text[start]? = some quote
  closing : IsLeast {i | start < i ∧ ClosesAt quote text i} stop
  resolved : resolveEscapes ((text.take stop).drop (start + 1)) = value

theorem closesAt_iff {text : List Char} {i : Nat} : ClosesAt quote text i ↔
    ∃ a b, text = a ++ quote :: b ∧ a.length = i ∧ Even (trailingSlashes a) := by
  unfold ClosesAt
  rw [Nat.not_odd_iff_even]
  constructor
  · rintro ⟨hquote, heven⟩
    obtain ⟨hi, hquote⟩ := List.getElem?_eq_some_iff.mp hquote
    refine ⟨text.take i, text.drop (i + 1), ?_, List.length_take_of_le hi.le, heven⟩
    rw [← hquote, ← List.drop_eq_getElem_cons hi, List.take_append_drop]
  · rintro ⟨a, b, rfl, rfl, heven⟩
    exact ⟨by simp, by rwa [List.take_left]⟩

/-- A text and a place in it determine the literal. -/
theorem LiteralAt.unique {text value value' : List Char} {start stop stop' : Nat}
    (h : LiteralAt quote text start stop value) (h' : LiteralAt quote text start stop' value') :
    stop = stop' ∧ value = value' := by
  obtain rfl : stop = stop' := h.closing.unique h'.closing
  exact ⟨rfl, h.resolved.symm.trans h'.resolved⟩

/-! ## Backslashes in an escaped text -/

theorem trailingSlashes_concat (s : List Char) (c : Char) :
    trailingSlashes (s ++ [c]) = if c = '\\' then trailingSlashes s + 1 else 0 := by
  unfold trailingSlashes
  rw [List.rtakeWhile_concat]
  by_cases hc : c = '\\' <;> simp [hc]

/-- The escape of a backslash adds two, and that of any other character ends with that. -/
theorem even_trailingSlashes_char {s : List Char} (hs : Even (trailingSlashes s))
    (quote c : Char) : Even (trailingSlashes (s ++ escapeLiteralChar quote c)) := by
  by_cases hc : c = '\\'
  · have hadd : s ++ escapeLiteralChar quote c = s ++ ['\\'] ++ ['\\'] := by
      simp [escapeLiteralChar, hc]
    rw [hadd, trailingSlashes_concat, if_pos rfl, trailingSlashes_concat, if_pos rfl]
    exact hs.add even_two
  · obtain ⟨t, ht⟩ : ∃ t, s ++ escapeLiteralChar quote c = t ++ [c] := by
      unfold escapeLiteralChar
      split
      · exact ⟨s ++ ['\\'], by simp⟩
      · exact ⟨s, rfl⟩
    rw [ht, trailingSlashes_concat, if_neg hc]
    exact Even.zero

theorem even_trailingSlashes {s : List Char} (hs : Even (trailingSlashes s)) (quote : Char)
    (cs : List Char) : Even (trailingSlashes (s ++ cs.flatMap (escapeLiteralChar quote))) := by
  induction cs generalizing s with
  | nil => simpa using hs
  | cons c cs ih =>
    rw [List.flatMap_cons, ← List.append_assoc]
    exact ih (even_trailingSlashes_char hs quote c)

/-- In the escape of one character, a quote comes behind a single backslash. -/
theorem eq_slash_of_escapeLiteralChar (hq : quote ≠ '\\') {c : Char} {a b : List Char}
    (h : escapeLiteralChar quote c = a ++ quote :: b) : a = ['\\'] := by
  unfold escapeLiteralChar at h
  split at h
  · match a, h with
    | [], h => exact absurd (List.cons.inj h).1.symm hq
    | [d], h => rw [(List.cons.inj h).1]
    | _ :: _ :: _, h => simp at h
  · next hc =>
    match a, h with
    | [], h => exact absurd (.inr (List.cons.inj h).1) hc
    | _ :: _, h => simp at h

/-- Every quote in an escaped text is escaped. -/
theorem odd_trailingSlashes (hq : quote ≠ '\\') {s : List Char} (hs : Even (trailingSlashes s))
    {cs a b : List Char} (h : cs.flatMap (escapeLiteralChar quote) = a ++ quote :: b) :
    Odd (trailingSlashes (s ++ a)) := by
  induction cs generalizing s a with
  | nil => simp at h
  | cons c cs ih =>
    -- The quote stands behind the escape of `c`, or in it.
    rw [List.flatMap_cons] at h
    have hc := even_trailingSlashes_char hs quote c
    rcases List.append_eq_append_iff.mp h with ⟨a, rfl, hrest⟩ | ⟨d, he, hrest⟩
    · rw [← List.append_assoc]
      exact ih hc hrest
    · cases d with
      | nil =>
        have hbehind := ih hc (a := []) hrest.symm
        rwa [he, List.append_nil, List.append_nil] at hbehind
      | cons d ds =>
        obtain ⟨rfl, -⟩ := List.cons.inj hrest
        obtain rfl := eq_slash_of_escapeLiteralChar hq he
        rw [trailingSlashes_concat, if_pos rfl]
        exact hs.add_one

theorem resolveEscapes_escapeLiteralChar (c : Char) (s : List Char) :
    resolveEscapes (escapeLiteralChar quote c ++ s) = c :: resolveEscapes s := by
  unfold escapeLiteralChar
  split
  · rfl
  · next hc =>
    obtain ⟨hslash, -⟩ := not_or.mp hc
    simp [resolveEscapes, hslash]

theorem resolveEscapes_flatMap (quote : Char) (cs : List Char) :
    resolveEscapes (cs.flatMap (escapeLiteralChar quote)) = cs := by
  induction cs with
  | nil => rfl
  | cons c cs ih => rw [List.flatMap_cons, resolveEscapes_escapeLiteralChar, ih]

/-! ## Escaped literals -/

/-- No quote in an escaped text behind an opening quote can close it. -/
theorem length_le_of_closes (hq : quote ≠ '\\') {opening : List Char}
    (ho : Even (trailingSlashes opening)) (cs : List Char) {a b rest : List Char}
    (h : opening ++ cs.flatMap (escapeLiteralChar quote) ++ quote :: rest = a ++ quote :: b)
    (hlength : opening.length ≤ a.length) (ha : Even (trailingSlashes a)) :
    (opening ++ cs.flatMap (escapeLiteralChar quote)).length ≤ a.length := by
  rw [List.append_assoc] at h
  have hprefix : a <+: opening ++ (cs.flatMap (escapeLiteralChar quote) ++ quote :: rest) := by
    rw [h]
    exact List.prefix_append a _
  obtain ⟨a, rfl⟩ := List.prefix_of_prefix_length_le (List.prefix_append opening _) hprefix hlength
  rw [List.append_assoc] at h
  rcases List.append_eq_append_iff.mp (List.append_cancel_left h) with
    ⟨c, rfl, -⟩ | ⟨c, hinside, hquote⟩
  · simp
  · cases c with
    | nil => rw [hinside, List.append_nil]
    | cons c d =>
      obtain ⟨rfl, -⟩ := List.cons.inj hquote
      exact absurd (odd_trailingSlashes hq ho hinside) (Nat.not_odd_iff_even.mpr ha)

/-- Wherever a text stands that was escaped for its quotes, they are the ends of a literal, and that
stands for the text. -/
theorem literalAt_escapeLiteral (hq : quote ≠ '\\') (s : String) (before rest : List Char) :
    LiteralAt quote (before ++ quote :: ((escapeLiteral quote s).toList ++ quote :: rest))
      before.length (before.length + 1 + (escapeLiteral quote s).toList.length) s.toList := by
  rw [escapeLiteral, String.toList_ofList]
  have htext : before ++ quote :: (s.toList.flatMap (escapeLiteralChar quote) ++ quote :: rest) =
      (before ++ [quote]) ++ s.toList.flatMap (escapeLiteralChar quote) ++ quote :: rest := by
    simp
  have hstart : before.length + 1 = (before ++ [quote]).length := by simp
  -- The opening quote is no backslash, so the count begins anew behind it.
  have hopening : Even (trailingSlashes (before ++ [quote])) := by
    rw [trailingSlashes_concat, if_neg hq]
    exact Even.zero
  constructor
  case opening => simp
  case closing =>
    rw [htext, hstart, ← List.length_append]
    constructor
    · refine ⟨?_, closesAt_iff.mpr ⟨_, rest, rfl, rfl, even_trailingSlashes hopening quote _⟩⟩
      simp
    · rintro i ⟨hi, hclose⟩
      obtain ⟨a, b, ha, rfl, heven⟩ := closesAt_iff.mp hclose
      exact length_le_of_closes hq hopening s.toList ha (hstart ▸ hi) heven
  case resolved =>
    rw [htext, hstart, ← List.length_append, List.take_left, List.drop_left]
    exact resolveEscapes_flatMap quote s.toList

/-! ## Two replacements -/

/-- Every occurrence of a character gives way to a text. -/
def replaceChar (c : Char) (text s : List Char) : List Char :=
  s.flatMap fun d => if d = c then text else [d]

/-- Escaping all at once is to escape the backslashes first, and the quotes in what that gives. -/
theorem toList_escapeLiteral (hq : quote ≠ '\\') (s : String) :
    (escapeLiteral quote s).toList =
      replaceChar quote ['\\', quote] (replaceChar '\\' ['\\', '\\'] s.toList) := by
  unfold escapeLiteral replaceChar
  rw [String.toList_ofList, List.flatMap_assoc]
  refine List.flatMap_congr fun c _ => ?_
  unfold escapeLiteralChar
  by_cases hc : c = '\\'
  · simp [hc, hq.symm]
  · by_cases hcq : c = quote <;> simp [hc, hcq, hq]

/-! ## The literals of generated files -/

/-- What `escape` gives can stand between two of these quotes. -/
structure Unbroken (quote : Char) (escape : String → String) : Prop where
  replaced (s : String) : (escape s).toList =
    replaceChar quote ['\\', quote] (replaceChar '\\' ['\\', '\\'] s.toList)
  /-- The quote behind it is the first that is not escaped. -/
  literalAt (s : String) (before rest : List Char) :
    LiteralAt quote (before ++ quote :: ((escape s).toList ++ quote :: rest))
      before.length (before.length + 1 + (escape s).toList.length) s.toList
  /-- A reader that knows all escapes of the language, and takes line ends as they come, reads the
  same. -/
  read (s : String) (rest : List Char) :
    readString true quote ((escape s).toList ++ quote :: rest) = some (units s.toList, rest)
  injective : Function.Injective escape

theorem unbroken_escapeLiteral (hq : quote = '\'' ∨ quote = '"') :
    Unbroken quote (escapeLiteral quote) := by
  have hslash : quote ≠ '\\' := by rcases hq with rfl | rfl <;> decide
  constructor
  case replaced => exact toList_escapeLiteral hslash
  case literalAt => exact literalAt_escapeLiteral hslash
  case read =>
    intro s rest
    rw [readString_escapeLiteral hq, if_pos (by simp [stands])]
  case injective =>
    intro s t h
    have hs := literalAt_escapeLiteral hslash s [] []
    rw [h] at hs
    exact String.toList_injective (hs.unique (literalAt_escapeLiteral hslash t [] [])).2

/-- What stands behind the key in a row of the map. -/
def behindKey (name : String) : String :=
  ": \x7bdataModel: '" ++ dataName name ++ "',instanceModel: '" ++ typeName name ++ "'\x7d,"

/-- The row's key opens behind four blanks, and stands for the name that the rest is about. -/
def SpellsKey (name row : String) : Prop :=
  ∃ stop, LiteralAt '\'' row.toList 4 stop name.toList ∧
    row.toList.drop (stop + 1) = (behindKey name).toList

theorem toList_mapLine (name : String) : (mapLine name).toList = "    ".toList ++ '\'' ::
    ((escapeLiteral '\'' name).toList ++ '\'' :: (behindKey name).toList) := by
  have hopening : "    '".toList = "    ".toList ++ ['\''] := by decide
  have hclosing : "': \x7bdataModel: '".toList = '\'' :: ": \x7bdataModel: '".toList := by decide
  unfold mapLine behindKey
  simp only [String.toList_append, List.append_assoc, hopening, hclosing, List.cons_append,
    List.nil_append]

theorem spellsKey_mapLine (name : String) : SpellsKey name (mapLine name) := by
  have hslash : '\'' ≠ '\\' := by decide
  have hlength : "    ".toList.length = 4 := by simp
  have hliteral := literalAt_escapeLiteral hslash name "    ".toList (behindKey name).toList
  rw [← toList_mapLine, hlength] at hliteral
  refine ⟨_, hliteral, ?_⟩
  have hfront : "    ".toList ++ ['\''] ++ (escapeLiteral '\'' name).toList ++ ['\''] ++
      (behindKey name).toList = (mapLine name).toList := by
    rw [toList_mapLine]
    simp only [List.append_assoc, List.cons_append, List.nil_append]
  rw [← hfront]
  refine List.drop_left' ?_
  simp only [List.length_append, hlength, List.length_singleton]

theorem eq_of_spellsKey {m n row : String} (hm : SpellsKey m row) (hn : SpellsKey n row) :
    m = n := by
  obtain ⟨_, hm, -⟩ := hm
  obtain ⟨_, hn, -⟩ := hn
  exact String.toList_injective (hm.unique hn).2

/-- For both quotes, no text breaks out of the literal that it is escaped for, and two texts give
two literals.  So it is with the keys of the map: its rows stand for the types one by one. -/
theorem literals_unbroken (hq : quote = '\'' ∨ quote = '"') :
    Unbroken quote (escapeLiteral quote) ∧
      (∀ names, List.Forall₂ SpellsKey (distinct names) (mapLines names).tail.dropLast) ∧
      Function.Injective mapLine := by
  refine ⟨unbroken_escapeLiteral hq, fun names => ?_, fun m n h => ?_⟩
  · have hrows : (mapLines names).tail.dropLast = (distinct names).map mapLine := by
      simp [mapLines]
    rw [hrows, List.forall₂_map_right_iff, List.forall₂_same]
    exact fun name _ => spellsKey_mapLine name
  · have hn := spellsKey_mapLine n
    rw [← h] at hn
    exact eq_of_spellsKey (spellsKey_mapLine m) hn

/-- A quote behind two backslashes, and a backslash at the end. -/
def slashedName : String := "\\\\'\\"

theorem literals_unbroken_slashed :
    ('\'' = '\'' ∨ '\'' = '"') ∧
      LiteralAt '\'' "'\\\\\\\\\\'\\\\'".toList 0 9 slashedName.toList ∧
      List.Forall₂ SpellsKey [slashedName, "It's"]
        (mapLines [slashedName, "It's", slashedName]).tail.dropLast := by
  have hquote : '\'' = '\'' ∨ '\'' = '"' := .inl rfl
  obtain ⟨hunbroken, hkeys, -⟩ := literals_unbroken hquote
  refine ⟨hquote, ?_, ?_⟩
  · have hliteral := hunbroken.literalAt slashedName [] []
    have htext : [] ++ '\'' :: ((escapeLiteral '\'' slashedName).toList ++ ['\'']) =
        "'\\\\\\\\\\'\\\\'".toList := by decide +kernel
    have hstop : ([] : List Char).length + 1 +
        (escapeLiteral '\'' slashedName).toList.length = 9 := by decide +kernel
    rwa [htext, hstop] at hliteral
  · have hnames : distinct [slashedName, "It's", slashedName] = [slashedName, "It's"] := by
      decide +kernel
    have hrows := hkeys [slashedName, "It's", slashedName]
    rwa [hnames] at hrows

end TypedContent.TypeScript
