import TypedContent.Json.Reader
import TypedContent.Proofs.TypeScript.Members

/-!
# The keys of a property

A model spells the key of a property in three literals: in its property map, in the type of its
getter and in the getter's body.  `readString` reads a literal as the language does, in code units,
with all of its escapes.  The literal of the property map is escaped and is read as the name of the
field (`readString_escapeLiteral`).  The two of the getter hold that name as it stands; these are
read as the name exactly where it has neither a double quote nor a backslash
(`readString_eq_units_iff`).  `keys_read` is about all three in every model.
-/

namespace TypedContent.TypeScript

open Schema Identifier

/-! ## Literals of the language -/

/-- A code point in UTF-16. -/
def codeUnits (n : Nat) : List Nat :=
  if n < 0x10000 then [n] else [0xD800 + (n - 0x10000) / 0x400, 0xDC00 + (n - 0x10000) % 0x400]

def units (s : List Char) : List Nat := s.flatMap fun c => codeUnits c.toNat

/-- Reads this many hexadecimal digits behind a number. -/
def readDigits : Nat → Nat → List Char → Option (Nat × List Char)
  | 0, n, rest => some (n, rest)
  | _ + 1, _, [] => none
  | k + 1, n, c :: rest => (Json.hexValue? c).bind fun digit => readDigits k (16 * n + digit) rest

/-- Reads the hexadecimal digits up to a brace behind a number. -/
def readBraced (n : Nat) : List Char → Option (Nat × List Char)
  | [] => none
  | c :: rest =>
    if c = '\x7d' then some (n, rest)
    else (Json.hexValue? c).bind fun digit => readBraced (16 * n + digit) rest

/-- Reads an escape from behind its `u`. -/
def readUnicode : List Char → Option (List Nat × List Char)
  | '\x7b' :: c :: rest =>
    (Json.hexValue? c).bind fun digit => (readBraced digit rest).bind fun x =>
      if x.1 ≤ 0x10FFFF then some (codeUnits x.1, x.2) else none
  | rest => (readDigits 4 0 rest).map fun x => ([x.1], x.2)

/-- The letters that stand for a control character. -/
def letterEscape? : Char → Option Nat
  | 'b' => some 8
  | 't' => some 9
  | 'n' => some 10
  | 'v' => some 11
  | 'f' => some 12
  | 'r' => some 13
  | _ => none

/-- Reads an escape from behind its backslash: what it stands for, and what is left.  A line end is
left out, a digit is no escape but a single zero, and what has no meaning of its own stands for
itself. -/
def readEscape : List Char → Option (List Nat × List Char)
  | [] => none
  | c :: rest =>
    if c = 'x' then (readDigits 2 0 rest).map fun x => ([x.1], x.2)
    else if c = 'u' then readUnicode rest
    else if c.isDigit then
      if c = '0' ∧ rest.head?.any Char.isDigit = false then some ([0], rest) else none
    else if c = '\r' ∧ rest.head? = some '\n' then some ([], rest.tail)
    else if c ∈ ['\n', '\r', '\u2028', '\u2029'] then some ([], rest)
    else match letterEscape? c with
      | some n => some ([n], rest)
      | none => some (units [c], rest)

/-- Whether a character may stand in a literal as it is, with or without line ends. -/
def stands (lineEnds : Bool) (c : Char) : Bool := lineEnds || (c != '\n' && c != '\r')

/-! ### What an escape takes -/

theorem one_le_length_codeUnits (n : Nat) : 1 ≤ (codeUnits n).length := by
  unfold codeUnits
  split <;> simp

theorem length_codeUnits_le (n : Nat) : (codeUnits n).length ≤ 2 := by
  unfold codeUnits
  split <;> simp

@[simp] theorem units_nil : units [] = [] := rfl

theorem units_append (s t : List Char) : units (s ++ t) = units s ++ units t := by
  simp [units]

theorem units_cons (c : Char) (s : List Char) : units (c :: s) = codeUnits c.toNat ++ units s := by
  simp [units]

theorem length_le_length_units (s : List Char) : s.length ≤ (units s).length := by
  induction s with
  | nil => simp
  | cons c s ih =>
    have hc := one_le_length_codeUnits c.toNat
    rw [units_cons, List.length_cons, List.length_append]
    omega

theorem ne_quote_of_hexValue? {c : Char} {n : Nat} (h : Json.hexValue? c = some n) : c ≠ '"' := by
  rintro rfl
  have hnone : Json.hexValue? '"' = none := by decide
  rw [hnone] at h
  contradiction

theorem readDigits_eq_some {k n m : Nat} {s r : List Char} (h : readDigits k n s = some (m, r)) :
    ∃ a, s = a ++ r ∧ '"' ∉ a ∧ a.length = k := by
  induction k generalizing n s with
  | zero =>
    cases h
    exact ⟨[], rfl, by simp, rfl⟩
  | succ k ih =>
    cases s with
    | nil => cases h
    | cons c s =>
      obtain ⟨digit, hdigit, h⟩ := Option.bind_eq_some_iff.mp h
      obtain ⟨a, rfl, ha, hlen⟩ := ih h
      have hc := ne_quote_of_hexValue? hdigit
      exact ⟨c :: a, rfl, by simp [hc.symm, ha], by rw [List.length_cons, hlen]⟩

theorem readBraced_eq_some {n m : Nat} {s r : List Char} (h : readBraced n s = some (m, r)) :
    ∃ a, s = a ++ r ∧ '"' ∉ a := by
  induction s generalizing n with
  | nil => cases h
  | cons c s ih =>
    unfold readBraced at h
    split at h
    · next hc =>
      cases h
      exact ⟨[c], rfl, by simp [hc]⟩
    · obtain ⟨digit, hdigit, h⟩ := Option.bind_eq_some_iff.mp h
      obtain ⟨a, rfl, ha⟩ := ih h
      have hc := ne_quote_of_hexValue? hdigit
      exact ⟨c :: a, rfl, by simp [hc.symm, ha]⟩

theorem readUnicode_eq_some {s r : List Char} {v : List Nat} (h : readUnicode s = some (v, r)) :
    ∃ a, s = a ++ r ∧ '"' ∉ a ∧ v.length ≤ a.length := by
  unfold readUnicode at h
  split at h
  · next c s =>
    obtain ⟨digit, hdigit, h⟩ := Option.bind_eq_some_iff.mp h
    obtain ⟨x, hx, h⟩ := Option.bind_eq_some_iff.mp h
    split at h
    · cases h
      obtain ⟨a, rfl, ha⟩ := readBraced_eq_some hx
      have hc := ne_quote_of_hexValue? hdigit
      refine ⟨'\x7b' :: c :: a, rfl, by simp [hc.symm, ha], ?_⟩
      have hlen := length_codeUnits_le x.1
      simp only [List.length_cons]
      omega
    · cases h
  · obtain ⟨x, hx, h⟩ := Option.map_eq_some_iff.mp h
    cases h
    obtain ⟨a, rfl, ha, hlen⟩ := readDigits_eq_some hx
    exact ⟨a, rfl, ha, by simp [hlen]⟩

/-- An escape goes over a quote only where it begins with it, and stands for no more than what it
is written with. -/
theorem readEscape_eq_some {s r : List Char} {v : List Nat} (h : readEscape s = some (v, r)) :
    ∃ c a, s = c :: a ++ r ∧ '"' ∉ a ∧ v.length ≤ (units (c :: a)).length := by
  have hunits (c : Char) (a : List Char) (hlen : v.length ≤ a.length + 1) :
      v.length ≤ (units (c :: a)).length :=
    Nat.le_trans hlen (length_le_length_units (c :: a))
  cases s with
  | nil => cases h
  | cons c s =>
    rw [readEscape] at h
    refine ⟨c, ?_⟩
    split at h
    · obtain ⟨x, hx, h⟩ := Option.map_eq_some_iff.mp h
      cases h
      obtain ⟨a, rfl, ha, hlen⟩ := readDigits_eq_some hx
      exact ⟨a, rfl, ha, hunits c a (by simp)⟩
    split at h
    · obtain ⟨a, rfl, ha, hlen⟩ := readUnicode_eq_some h
      exact ⟨a, rfl, ha, hunits c a (by omega)⟩
    split at h
    · split at h
      · cases h
        exact ⟨[], rfl, by simp, hunits c [] (by simp)⟩
      · cases h
    split at h
    · next hline =>
      cases h
      obtain ⟨t, rfl⟩ := List.head?_eq_some_iff.mp hline.2
      exact ⟨['\n'], rfl, by decide, hunits c _ (by simp)⟩
    split at h
    · cases h
      exact ⟨[], rfl, by simp, hunits c [] (by simp)⟩
    split at h
    · cases h
      exact ⟨[], rfl, by simp, hunits c [] (by simp)⟩
    · cases h
      exact ⟨[], rfl, by simp, Nat.le_refl _⟩

/-- In front of a quote, an escape that is not of the quote ends before it. -/
theorem exists_of_readEscape {s rest t : List Char} {v : List Nat} (hs : s ≠ [])
    (h : readEscape (s ++ '"' :: rest) = some (v, t)) :
    ∃ a s', s = a ++ s' ∧ t = s' ++ '"' :: rest ∧ v.length ≤ (units a).length := by
  obtain ⟨c, a, he, ha, hlen⟩ := readEscape_eq_some h
  obtain ⟨d, s, rfl⟩ := List.exists_cons_of_ne_nil hs
  obtain rfl : d = c := (List.cons.inj he).1
  have hinner : s ++ '"' :: rest = a ++ t := (List.cons.inj he).2
  rcases List.append_eq_append_iff.mp hinner with ⟨a', rfl, hrest⟩ | ⟨s', rfl, rfl⟩
  · cases a' with
    | nil => exact ⟨d :: (s ++ []), [], by simp, hrest.symm, hlen⟩
    | cons q a' =>
      obtain ⟨rfl, -⟩ := List.cons.inj hrest
      exact absurd (List.mem_append_right s List.mem_cons_self) ha
  · exact ⟨d :: a, s', rfl, rfl, hlen⟩

/-! ### Reading a literal -/

/-- Reads a literal from behind its opening quote: its code units, and what is left behind the
quote that closes it. -/
def readString (lineEnds : Bool) (quote : Char) : List Char → Option (List Nat × List Char)
  | [] => none
  | c :: rest =>
    if c = quote then some ([], rest)
    else if c = '\\' then
      match _h : readEscape rest with
      | none => none
      | some (v, rest) => (readString lineEnds quote rest).map fun x => (v ++ x.1, x.2)
    else if stands lineEnds c then
      (readString lineEnds quote rest).map fun x => (units [c] ++ x.1, x.2)
    else none
termination_by s => s.length
decreasing_by
  · obtain ⟨c, a, rfl, -⟩ := readEscape_eq_some _h
    simp only [List.length_cons, List.length_append]
    omega
  · simp

variable {lineEnds : Bool} {quote : Char}

theorem readString_nil : readString lineEnds quote [] = none := by
  rw [readString]

theorem readString_quote (rest : List Char) :
    readString lineEnds quote (quote :: rest) = some ([], rest) := by
  rw [readString, if_pos rfl]

theorem readString_escape (hq : quote ≠ '\\') {s t : List Char} {v : List Nat}
    (h : readEscape s = some (v, t)) :
    readString lineEnds quote ('\\' :: s) =
      (readString lineEnds quote t).map fun x => (v ++ x.1, x.2) := by
  rw [readString, if_neg hq.symm, if_pos rfl]
  split
  · next hnone => cases hnone.symm.trans h
  · next hsome =>
    cases hsome.symm.trans h
    rfl

theorem exists_of_readString_escape (hq : quote ≠ '\\') {s r : List Char} {v : List Nat}
    (h : readString lineEnds quote ('\\' :: s) = some (v, r)) :
    ∃ e t w, readEscape s = some (e, t) ∧ readString lineEnds quote t = some (w, r) ∧
      v = e ++ w := by
  rw [readString, if_neg hq.symm, if_pos rfl] at h
  split at h
  · cases h
  · next e t he =>
    obtain ⟨⟨w, r'⟩, hw, h⟩ := Option.map_eq_some_iff.mp h
    cases h
    exact ⟨e, t, w, he, hw, rfl⟩

theorem readString_cons {c : Char} (hq : c ≠ quote) (hs : c ≠ '\\') (rest : List Char) :
    readString lineEnds quote (c :: rest) = if stands lineEnds c then
      (readString lineEnds quote rest).map fun x => (units [c] ++ x.1, x.2) else none := by
  rw [readString, if_neg hq, if_neg hs]

/-- What was escaped is read back, unless it has a line end that may not stand in a literal. -/
theorem readString_escapeLiteral (hq : quote = '\'' ∨ quote = '"') (s : String)
    (rest : List Char) :
    readString lineEnds quote ((escapeLiteral quote s).toList ++ quote :: rest) =
      if s.toList.all (stands lineEnds) then some (units s.toList, rest) else none := by
  have hslash : quote ≠ '\\' := by rcases hq with rfl | rfl <;> decide
  rw [escapeLiteral, String.toList_ofList]
  induction s.toList with
  | nil => exact readString_quote rest
  | cons c cs ih =>
    have hc : readString lineEnds quote (escapeLiteralChar quote c ++
        (cs.flatMap (escapeLiteralChar quote) ++ quote :: rest)) =
        if stands lineEnds c then (readString lineEnds quote
          (cs.flatMap (escapeLiteralChar quote) ++ quote :: rest)).map
            fun x => (units [c] ++ x.1, x.2) else none := by
      unfold escapeLiteralChar
      split
      · next h =>
        rcases h with rfl | rfl
        · rw [if_pos (by simp [stands])]
          exact readString_escape hslash rfl
        · rw [if_pos (by rcases hq with rfl | rfl <;> simp [stands])]
          exact readString_escape hslash (by rcases hq with rfl | rfl <;> rfl)
      · next h => exact readString_cons (fun he => h (.inr he)) (fun he => h (.inl he)) _
    rw [List.flatMap_cons, List.append_assoc, hc, ih, List.all_cons]
    cases stands lineEnds c <;> cases cs.all (stands lineEnds) <;> simp [units_cons]

/-- Escapes of every kind, up to the quote that is none. -/
example : readString false '"' "\\x41\\u0042\\u\x7b1f600\x7d\\0\\n\\\"'\" c".toList =
    some ([65, 66, 0xD83D, 0xDE00, 0, 10, 34, 39], " c".toList) := by
  decide +kernel

/-! ### A text that was not escaped -/

/-- The text may stand between double quotes as it is. -/
def Plain (lineEnds : Bool) (s : List Char) : Prop :=
  '"' ∉ s ∧ '\\' ∉ s ∧ s.all (stands lineEnds) = true

instance (s : List Char) : Decidable (Plain lineEnds s) :=
  inferInstanceAs (Decidable (_ ∧ _))

theorem plain_cons {c : Char} {s : List Char} : Plain lineEnds (c :: s) ↔
    c ≠ '"' ∧ c ≠ '\\' ∧ stands lineEnds c = true ∧ Plain lineEnds s := by
  simp only [Plain, List.mem_cons, not_or, List.all_cons, Bool.and_eq_true, ne_eq, eq_comm (a := c)]
  tauto

theorem readString_append {s : List Char} (h : Plain lineEnds s) (rest : List Char) :
    readString lineEnds '"' (s ++ rest) =
      (readString lineEnds '"' rest).map fun x => (units s ++ x.1, x.2) := by
  induction s with
  | nil => simp
  | cons c s ih =>
    obtain ⟨hq, hs, hc, h⟩ := plain_cons.mp h
    rw [List.cons_append, readString_cons hq hs, if_pos hc, ih h, Option.map_map]
    simp [Function.comp_def, units_cons]

theorem readString_plain {s : List Char} (h : Plain lineEnds s) (rest : List Char) :
    readString lineEnds '"' (s ++ '"' :: rest) = some (units s, rest) := by
  rw [readString_append h, readString_quote]
  simp

/-- No quote closes it. -/
theorem readString_unclosed {s : List Char} (h : Plain lineEnds s) :
    readString lineEnds '"' s = none := by
  rw [← List.append_nil s, readString_append h, readString_nil, Option.map_none]

/-- Where reading a text that was not escaped has got to. -/
inductive RawRead (lineEnds : Bool) (s rest : List Char) (v : List Nat) (r : List Char) : Prop
  /-- All of it is read. -/
  | whole (plain : Plain lineEnds s) (eq : v = units s)
  /-- A quote inside ends it, or an escape inside is resolved. -/
  | less (lt : v.length < (units s).length)
  /-- A backslash at its end takes the closing quote, and reading goes on behind that. -/
  | beyond (last : s.getLast? = some '\\') (u w : List Nat)
      (eq : v = u ++ units ['"'] ++ w) (read : readString lineEnds '"' rest = some (w, r))

namespace RawRead

variable {s rest r : List Char} {w : List Nat}

/-- A character that stands for itself comes first. -/
theorem behind_char {c : Char} (hq : c ≠ '"') (hs : c ≠ '\\') (hc : stands lineEnds c = true)
    (h : RawRead lineEnds s rest w r) : RawRead lineEnds (c :: s) rest (units [c] ++ w) r := by
  cases h with
  | whole plain eq => exact .whole (plain_cons.mpr ⟨hq, hs, hc, plain⟩) (by simp [units_cons, eq])
  | less lt => exact .less (by simpa [units_cons] using lt)
  | beyond last u w' eq read =>
    refine .beyond ?_ (units [c] ++ u) w' (by simp [eq]) read
    rw [List.getLast?_cons, last]
    rfl

/-- An escape comes first, which stands for less than what it is written with. -/
theorem behind_escape {a : List Char} {e : List Nat} (ha : e.length < (units a).length)
    (h : RawRead lineEnds s rest w r) : RawRead lineEnds (a ++ s) rest (e ++ w) r := by
  cases h with
  | whole plain eq =>
    refine .less ?_
    rw [eq, units_append, List.length_append, List.length_append]
    omega
  | less lt =>
    refine .less ?_
    rw [units_append, List.length_append, List.length_append]
    omega
  | beyond last u w' eq read =>
    refine .beyond ?_ (e ++ u) w' (by simp [eq]) read
    rw [List.getLast?_append, last]
    rfl

end RawRead

theorem rawRead_of_readString {s rest r : List Char} {v : List Nat}
    (h : readString lineEnds '"' (s ++ '"' :: rest) = some (v, r)) :
    RawRead lineEnds s rest v r := by
  -- An escape may take several characters, so the induction is on the length.
  induction hn : s.length using Nat.strongRecOn generalizing s v with
  | _ n ih =>
    subst hn
    cases s with
    | nil =>
      rw [List.nil_append, readString_quote] at h
      cases h
      exact .whole ⟨by simp, by simp, rfl⟩ rfl
    | cons c s =>
      rw [List.cons_append] at h
      by_cases hq : c = '"'
      · subst hq
        rw [readString_quote] at h
        cases h
        exact .less (by simp [units_cons, codeUnits])
      by_cases hs : c = '\\'
      · subst hs
        obtain ⟨e, t, w, he, hw, rfl⟩ := exists_of_readString_escape (by decide) h
        by_cases hend : s = []
        · subst hend
          cases he
          exact .beyond rfl [] w rfl hw
        obtain ⟨a, s, rfl, rfl, hlen⟩ := exists_of_readEscape hend he
        have hless : e.length < (units ('\\' :: a)).length := by
          simpa [units_cons, codeUnits] using Nat.lt_succ_of_le hlen
        have hshorter : s.length < ('\\' :: (a ++ s)).length := by
          rw [List.length_cons, List.length_append]
          omega
        exact (ih s.length hshorter hw rfl).behind_escape hless
      · rw [readString_cons hq hs] at h
        split at h
        · next hc =>
          obtain ⟨⟨w, r'⟩, hw, h⟩ := Option.map_eq_some_iff.mp h
          cases h
          exact (ih s.length (by simp) hw rfl).behind_char hq hs hc
        · cases h

theorem getLast?_units {s : List Char} (h : s.getLast? = some '\\') :
    (units s).getLast? = some 92 := by
  obtain ⟨t, rfl⟩ := List.getLast?_eq_some_iff.mp h
  rw [units_append, List.getLast?_append]
  rfl

/-- A text that was not escaped is read back exactly where it needs no escapes, if what a backslash
at its end would add to it does not end with a backslash. -/
theorem readString_eq_units_iff {s rest : List Char}
    (hrest : ∀ w r, readString lineEnds '"' rest = some (w, r) → w.getLast? ≠ some 92) :
    (∃ r, readString lineEnds '"' (s ++ '"' :: rest) = some (units s, r)) ↔ Plain lineEnds s := by
  refine ⟨fun ⟨r, h⟩ => ?_, fun h => ⟨rest, readString_plain h rest⟩⟩
  cases rawRead_of_readString h with
  | whole plain _ => exact plain
  | less lt => exact absurd lt (Nat.lt_irrefl _)
  | beyond last u w eq read =>
    have hlast := getLast?_units last
    rw [eq, List.getLast?_append] at hlast
    cases hw : w.getLast? with
    | none =>
      rw [hw, List.getLast?_append] at hlast
      cases hlast
    | some n =>
      rw [hw, Option.some_or] at hlast
      exact absurd (hw.trans hlast) (hrest w r read)

/-! ## The literals of a property -/

/-- The text of the literal that `opening` begins in a line, which has the opening quote at its
end. -/
def literalBehind (lineEnds : Bool) (quote : Char) (opening line : String) : Option (List Nat) :=
  (line.toList.dropPrefix? opening.toList).bind fun rest =>
    (readString lineEnds quote rest).map (·.1)

theorem literalBehind_append (opening text : String) :
    literalBehind lineEnds quote opening (opening ++ text) =
      (readString lineEnds quote text.toList).map (·.1) := by
  rw [literalBehind, String.toList_append, dropPrefix?_append, Option.bind_some]

namespace Getter

/-- A getter up to the literal in its type. -/
def beforeField (g : Getter) : String :=
  "    public get " ++ g.name ++ "() : " ++ g.interface ++ "[\""

/-- A getter up to the literal in its body. -/
def beforeProperty (g : Getter) : String :=
  g.beforeField ++ g.field ++ "\"] \x7b return this.getProperty(\""

theorem line_eq_beforeField (g : Getter) :
    g.line = g.beforeField ++
      (g.field ++ ("\"] \x7b return this.getProperty(\"" ++ (g.property ++ "\"); \x7d"))) := by
  unfold line beforeField
  simp only [String.append_assoc]

theorem line_eq_beforeProperty (g : Getter) :
    g.line = g.beforeProperty ++ (g.property ++ "\"); \x7d") := by
  rw [line_eq_beforeField, beforeProperty]
  simp only [String.append_assoc]

/-- A backslash at the end of the first literal takes its quote, and the next one is that of the
second literal, behind a parenthesis. -/
theorem literalBehind_beforeField_iff (g : Getter) :
    literalBehind lineEnds '"' g.beforeField g.line = some (units g.field.toList) ↔
      Plain lineEnds g.field.toList := by
  have hrest : ∀ w r, readString lineEnds '"' ("] \x7b return this.getProperty(".toList ++
      '"' :: (g.property.toList ++ "\"); \x7d".toList)) = some (w, r) → w.getLast? ≠ some 92 := by
    intro w r h
    rw [readString_plain (by cases lineEnds <;> decide)] at h
    cases h
    decide
  have htext : (g.field ++ ("\"] \x7b return this.getProperty(\"" ++
      (g.property ++ "\"); \x7d"))).toList = g.field.toList ++ '"' ::
        ("] \x7b return this.getProperty(".toList ++
          '"' :: (g.property.toList ++ "\"); \x7d".toList)) := by
    simp only [String.toList_append]
    rfl
  rw [line_eq_beforeField, literalBehind_append, htext, ← readString_eq_units_iff hrest]
  simp only [Option.map_eq_some_iff, Prod.exists, exists_and_right, exists_eq_right]

/-- Behind the second literal there is no quote that could close it. -/
theorem literalBehind_beforeProperty_iff (g : Getter) :
    literalBehind lineEnds '"' g.beforeProperty g.line = some (units g.property.toList) ↔
      Plain lineEnds g.property.toList := by
  have hrest : ∀ w r, readString lineEnds '"' "); \x7d".toList = some (w, r) →
      w.getLast? ≠ some 92 := by
    intro w r h
    rw [readString_unclosed (by cases lineEnds <;> decide)] at h
    cases h
  have htext : (g.property ++ "\"); \x7d").toList =
      g.property.toList ++ '"' :: "); \x7d".toList := by
    rw [String.toList_append]
    rfl
  rw [line_eq_beforeProperty, literalBehind_append, htext, ← readString_eq_units_iff hrest]
  simp only [Option.map_eq_some_iff, Prod.exists, exists_and_right, exists_eq_right]

end Getter

theorem literalBehind_propertyMapLine_iff (p : PropertyDefinition) :
    literalBehind lineEnds '\'' "        '" (propertyMapLine p) =
        some (units (fieldName p.name).toList) ↔
      (fieldName p.name).toList.all (stands lineEnds) = true := by
  have hline : propertyMapLine p = "        '" ++ (escapeLiteral '\'' (fieldName p.name) ++
      ("': '" ++ (escapeLiteral '\'' p.tag ++ "',"))) := by
    unfold propertyMapLine
    simp only [String.append_assoc]
  have htext : (escapeLiteral '\'' (fieldName p.name) ++
      ("': '" ++ (escapeLiteral '\'' p.tag ++ "',"))).toList =
        (escapeLiteral '\'' (fieldName p.name)).toList ++
          '\'' :: (": '".toList ++ ((escapeLiteral '\'' p.tag).toList ++ "',".toList)) := by
    simp only [String.toList_append]
    rfl
  rw [hline, literalBehind_append, htext, readString_escapeLiteral (.inl rfl)]
  cases (fieldName p.name).toList.all (stands lineEnds) <;> simp

/-- How the three literals for the key of `p` are read among the lines of the class for `d`. -/
structure KeysRead (lineEnds : Bool) (d : TypeDefinition) (p : PropertyDefinition)
    (lines : List String) : Prop where
  entry_mem : propertyMapLine p ∈ lines
  getter_mem : (getterOf d p).line ∈ lines
  /-- The key in the property map is the name of the field, whatever quotes and backslashes that
  has. -/
  entry : literalBehind lineEnds '\'' "        '" (propertyMapLine p) =
      some (units (fieldName p.name).toList) ↔
    (fieldName p.name).toList.all (stands lineEnds) = true
  /-- The literals of the getter are that name where it needs no escapes. -/
  index : literalBehind lineEnds '"' (getterOf d p).beforeField (getterOf d p).line =
      some (units (fieldName p.name).toList) ↔ Plain lineEnds (fieldName p.name).toList
  argument : literalBehind lineEnds '"' (getterOf d p).beforeProperty (getterOf d p).line =
      some (units (fieldName p.name).toList) ↔ Plain lineEnds (fieldName p.name).toList

theorem keysRead_instanceLines (lineEnds : Bool) {d : TypeDefinition} {p : PropertyDefinition}
    (hp : p ∈ visibleProperties d) : KeysRead lineEnds d p (instanceLines d) where
  entry_mem := by
    have hmem : propertyMapLine p ∈ d.properties.map propertyMapLine :=
      List.mem_map_of_mem (List.mem_filter.mp hp).1
    rw [instanceLines_eq]
    simp [hmem]
  getter_mem := by
    have hmem : (getterOf d p).line ∈
        (visibleProperties d).flatMap fun p => propertyComment p ++ [(getterOf d p).line, ""] :=
      List.mem_flatMap.mpr ⟨p, hp, by simp⟩
    rw [instanceLines_eq]
    exact List.mem_append_right _ (List.mem_append_right _ (List.mem_append_left _ hmem))
  entry := literalBehind_propertyMapLine_iff p
  index := (getterOf d p).literalBehind_beforeField_iff
  argument := (getterOf d p).literalBehind_beforeProperty_iff

/-- With line ends in literals or without, a property has one key exactly where the name of its
field has no double quote, no backslash, and no line end that may not stand. -/
theorem keys_read {d : TypeDefinition} {known : List String} {f : SourceFile}
    (h : modelFile d known = .ok f) (lineEnds : Bool) :
    ∃ s lines, buildModel d known = .ok s ∧ f.content = s.text ∧ s.get "instance" = .ok lines ∧
      ∀ p ∈ visibleProperties d, KeysRead lineEnds d p lines := by
  obtain ⟨-, hbuilt, hcontent⟩ := built_of_modelFile h
  exact ⟨_, _, hbuilt, hcontent, rfl, fun p hp => keysRead_instanceLines lineEnds hp⟩

theorem keys_read_gallery :
    ∃ f, modelFile galleryPage ["2nd Gallery"] = .ok f ∧
      ∃ s lines, buildModel galleryPage ["2nd Gallery"] = .ok s ∧ f.content = s.text ∧
        s.get "instance" = .ok lines ∧
        ∀ p ∈ visibleProperties galleryPage, KeysRead false galleryPage p lines := by
  obtain ⟨f, h⟩ := exists_modelFile_galleryPage
  exact ⟨f, h, keys_read h false⟩

/-- The name of its property reads as a backspace where it is not escaped. -/
def backslashPage : TypeDefinition where
  name := "Page"
  displayName := ""
  description := ""
  guid := ""
  properties := [⟨"a\\b", "", "", "String"⟩]

/-- The key in the property map is the name of the field, and the getter asks for another. -/
theorem keys_apart :
    ∃ f s lines p, modelFile backslashPage [] = .ok f ∧ buildModel backslashPage [] = .ok s ∧
      f.content = s.text ∧ s.get "instance" = .ok lines ∧ p ∈ visibleProperties backslashPage ∧
      propertyMapLine p ∈ lines ∧ (getterOf backslashPage p).line ∈ lines ∧
      literalBehind false '\'' "        '" (propertyMapLine p) = some [97, 92, 98] ∧
      literalBehind false '"' (getterOf backslashPage p).beforeField
        (getterOf backslashPage p).line = some [97, 8] ∧
      literalBehind false '"' (getterOf backslashPage p).beforeProperty
        (getterOf backslashPage p).line = some [97, 8] := by
  obtain ⟨f, hfile⟩ : ∃ f, modelFile backslashPage [] = .ok f :=
    ⟨_, modelFile_eq_ok_iff.mpr ⟨by decide +kernel, rfl⟩⟩
  obtain ⟨-, hbuilt, hcontent⟩ := built_of_modelFile hfile
  have hp : (⟨"a\\b", "", "", "String"⟩ : PropertyDefinition) ∈ visibleProperties backslashPage :=
    List.mem_filter.mpr ⟨List.mem_cons_self, by decide +kernel⟩
  obtain ⟨hentry, hgetter, -, -, -⟩ := keysRead_instanceLines false hp
  exact ⟨f, _, _, _, hfile, hbuilt, hcontent, rfl, hp, hentry, hgetter, by decide +kernel,
    by decide +kernel, by decide +kernel⟩

end TypedContent.TypeScript
