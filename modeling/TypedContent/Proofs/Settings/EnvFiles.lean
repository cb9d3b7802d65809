import TypedContent.Proofs.Collisions
import TypedContent.Proofs.Files.Children
import TypedContent.Proofs.Settings.EnvLines
import TypedContent.Proofs.Text.Lines

/-!
# Environment files that are written out

`Row` has the lines that somebody writes who wants keys to have values: assignments with the value
in quotes, blank lines, and lines with a comment only.  What is read from a file of such lines has
each key with its last value, in the order in which the keys come first (`read_rows`).  That one
assignment after the other comes to the same as taking the last values is `foldl_assign`, and that
each line is read as what it was written for is `assignment?_row`.
-/

namespace TypedContent.Settings.EnvFile

open Files Text

variable {ps : List (String × String)} {k v : String} {d : Disk} {p : Path}

/-! ## One assignment after the other -/

/-- Each key with its last value, in order of first occurrence. -/
def lastValues (ps : List (String × String)) : List (String × String) :=
  (distinct (ps.map (·.1))).filterMap fun k => (ps.reverse.lookup k).map fun v => (k, v)

theorem map_fst_assign (ps : List (String × String)) (p : String × String) :
    (assign ps p).map (·.1) =
      if p.1 ∈ ps.map (·.1) then ps.map (·.1) else ps.map (·.1) ++ [p.1] := by
  induction ps with
  | nil => rfl
  | cons q qs ih =>
    rw [assign]
    by_cases h : q.1 = p.1
    · simp [h]
    · rw [if_neg h, List.map_cons, ih]
      by_cases hmem : p.1 ∈ qs.map (·.1)
      · rw [if_pos hmem, if_pos (by simp [hmem])]
        rfl
      · have hq : p.1 ∉ (q :: qs).map (·.1) := by
          rw [List.map_cons, List.mem_cons, not_or]
          exact ⟨Ne.symm h, hmem⟩
        rw [if_neg hmem, if_neg hq]
        rfl

theorem map_fst_foldl_assign (ps : List (String × String)) :
    (ps.foldl assign []).map (·.1) = distinct (ps.map (·.1)) := by
  induction ps using List.reverseRecOn with
  | nil => rfl
  | append_singleton ps p ih =>
    rw [List.foldl_append, List.foldl_cons, List.foldl_nil, map_fst_assign, ih, List.map_append,
      List.map_cons, List.map_nil, Collision.distinct_concat]
    simp only [mem_distinct]

theorem lookup_foldl_assign (ps acc : List (String × String)) (k : String) :
    (ps.foldl assign acc).lookup k = (ps.reverse.lookup k).or (acc.lookup k) := by
  induction ps generalizing acc with
  | nil => rfl
  | cons p ps ih =>
    obtain ⟨l, v⟩ := p
    rw [List.foldl_cons, ih, lookup_assign, List.reverse_cons, List.lookup_append, Option.or_assoc]
    by_cases h : k = l
    · simp [h]
    · have hne : (k == l) = false := by simpa using h
      simp [h, List.lookup_cons, hne]

/-- With each key once, the pairs are told by the keys and by what is looked up under them. -/
theorem eq_filterMap_lookup (h : (ps.map (·.1)).Nodup) :
    ps = (ps.map (·.1)).filterMap fun k => (ps.lookup k).map fun v => (k, v) := by
  induction ps with
  | nil => rfl
  | cons p ps ih =>
    obtain ⟨k, v⟩ := p
    obtain ⟨hk, hps⟩ := List.nodup_cons.mp h
    have hrest : ∀ l ∈ ps.map (·.1), (((k, v) :: ps).lookup l).map (fun w => (l, w)) =
        (ps.lookup l).map fun w => (l, w) := by
      intro l hl
      have hne : (l == k) = false := by
        rw [beq_eq_false_iff_ne]
        rintro rfl
        exact hk hl
      rw [List.lookup_cons, hne]
    rw [List.map_cons, List.filterMap_cons, List.lookup_cons_self, Option.map_some,
      List.filterMap_congr hrest, ← ih hps]

theorem foldl_assign (ps : List (String × String)) : ps.foldl assign [] = lastValues ps := by
  have hkeys := map_fst_foldl_assign ps
  have hnodup : ((ps.foldl assign []).map (·.1)).Nodup := hkeys ▸ nodup_distinct _
  have hlookup (k : String) : (ps.foldl assign []).lookup k = ps.reverse.lookup k := by
    rw [lookup_foldl_assign, List.lookup_nil, Option.or_none]
  rw [eq_filterMap_lookup hnodup, hkeys]
  simp only [hlookup, lastValues]

/-! ## Lines that are written -/

/-- Blanks within a line. -/
abbrev Gap := {s : List Char // Blanks s ∧ Inline s}

inductive Quote where
  | single
  | double

def Quote.char : Quote → Char
  | .single => '\''
  | .double => '"'

/-- A key and a value, with how the line is written that assigns one to the other. -/
structure Assignment where
  key : String
  value : String
  quote : Quote
  indent : Gap
  /-- What is between `export` and the key, where the line has that word. -/
  exported : Option {g : Gap // g.1 ≠ []}
  beforeSign : Gap
  behindSign : Gap
  trailing : Gap
  isKey : IsKey key.toList
  inline : Inline value.toList
  unquoted : quote.char ∉ value.toList

namespace Assignment

def lead (a : Assignment) : List Char :=
  match a.exported with
  | none => []
  | some g => "export".toList ++ g.1.1

def chars (a : Assignment) : List Char :=
  a.indent.1 ++ (a.lead ++ (a.key.toList ++ (a.beforeSign.1 ++ '=' :: (a.behindSign.1 ++
    (a.quote.char :: (a.value.toList ++ [a.quote.char]) ++ a.trailing.1)))))

end Assignment

/-- A line of an environment file. -/
inductive Row where
  | assignment (a : Assignment)
  | blank (g : Gap)
  | comment (indent : Gap) (text : String) (h : Inline text.toList)

namespace Row

def chars : Row → List Char
  | assignment a => a.chars
  | blank g => g.1
  | comment indent text _ => indent.1 ++ '#' :: text.toList

def pair? : Row → Option (String × String)
  | assignment a => some (a.key, a.value)
  | blank _ => none
  | comment _ _ _ => none

end Row

/-- The text of a file with these lines.  It ends with a line feed if the last line is empty. -/
def layOut (rows : List Row) : String :=
  String.ofList (['\n'].intercalate (rows.map Row.chars))

/-- What the lines assign, in their order. -/
def assigned (rows : List Row) : List (String × String) := rows.filterMap Row.pair?

theorem isLead_lead (a : Assignment) : IsLead a.lead := by
  unfold Assignment.lead
  split
  · exact .nothing
  · next g _ => exact .exported g.1.2.1 g.2

theorem inline_lead (a : Assignment) : Inline a.lead := by
  unfold Assignment.lead
  split
  · simp [Inline]
  · next g _ => exact inline_append.mpr ⟨by decide, g.1.2.2⟩

theorem isLineEnd_of_isKeyChar {c : Char} (h : isKeyChar c = true) : isLineEnd c = false := by
  rw [Bool.eq_false_iff]
  intro hend
  have hblank := isBlank_of_isLineEnd hend
  rw [isBlank_of_isKeyChar h] at hblank
  contradiction

theorem Quote.isBlank_char (q : Quote) : isBlank q.char = false := by
  cases q <;> decide

theorem Quote.isLineEnd_char (q : Quote) : isLineEnd q.char = false := by
  cases q <;> decide

theorem inline_chars (row : Row) : Inline row.chars := by
  cases row with
  | assignment a =>
    have hkey : Inline a.key.toList := fun c hc => isLineEnd_of_isKeyChar (a.isKey.chars c hc)
    have hquote := a.quote.isLineEnd_char
    simp only [Row.chars, Assignment.chars, inline_append, inline_cons]
    exact ⟨a.indent.2.2, inline_lead a, hkey, a.beforeSign.2.2, by decide, a.behindSign.2.2,
      ⟨hquote, a.inline, hquote, by simp [Inline]⟩, a.trailing.2.2⟩
  | blank g => exact g.2.2
  | comment indent text h =>
    exact inline_append.mpr ⟨indent.2.2, inline_cons.mpr ⟨by decide, h⟩⟩

/-! ## Lines that are read -/

/-- A value in quotes is what stands up to the next of them, whatever else it has. -/
theorem value_quoted (q : Quote) {s : List Char} (h : q.char ∉ s) (t : List Char) :
    value (q.char :: (s ++ q.char :: t)) = s := by
  have hcontains : (s ++ q.char :: t).contains q.char = true := by simp
  have htake : (s ++ q.char :: t).takeWhile (· != q.char) = s := by
    have hne : ∀ c ∈ s, (c != q.char) = true := by
      intro c hc
      rw [bne_iff_ne]
      rintro rfl
      exact h hc
    rw [List.takeWhile_append_of_pos hne, List.takeWhile_cons_of_neg (by simp), List.append_nil]
  have hquoted : quotedValue? q.char (s ++ q.char :: t) = some s := by
    rw [quotedValue?, if_pos hcontains, htake]
  cases q with
  | single => exact congrArg (Option.getD · _) hquoted
  | double => exact congrArg (Option.getD · _) hquoted

theorem assignment?_row (row : Row) : assignment? row.chars = row.pair? := by
  cases row with
  | assignment a =>
    refine assignment?_eq_some_iff.mpr ⟨_, ⟨a.isKey, a.indent.1, a.lead, a.beforeSign.1,
      a.indent.2.1, isLead_lead a, a.beforeSign.2.1, rfl⟩, ?_⟩
    rw [trim_around a.behindSign.2.1 a.trailing.2.1,
      trim_eq_self a.quote.isBlank_char a.quote.isBlank_char, value_quoted a.quote a.unquoted,
      String.ofList_toList]
  | blank g =>
    refine assignment?_eq_none ?_
    rw [Row.chars, trim_of_blanks g.2.1]
    rfl
  | comment indent text h =>
    refine assignment?_eq_none ?_
    rw [Row.chars, trim_blanks_append indent.2.1, trim_cons (by decide)]
    rfl

/-! ## Files -/

theorem read_of_readBytes {s : String} (h : d.readBytes p = .ok s.toUTF8) :
    read d p = ([], .ok (parse (String.ofList (uniformLines s.toList)))) := by
  have htext : d.readText p = .ok (String.ofList (uniformLines s.toList)) := by
    rw [Disk.readText, h]
    simp only [decodeUtf8_toUTF8]
  rw [read, Disk.isFile_of_readBytes h]
  simp only [htext]

theorem parse_layOut (rows : List Row) :
    parse (String.ofList (uniformLines (layOut rows).toList)) = lastValues (assigned rows) := by
  have hinline : ∀ l ∈ rows.map Row.chars, Inline l := by
    intro l hl
    obtain ⟨row, -, rfl⟩ := List.mem_map.mp hl
    exact inline_chars row
  rw [parse, String.toList_ofList, layOut, String.toList_ofList, uniformLines_intercalate hinline,
    filterMap_splitLines_intercalate rfl hinline, List.filterMap_map, foldl_assign, assigned]
  exact congrArg (fun f => lastValues (rows.filterMap f)) (funext assignment?_row)

/-- A file of lines that assign, lines that are blank and comments gives each key with its last
value, in the order in which the keys come first. -/
theorem read_rows (rows : List Row) (h : d.readBytes p = .ok (layOut rows).toUTF8) :
    read d p = ([], .ok (lastValues (assigned rows))) := by
  rw [read_of_readBytes h, parse_layOut]

def noGap : Gap := ⟨[], by decide⟩

def oneBlank : Gap := ⟨[' '], by decide⟩

/-- Values that begin and end with blanks and have signs of all kinds, and `export` as a key. -/
def siteRows : List Row :=
  [.comment noGap " EPI_URL='http://old/'" (by decide),
   .assignment
    { key := "EPI_URL", value := " http://a/#b=\"c\" # d ", quote := .single
      indent := oneBlank, exported := some ⟨oneBlank, by decide⟩
      beforeSign := oneBlank, behindSign := oneBlank, trailing := oneBlank
      isKey := by decide, inline := by decide, unquoted := by decide },
   .blank oneBlank,
   .assignment
    { key := "export", value := "it's", quote := .double
      indent := noGap, exported := none
      beforeSign := oneBlank, behindSign := noGap, trailing := noGap
      isKey := by decide, inline := by decide, unquoted := by decide },
   .assignment
    { key := "EPI_URL", value := " # ", quote := .double
      indent := noGap, exported := none
      beforeSign := noGap, behindSign := noGap, trailing := oneBlank
      isKey := by decide, inline := by decide, unquoted := by decide },
   .blank noGap]

/-- A disk that holds nothing but the file. -/
def diskWith (text : String) : Disk where
  tree := ⟨[([".env"], .file text.toUTF8)]⟩
  current := []
  faults := noFaults

theorem read_rows_site :
    ∃ d p, d.readBytes p = .ok (layOut siteRows).toUTF8 ∧
      read d p = ([], .ok [("EPI_URL", " # "), ("export", "it's")]) := by
  have hbytes : (diskWith (layOut siteRows)).readBytes ⟨.root, [".env"]⟩ =
      .ok (layOut siteRows).toUTF8 := rfl
  have hvalues : lastValues (assigned siteRows) = [("EPI_URL", " # "), ("export", "it's")] := by
    decide +kernel
  exact ⟨_, _, hbytes, hvalues ▸ read_rows siteRows hbytes⟩

end TypedContent.Settings.EnvFile
