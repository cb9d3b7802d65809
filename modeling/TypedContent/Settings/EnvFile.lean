import TypedContent.Files.Disk
import TypedContent.Log.Record
import TypedContent.Text.Blank
import TypedContent.Text.Lines

/-!
# Environment files

A line of an environment file is an assignment `KEY=value`, perhaps with `export` in front, and all
other lines are ignored.  A value may stand in quotes; without quotes it ends at ` #`.  Of several
assignments to one key the last counts, at the place of the first.
-/

namespace TypedContent.Settings

open Files

def logger : String := "episync.core.config.loader"

namespace EnvFile

def isKeyStart (c : Char) : Bool :=
  ('a' ≤ c && c ≤ 'z') || ('A' ≤ c && c ≤ 'Z') || c == '_'

def isKeyChar (c : Char) : Bool := isKeyStart c || ('0' ≤ c && c ≤ '9') || c == '.'

/-- The text before the first ` #`. -/
def withoutComment : List Char → List Char
  | ' ' :: '#' :: _ => []
  | c :: s => c :: withoutComment s
  | [] => []

/-- What stands between a quote and the next one like it. -/
def quotedValue? (q : Char) (s : List Char) : Option (List Char) :=
  if s.contains q then some (s.takeWhile (· != q)) else none

def bareValue (s : List Char) : List Char := Text.trim (withoutComment s)

/-- The value that stands behind an equals sign, without the blanks around it. -/
def value (s : List Char) : List Char :=
  match s with
  | '"' :: rest => (quotedValue? '"' rest).getD (bareValue s)
  | '\'' :: rest => (quotedValue? '\'' rest).getD (bareValue s)
  | s => bareValue s

/-- A key, an equals sign, and a value. -/
def pair? (s : List Char) : Option (String × String) :=
  if s.head?.any isKeyStart then
    match (s.dropWhile isKeyChar).dropWhile Text.isBlank with
    | '=' :: rest =>
      some (String.ofList (s.takeWhile isKeyChar), String.ofList (value (Text.trim rest)))
    | _ => none
  else none

/-- What stands behind `export` and at least one blank. -/
def behindExport? (s : List Char) : Option (List Char) :=
  let word := "export".toList
  if word.isPrefixOf s then
    let rest := s.drop word.length
    if rest.head?.any Text.isBlank then some (rest.dropWhile Text.isBlank) else none
  else none

/-- The assignment of a line, if it is one. -/
def assignment? (line : List Char) : Option (String × String) :=
  let s := Text.trim line
  match (behindExport? s).bind pair? with
  | some p => some p
  | none => pair? s

/-- Sets the value of a key; a known key keeps its place. -/
def assign (pairs : List (String × String)) (p : String × String) : List (String × String) :=
  match pairs with
  | [] => [p]
  | q :: qs => if q.1 = p.1 then p :: qs else q :: assign qs p

/-- The assignments of a text. -/
def parse (text : String) : List (String × String) :=
  ((Text.splitLines text.toList).filterMap assignment?).foldl assign []

/-- The assignments of a file; a file that is missing or cannot be read has none. -/
def read (d : Disk) (path : Path) : List Log.Event × Except ReadError (List (String × String)) :=
  match d.isFile path with
  | .error e => ([], .error (.access (.disk e)))
  | .ok false => ([], .ok [])
  | .ok true =>
    match d.readText path with
    | .ok text => ([], .ok (parse text))
    | .error (.access (.disk e)) =>
      ([.main logger Log.Level.warning ("Cannot read " ++ path.toString ++ ": " ++ e.message)], .ok [])
    | .error e => ([], .error e)

theorem lookup_assign (pairs : List (String × String)) (k v l : String) :
    (assign pairs (k, v)).lookup l = if l = k then some v else pairs.lookup l := by
  induction pairs with
  | nil =>
    by_cases h : l = k
    · simp [assign, h]
    · simp [assign, List.lookup_cons, h, show (l == k) = false by simpa using h]
  | cons q qs ih =>
    obtain ⟨k', v'⟩ := q
    by_cases h : l = k'
    · by_cases hk : k' = k <;> simp [assign, h, hk]
    · have hl : (l == k') = false := by simpa using h
      by_cases hk : k' = k
      · simp [assign, hk, List.lookup_cons, show (l == k) = false by simpa [hk] using h, hk ▸ h]
      · simp [assign, hk, List.lookup_cons, hl, ih]

theorem eq_withoutComment_append (s : List Char) :
    ∃ rest, s = withoutComment s ++ rest := by
  fun_induction withoutComment s with
  | case1 r => exact ⟨' ' :: '#' :: r, rfl⟩
  | case2 c s _ ih => obtain ⟨r, hr⟩ := ih; exact ⟨r, by simpa using hr⟩
  | case3 => exact ⟨[], rfl⟩

end EnvFile

end TypedContent.Settings
