/-!
# Lines

A text is cut into lines at every line end, a carriage return with the line feed behind it being
one end.  Text that is read from a file has its line ends made uniform first: `\r\n` and `\r`
become `\n`.
-/

namespace TypedContent.Text

def isLineEnd (c : Char) : Bool :=
  c == '\n' || c == '\r' || c == '\u000b' || c == '\u000c' || c == '\u001c' || c == '\u001d' ||
    c == '\u001e' || c == '\u0085' || c == '\u2028' || c == '\u2029'

/-- Puts a character in front of the first line. -/
def consLine (c : Char) : List (List Char) → List (List Char)
  | [] => [[c]]
  | l :: ls => (c :: l) :: ls

/-- The lines of a text, without their ends.  An end at the very end opens no further line. -/
def splitLines : List Char → List (List Char)
  | [] => []
  | '\r' :: '\n' :: r => [] :: splitLines r
  | c :: r => if isLineEnd c then [] :: splitLines r else consLine c (splitLines r)

/-- Every `\r\n` and every other `\r` becomes `\n`. -/
def uniformLines : List Char → List Char
  | [] => []
  | '\r' :: '\n' :: r => '\n' :: uniformLines r
  | '\r' :: r => '\n' :: uniformLines r
  | c :: r => c :: uniformLines r

/-- Lines joined by line feeds. -/
def joinLines (lines : List String) : String := String.intercalate "\n" lines

theorem uniformLines_of_no_return (s : List Char) (h : '\r' ∉ s) : uniformLines s = s := by
  induction s with
  | nil => rfl
  | cons c r ih =>
    have hc : c ≠ '\r' := by intro e; simp [e] at h
    have hr : '\r' ∉ r := by intro e; simp [e] at h
    unfold uniformLines
    split <;> simp_all

end TypedContent.Text
