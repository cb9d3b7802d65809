/-!
# Styling in texts

An escape character, an opening bracket, parameters and a letter tell a terminal to change its
style.  Output that goes elsewhere is written without such sequences.
-/

namespace TypedContent.Text

def styleStart : Char := '\x1b'

def isStyleParameter (c : Char) : Bool := c == ';' || c == '?' || c.isDigit

/-- What stands behind the style sequence whose first character is just before `s`. -/
def behindStyle? : List Char → Option (List Char)
  | '[' :: s =>
    match s.dropWhile isStyleParameter with
    | c :: rest => if c.isAlpha then some rest else none
    | [] => none
  | _ => none

theorem behindStyle?_length {s rest : List Char} (h : behindStyle? s = some rest) :
    rest.length < s.length := by
  unfold behindStyle? at h
  split at h
  · rename_i t
    split at h
    · rename_i c r hd
      split at h
      · have hr : r = rest := Option.some.inj h
        have hl := (List.dropWhile_sublist (l := t) isStyleParameter).length_le
        rw [hd, hr] at hl
        simp only [List.length_cons] at hl ⊢
        omega
      · exact absurd h (by simp)
    · exact absurd h (by simp)
  · exact absurd h (by simp)

/-- A text without its style sequences. -/
def unstyledChars : List Char → List Char
  | [] => []
  | c :: s =>
    if c = styleStart then
      match _ : behindStyle? s with
      | some rest => unstyledChars rest
      | none => c :: unstyledChars s
    else c :: unstyledChars s
termination_by s => s.length
decreasing_by
  all_goals simp only [List.length_cons]
  · exact Nat.lt_succ_of_lt (behindStyle?_length ‹behindStyle? s = some _›)
  all_goals omega

def unstyled (s : String) : String := String.ofList (unstyledChars s.toList)

end TypedContent.Text
