import TypedContent.Double
import TypedContent.Text.Digits
import TypedContent.Text.Quoted

/-!
# JSON values

Objects keep the order of their fields.  Numbers are integers of any size, or, with a fraction or an
exponent, of double precision.
-/

namespace TypedContent

inductive Json where
  | null
  | bool (b : Bool)
  | int (n : Int)
  | real (x : Double)
  | str (s : String)
  | arr (items : List Json)
  | obj (fields : List (String × Json))
  deriving Inhabited

namespace Json

/-- The value of a field; of fields with one name the first counts. -/
def field? (name : String) : Json → Option Json
  | obj fields => fields.lookup name
  | _ => none

/-- Sets a field: a new one goes to the end, a known one keeps its place. -/
def setField {κ : Type} [DecidableEq κ] (name : κ) (v : Json) : List (κ × Json) → List (κ × Json)
  | [] => [(name, v)]
  | (n, w) :: fs => if n = name then (n, v) :: fs else (n, w) :: setField name v fs

/-- A value is present unless it is null, false, zero or empty. -/
def isPresent : Json → Bool
  | null => false
  | bool b => b
  | int n => n != 0
  | real x => !x.isZero
  | str s => s != ""
  | arr items => !items.isEmpty
  | obj fields => !fields.isEmpty

mutual

/-- Whether a value is or holds an integer that is too long to be written. -/
def isOverlong : Json → Bool
  | int n => (Text.decimal? n).isNone
  | arr items => anyOverlong items
  | obj fields => anyOverlongField fields
  | _ => false

def anyOverlong : List Json → Bool
  | [] => false
  | v :: vs => isOverlong v || anyOverlong vs

def anyOverlongField : List (String × Json) → Bool
  | [] => false
  | (_, v) :: fs => isOverlong v || anyOverlongField fs

end

/-- The name of a value's kind, as messages give it. -/
def kindName : Json → String
  | null => "NoneType"
  | bool _ => "bool"
  | int _ => "int"
  | real _ => "float"
  | str _ => "str"
  | arr _ => "list"
  | obj _ => "dict"

/-! ## Values in messages -/

mutual

/-- A value as messages show it, texts in quotes. -/
def shown : Json → String
  | null => "None"
  | bool true => "True"
  | bool false => "False"
  | int n => toString n
  | real x => x.shown
  | str s => Text.quoted s
  | arr items => "[" ++ ", ".intercalate (shownItems items) ++ "]"
  | obj fields => "\x7b" ++ ", ".intercalate (shownFields fields) ++ "\x7d"

def shownItems : List Json → List String
  | [] => []
  | v :: vs => shown v :: shownItems vs

def shownFields : List (String × Json) → List String
  | [] => []
  | (n, v) :: fs => (Text.quoted n ++ ": " ++ shown v) :: shownFields fs

end

/-- A value as part of a sentence: a text stands for itself. -/
def plain : Json → String
  | str s => s
  | v => shown v

end Json

end TypedContent
