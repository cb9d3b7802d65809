import TypedContent.Json.Value

/-!
# Writing JSON

Values are written in ASCII, on one line or with an indentation of two blanks per level.  Other
characters are escaped as one UTF-16 unit or two.
-/

namespace TypedContent.Json

def unitEscape (n : Nat) : List Char := '\\' :: 'u' :: Text.hex 4 n

def escapeChar (c : Char) : List Char :=
  if c = '"' ∨ c = '\\' then ['\\', c]
  else if c = '\n' then ['\\', 'n']
  else if c = '\r' then ['\\', 'r']
  else if c = '\t' then ['\\', 't']
  else if c = '\u0008' then ['\\', 'b']
  else if c = '\u000c' then ['\\', 'f']
  else if ' ' ≤ c ∧ c ≤ '~' then [c]
  else if c.toNat < 0x10000 then unitEscape c.toNat
  else unitEscape (0xD800 + (c.toNat - 0x10000) / 0x400) ++
    unitEscape (0xDC00 + (c.toNat - 0x10000) % 0x400)

def writeString (s : String) : String :=
  String.ofList ('"' :: s.toList.flatMap escapeChar ++ ['"'])

def writeScalar : Json → String
  | bool true => "true"
  | bool false => "false"
  | int n => toString n
  | real .nan => "NaN"
  | real (.infinite false) => "Infinity"
  | real (.infinite true) => "-Infinity"
  | real x => x.shown
  | str s => writeString s
  | _ => "null"

mutual

/-- A value on one line. -/
def compact : Json → String
  | arr items => "[" ++ ",".intercalate (compactItems items) ++ "]"
  | obj fields => "\x7b" ++ ",".intercalate (compactFields fields) ++ "\x7d"
  | v => writeScalar v

def compactItems : List Json → List String
  | [] => []
  | v :: vs => compact v :: compactItems vs

def compactFields : List (String × Json) → List String
  | [] => []
  | (n, v) :: fs => (writeString n ++ ":" ++ compact v) :: compactFields fs

end

def newline (level : Nat) : String := "\n" ++ String.ofList (List.replicate (2 * level) ' ')

/-- Brackets around entries, one entry a line; no entries, no line. -/
def bracketed (opening closing : String) (level : Nat) (entries : List String) : String :=
  if entries.isEmpty then opening ++ closing
  else opening ++ newline (level + 1) ++ ("," ++ newline (level + 1)).intercalate entries ++
    newline level ++ closing

mutual

/-- A value over several lines, its first line standing at `level`. -/
def indented (level : Nat) : Json → String
  | arr items => bracketed "[" "]" level (indentedItems (level + 1) items)
  | obj fields => bracketed "\x7b" "\x7d" level (indentedFields (level + 1) fields)
  | v => writeScalar v

def indentedItems (level : Nat) : List Json → List String
  | [] => []
  | v :: vs => indented level v :: indentedItems level vs

def indentedFields (level : Nat) : List (String × Json) → List String
  | [] => []
  | (n, v) :: fs => (writeString n ++ ": " ++ indented level v) :: indentedFields level fs

end

end TypedContent.Json
