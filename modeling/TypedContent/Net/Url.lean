import TypedContent.Net.Host
import TypedContent.Text.Blank

/-!
# URLs

A URL is split into five parts, and a relative one is resolved against a base.  A part that is
empty is not told apart from one that is missing.
-/

namespace TypedContent.Net

structure Url where
  scheme : List Char
  netloc : List Char
  path : List Char
  query : List Char
  fragment : List Char

namespace Url

/-! ## Splitting -/

def isSchemeChar (c : Char) : Bool :=
  c.isAlphanum || c == '+' || c == '-' || c == '.'

/-- The scheme at the start of a text, in lower case, with what stands behind its colon. -/
def scheme? (s : List Char) : Option (List Char × List Char) :=
  match s.dropWhile isSchemeChar with
  | ':' :: rest =>
    if (s.head?.any Char.isAlpha) then some ((s.takeWhile isSchemeChar).map Char.toLower, rest)
    else none
  | _ => none

/-- Control characters and blanks in front do not count, nor do tabulators and line ends. -/
def clean (s : List Char) : List Char :=
  (s.dropWhile fun c => c.toNat ≤ 0x20).filter fun c => c != '\t' && c != '\r' && c != '\n'

def isDelimiter (c : Char) : Bool := c == '/' || c == '?' || c == '#'

/-- What stands behind the last occurrence of a character; the whole text if there is none. -/
def behindLast (mark : Char) (s : List Char) : List Char :=
  (s.reverse.takeWhile (· != mark)).reverse

/-- A bracket opens right behind the user, and behind the closing one stands nothing or a colon. -/
def checkBrackets (netloc : List Char) : Except UrlError Unit :=
  match netloc.contains '[', netloc.contains ']' with
  | false, false => .ok ()
  | true, false => .error .brackets
  | false, true => .error .brackets
  | true, true =>
    let host := behindLast '@' netloc
    match host.dropWhile (· != '[') with
    | [] => Host.check (host.takeWhile (· != ':'))
    | _ :: bracketed =>
      let behind := (bracketed.dropWhile (· != ']')).drop 1
      if host.head? ≠ some '[' then .error .brackets
      else if behind ≠ [] ∧ behind.head? ≠ some ':' then .error .brackets
      else Host.check (bracketed.takeWhile (· != ']'))

/-- Characters that compatibility normalization turns into delimiters of a URL. -/
def disguised : List Nat :=
  [0x2047, 0x2048, 0x2049, 0x2100, 0x2101, 0x2105, 0x2106, 0x2A74, 0xFE13, 0xFE16, 0xFE55, 0xFE56,
   0xFE5F, 0xFE6B, 0xFF03, 0xFF0F, 0xFF1A, 0xFF1F, 0xFF20]

def checkNormalization (netloc : List Char) : Except UrlError Unit :=
  if netloc.any fun c => disguised.contains c.toNat then
    .error (.normalization (String.ofList netloc))
  else .ok ()

/-- Cuts a text at the first occurrence of a character. -/
def cut (mark : Char) (s : List Char) : List Char × List Char :=
  (s.takeWhile (· != mark), (s.dropWhile (· != mark)).drop 1)

/-- Splits a text whose scheme, if it gives none, is `default`. -/
def split (default s : List Char) : Except UrlError Url := do
  let s := clean s
  let (scheme, s) := (scheme? s).getD (default, s)
  let (netloc, s) := match s with
    | '/' :: '/' :: s => (s.takeWhile (!isDelimiter ·), s.dropWhile (!isDelimiter ·))
    | s => ([], s)
  checkBrackets netloc
  let (s, fragment) := cut '#' s
  let (path, query) := cut '?' s
  checkNormalization netloc
  pure ⟨scheme, netloc, path, query, fragment⟩

def ofString (s : String) : Except UrlError Url := split [] s.toList

/-! ## Putting together -/

/-- Schemes with a network location. -/
def locatedSchemes : List String :=
  ["", "ftp", "http", "gopher", "nntp", "telnet", "imap", "wais", "file", "mms", "https", "shttp",
   "snews", "prospero", "rtsp", "rtspu", "rsync", "svn", "svn+ssh", "sftp", "nfs", "git",
   "git+ssh", "ws", "wss"]

/-- Schemes whose URLs can be relative. -/
def relativeSchemes : List String :=
  ["", "ftp", "http", "gopher", "nntp", "imap", "wais", "file", "https", "shttp", "mms", "prospero",
   "rtsp", "rtspu", "sftp", "svn", "svn+ssh", "ws", "wss"]

/-- Schemes whose paths end in parameters behind a semicolon. -/
def parameterSchemes : List String :=
  ["", "ftp", "hdl", "prospero", "http", "imap", "https", "shttp", "rtsp", "rtspu", "sip",
   "sips", "mms", "sftp", "tel"]

def isAmong (schemes : List String) (u : Url) : Bool := schemes.contains (String.ofList u.scheme)

def rooted (s : List Char) : List Char :=
  if s.isEmpty || s.head? == some '/' then s else '/' :: s

def toChars (u : Url) : List Char :=
  let located := !u.netloc.isEmpty ||
    (!u.scheme.isEmpty && isAmong locatedSchemes u && !(['/', '/'].isPrefixOf u.path))
  let s := if located then '/' :: '/' :: u.netloc ++ rooted u.path else u.path
  let s := if u.scheme.isEmpty then s else u.scheme ++ ':' :: s
  let s := if u.query.isEmpty then s else s ++ '?' :: u.query
  if u.fragment.isEmpty then s else s ++ '#' :: u.fragment

/-! ## Resolving -/

/-- A path without the parameters of its last segment, and these. -/
def splitParameters (u : Url) : List Char × List Char :=
  if isAmong parameterSchemes u then
    let final := behindLast '/' u.path
    let above := u.path.take (u.path.length - final.length)
    (above ++ final.takeWhile (· != ';'), (final.dropWhile (· != ';')).drop 1)
  else (u.path, [])

def withParameters (path parameters : List Char) : List Char :=
  if parameters.isEmpty then path else path ++ ';' :: parameters

/-- Leaves out single dots; double dots take back the segment before them. -/
def foldDots : List (List Char) → List (List Char) → List (List Char)
  | done, [] => done
  | done, s :: rest =>
    if s = ['.', '.'] then foldDots done.dropLast rest
    else if s = ['.'] then foldDots done rest
    else foldDots (done ++ [s]) rest

/-- Leaves out empty segments between the first and the last. -/
def compact : List (List Char) → List (List Char)
  | [] => []
  | [s] => [s]
  | s :: rest => s :: (rest.dropLast.filter (!·.isEmpty)) ++ rest.getLast?.toList

def isDots (s : List Char) : Bool := s == ['.'] || s == ['.', '.']

def joinSegments (segments : List (List Char)) : List Char :=
  ['/'].intercalate segments

/-- The segments of a relative path below a base. -/
def segmentsBelow (base path : List Char) : List (List Char) :=
  let above := Files.Path.splitSlash base
  let above := if above.getLast? = some [] then above else above.dropLast
  if path.head? = some '/' then Files.Path.splitSlash path
  else compact (above ++ Files.Path.splitSlash path)

def resolvePath (base path : List Char) : List Char :=
  let segments := segmentsBelow base path
  let resolved := foldDots [] segments
  let resolved := if segments.getLast?.any isDots then resolved ++ [[]] else resolved
  match joinSegments resolved with
  | [] => ['/']
  | s => s

/-- The URL that `reference` means where `base` is. -/
def join (base reference : List Char) : Except UrlError (List Char) := do
  if base.isEmpty then pure reference
  else if reference.isEmpty then pure base
  else
    let b ← split [] base
    let r ← split b.scheme reference
    if r.scheme ≠ b.scheme ∨ !isAmong relativeSchemes r then pure reference
    else if isAmong locatedSchemes r && !r.netloc.isEmpty then pure r.toChars
    else
      let netloc := if isAmong locatedSchemes r then b.netloc else r.netloc
      let (path, parameters) := splitParameters r
      let (basePath, baseParameters) := splitParameters b
      if path.isEmpty && parameters.isEmpty then
        pure (toChars { r with
          netloc
          path := withParameters basePath baseParameters
          query := if r.query.isEmpty then b.query else r.query })
      else
        pure (toChars { r with netloc, path := withParameters (resolvePath basePath path) parameters })

/-! ## Requests -/

/-- A URL without the marks that may stand around it in a text. -/
def unwrap (s : List Char) : List Char :=
  let s := Text.trim s
  let s := if s.head? = some '<' ∧ s.getLast? = some '>' then Text.trim (s.drop 1).dropLast else s
  if "URL:".toList.isPrefixOf s then Text.trim (s.drop 4) else s

/-- Whether a request can be made at all: something stands before the first colon, which no slash
precedes. -/
def isRequestable (s : List Char) : Bool :=
  let kind := s.takeWhile fun c => c != '/' && c != ':'
  !kind.isEmpty && (s.drop kind.length).head? == some ':'

/-- Why no request can be made to a URL. -/
inductive RequestError where
  | unknownKind (url : String)
  | malformed (e : UrlError)

def RequestError.message : RequestError → String
  | .unknownKind url => "unknown url type: " ++ Text.quoted url
  | .malformed e => e.message

/-- The URL that a request is made to; an empty fragment is left out. -/
def target (url : List Char) : Except RequestError (List Char) :=
  let s := unwrap url
  let fragment := behindLast '#' s
  let front := if s.contains '#' then s.take (s.length - fragment.length - 1) else s
  let shown := if fragment.isEmpty then front else s
  if isRequestable front then
    match split [] shown with
    | .ok _ => .ok shown
    | .error e => .error (.malformed e)
  else .error (.unknownKind (String.ofList shown))

end Url

end TypedContent.Net
