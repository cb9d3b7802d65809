import TypedContent.Files.Disk
import TypedContent.Json.Reader
import TypedContent.Log.Record
import TypedContent.Net.Url

/-!
# Stored tokens

The token for a server lies in a file of the project that is named after the server's host.  A file
that is missing or holds no object stands for anonymous access.
-/

namespace TypedContent.Net

open Files

def logger : String := "episync.adapters.content_delivery"

structure TokenStore where
  path : Path

/-- Why a token file that is there could not be read. -/
inductive TokenError where
  | reading (e : ReadError)
  /-- The file holds a number that is too long. -/
  | number (text : String)

def TokenError.message : TokenError → String
  | .reading e => e.message
  | .number text => text

namespace TokenStore

def directory : String := ".episync/auth"

/-- The name of a host as part of a file name. -/
def hostName (netloc : List Char) : String :=
  if netloc.isEmpty then "default"
  else String.ofList (netloc.map fun c => if c = ':' then '_' else c)

/-- The tokens for the server at `url` that a project keeps. -/
def ofServer (root : Path) (url : String) : Except UrlError TokenStore :=
  (Url.ofString url).map fun u =>
    ⟨(root.join (Path.ofString directory)).join (Path.ofString (hostName u.netloc ++ ".json"))⟩

def ignored (s : TokenStore) (reason : String) : List Log.Event :=
  [.main logger Log.Level.warning
    ("Ignoring unreadable token file " ++ s.path.toString ++ ": " ++ reason)]

/-- The fields of the stored object. -/
def load (s : TokenStore) (d : Disk) : List Log.Event × Except TokenError (List (String × Json)) :=
  match d.isFile s.path with
  | .error e => ([], .error (.reading (.access (.disk e))))
  | .ok false => ([], .ok [])
  | .ok true =>
    match d.readText s.path with
    | .error (.access (.disk e)) => (s.ignored e.message, .ok [])
    | .error e => ([], .error (.reading e))
    | .ok text =>
      match Json.read text.toList with
      | .ok (.obj fields) => ([], .ok fields)
      | .ok _ => ([], .ok [])
      | .error e =>
        match e.fault with
        | .longInteger _ => ([], .error (.number (e.message text.toList)))
        | _ => (s.ignored (e.message text.toList), .ok [])

/-- A field that is present. -/
def presentField? (name : String) (fields : List (String × Json)) : Option Json :=
  (fields.lookup name).filter Json.isPresent

/-- The token to show to the server. -/
def accessToken (s : TokenStore) (d : Disk) : List Log.Event × Except TokenError (Option Json) :=
  let (log, fields) := s.load d
  (log, fields.map (presentField? "access_token"))

/-- The user that the token belongs to. -/
def user (s : TokenStore) (d : Disk) : List Log.Event × Except TokenError (Option Json) :=
  let (log, fields) := s.load d
  (log, fields.map fun fs => (presentField? "access_token" fs).bind fun _ => presentField? "username" fs)

end TokenStore

end TypedContent.Net
