import TypedContent.Net.Tokens
import TypedContent.Text.Casing

/-!
# The model service

The service of a content server lists the content types, and describes one of them by its
identifier.  A refusal of the server becomes an error envelope; all else that goes wrong is an
error of the fetch.
-/

namespace TypedContent.Net

open Files

def servicePath : String := "api/episerver/v3/model"

/-- The path for one type, relative to the server; without an identifier the path of the overview. -/
def pathFor (guid : String) : String := if guid = "" then servicePath else servicePath ++ "/" ++ guid

/-! ## Headers -/

/-- The headers of an answer: those of a message, or a plain map in their place. -/
inductive Headers where
  | message (fields : List (String × String))
  | map (fields : List (String × String))

namespace Headers

def fields : Headers → List (String × String)
  | message fields | map fields => fields

/-- What the names of headers are compared by.  In a message their case does not count. -/
def key : Headers → String → List Char
  | message _, name => Text.Casing.lower name.toList
  | map _, name => name.toList

/-- The value of the first header of that name. -/
def get? (h : Headers) (name : String) : Option String :=
  (h.fields.find? fun f => h.key f.1 = h.key name).map (·.2)

theorem get?_eq_some_iff {h : Headers} {name value : String} :
    h.get? name = some value ↔ ∃ before spelled after,
      h.fields = before ++ (spelled, value) :: after ∧ h.key spelled = h.key name ∧
        ∀ f ∈ before, h.key f.1 ≠ h.key name := by
  simp only [get?, Option.map_eq_some_iff, List.find?_eq_some_iff_append, decide_eq_true_eq,
    Bool.not_eq_true', decide_eq_false_iff_not]
  constructor
  · rintro ⟨⟨spelled, _⟩, ⟨hname, before, after, hfields, hbefore⟩, rfl⟩
    exact ⟨before, spelled, after, hfields, hname, hbefore⟩
  · rintro ⟨before, spelled, after, hfields, hname, hbefore⟩
    exact ⟨(spelled, value), ⟨hname, before, after, hfields, hbefore⟩, rfl⟩

/-- The case of a name does not count in a message, and does in a plain map. -/
example : (message [("content-type", "text/html")]).get? "Content-Type" = some "text/html" ∧
    (map [("content-type", "text/html")]).get? "Content-Type" = none := by
  decide +kernel

end Headers

/-! ## Exchanges -/

structure Request where
  url : String
  headers : List (String × String)
  timeout : Int
  insecure : Bool

/-- What comes back from the network. -/
inductive Response where
  | body (bytes : ByteArray)
  /-- The server refuses; its headers may be missing. -/
  | refusal (status : Int) (reason : String) (headers : Option Headers)
  | unreachable (reason : String)

/-- The network answers every URL. -/
abbrev Network := String → Response

inductive FetchError where
  | address (e : UrlError)
  | token (e : TokenError)
  | request (e : Url.RequestError)
  | unreachable (url reason : String)
  /-- The body is no JSON, for the reason that the reader gives. -/
  | notJson (url reason : String)
  | undecodable (e : Text.DecodeError)
  /-- The answer holds a number that is too long. -/
  | number (text : String)

def FetchError.message : FetchError → String
  | .address e => e.message
  | .token e => e.message
  | .request e => e.message
  | .unreachable url reason => "Error while fetching " ++ url ++ ": " ++ reason
  | .notJson url reason => "Error while fetching " ++ url ++ ": invalid JSON response: " ++ reason
  | .undecodable e => e.message
  | .number text => text

/-- The outcome of a fetch, with what was written to the log and the request that was made. -/
structure Fetched where
  log : List Log.Event
  request : Option Request
  outcome : Except FetchError Json

/-! ## The client -/

structure Service where
  baseUrl : String
  tokens : Option TokenStore
  insecure : Bool
  timeout : Int

namespace Service

def defaultTimeout : Int := 30

/-- The service of the server at `url`, to which a slash is added if it does not end in one. -/
def ofUrl (url : String) (tokens : Option TokenStore) (insecure : Bool) (timeout : Int) : Service :=
  ⟨if url.toList.getLast? = some '/' then url else url ++ "/", tokens, insecure, timeout⟩

def agent : String := "episync/0.1.0"

def headersWith (token : Option Json) : List (String × String) :=
  [("Accept", "application/json"), ("User-agent", agent)] ++
    match token with
    | some t => [("Authorization", "Bearer " ++ t.plain)]
    | none => []

/-- The envelope for a refusal.  The type of its content counts as plain text if it is not given. -/
def envelope (status : Int) (reason : String) (headers : Option Headers) : Json :=
  let contentType := (headers.bind (·.get? "Content-Type")).getD "text/plain"
  .obj [("error", .obj [("status", .int status), ("message", .str reason)]),
    ("contentType", .str contentType)]

/-- The value that a message body holds. -/
def decodeBody (url : String) (bytes : ByteArray) : Except FetchError Json :=
  match Text.decodeDetected bytes with
  | .error e => .error (.undecodable e)
  | .ok text =>
    match Json.readDocument text with
    | .ok v => .ok v
    | .error e =>
      match e.fault with
      | .longInteger _ => .error (.number (e.message text))
      | _ => .error (.notJson url (e.message text))

/-- What a response means, with what it adds to the log. -/
def interpret (url : String) : Response → List Log.Event × Except FetchError Json
  | .body bytes => ([], decodeBody url bytes)
  | .refusal status reason headers =>
    ([.main logger Log.Level.debug ("GET " ++ url ++ " → HTTP " ++ toString status)],
      .ok (envelope status reason headers))
  | .unreachable reason => ([], .error (.unreachable url reason))

def token (s : Service) (d : Disk) : List Log.Event × Except TokenError (Option Json) :=
  match s.tokens with
  | none => ([], .ok none)
  | some store => store.accessToken d

/-- Asks for one type, or without an identifier for the overview. -/
def fetch (s : Service) (network : Network) (d : Disk) (guid : String) : Fetched :=
  match Url.join s.baseUrl.toList (pathFor guid).toList with
  | .error e => ⟨[], none, .error (.address e)⟩
  | .ok chars =>
    let url := String.ofList chars
    match s.token d with
    | (log, .error e) => ⟨log, none, .error (.token e)⟩
    | (log, .ok token) =>
      let log := log ++ [.main logger Log.Level.debug ("GET " ++ url)]
      match Url.target chars with
      | .error e => ⟨log, none, .error (.request e)⟩
      | .ok target =>
        let request : Request := ⟨String.ofList target, headersWith token, s.timeout, s.insecure⟩
        let (more, outcome) := interpret url (network request.url)
        ⟨log ++ more, some request, outcome⟩

end Service

end TypedContent.Net
