import TypedContent.Net.Service
import TypedContent.Schema.NetworkError

/-!
# Clients

A client answers for a content server: it lists the types and describes one of them.  An answer is
a value, or the text of what went wrong.  `Client.request` tells the answers that can be used from
those that cannot, which it writes to the log.
-/

namespace TypedContent.Sync

open Files

def logger : String := "episync.core.services.model_sync"

inductive Question where
  | overview
  | type (guid : String)
  deriving DecidableEq

structure Reply where
  log : List Log.Event
  /-- The request on the network, if one was made. -/
  request : Option Net.Request
  outcome : Except String Json

/-- A client may read its token from disk for every question. -/
structure Client where
  baseUrl : String
  answer : Disk → Question → Reply

/-- Tells who is logged in, or why that is not known. -/
abbrev Login := Disk → List Log.Event × Except String Json

/-- A question that was asked, with the request that it led to. -/
structure Exchange where
  question : Question
  request : Option Net.Request

namespace Client

/-- The client of a server on the network. -/
def ofService (s : Net.Service) (network : Net.Network) : Client where
  baseUrl := s.baseUrl
  answer d q :=
    let fetched := s.fetch network d (match q with | .overview => "" | .type guid => guid)
    ⟨fetched.log, fetched.request, fetched.outcome.mapError (·.message)⟩

/-- What a question led to; `payload` is there if it can be used. -/
structure Requested where
  log : List Log.Event
  exchange : Exchange
  payload : Option Json

/-- Asks a question; `what` names in the log what it is about.  Neither an error nor an envelope of
one can be used, nor can null. -/
def request (c : Client) (d : Disk) (q : Question) (what : String) : Requested :=
  let reply := c.answer d q
  let exchange : Exchange := ⟨q, reply.request⟩
  let failed (reason : String) : Requested :=
    ⟨reply.log ++ [.main logger Log.Level.error ("Error while fetching " ++ what ++ ": " ++ reason)],
      exchange, none⟩
  match reply.outcome with
  | .error reason => failed reason
  | .ok .null => ⟨reply.log, exchange, none⟩
  | .ok payload =>
    if Schema.isNetworkError payload then failed payload.shown
    else ⟨reply.log, exchange, some payload⟩

end Client

/-- The login whose token a project keeps. -/
def Login.ofTokens (s : Net.TokenStore) : Login := fun d =>
  let (log, user) := s.user d
  (log, match user with
    | .ok u => .ok (u.getD .null)
    | .error e => .error e.message)

/-- The user of a run; what is not known counts as anonymous. -/
def currentUser (login : Option Login) (d : Disk) : List Log.Event × Json :=
  match login with
  | none => ([], .null)
  | some login =>
    match login d with
    | (log, .error reason) => (log ++ [.main logger Log.Level.warning
        ("Unable to determine the current user: " ++ reason)], .null)
    | (log, .ok user) =>
      let message := if user.isPresent then "Authenticated as " ++ user.plain
        else "Using an unauthenticated connection"
      (log ++ [.main logger Log.Level.info message], user)

end TypedContent.Sync
