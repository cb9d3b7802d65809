import TypedContent.Proofs.Net.Requests
import TypedContent.Proofs.Sync.Generation
import TypedContent.Sync.Overview

/-!
# Refusals of the server

A refusal becomes an envelope, and a request fails if its answer is recognised as one.
`refusals_recognised`: that is so unless the server names an empty type of content, and in no case
is a refusal taken for an overview or for a definition.
-/

namespace TypedContent.Sync

open Files Schema Net

/-- The server names the type of its content, and the first such header is empty. -/
def NamesEmptyType (headers : Option Headers) : Prop :=
  ∃ h before spelled after, headers = some h ∧ h.fields = before ++ (spelled, "") :: after ∧
    h.key spelled = h.key "Content-Type" ∧ ∀ f ∈ before, h.key f.1 ≠ h.key "Content-Type"

theorem namesEmptyType_iff {headers : Option Headers} :
    NamesEmptyType headers ↔ headers.bind (·.get? "Content-Type") = some "" := by
  rw [Option.bind_eq_some_iff]
  constructor
  · rintro ⟨h, before, spelled, after, hsome, hfirst⟩
    exact ⟨h, hsome, Headers.get?_eq_some_iff.mpr ⟨before, spelled, after, hfirst⟩⟩
  · rintro ⟨h, hsome, hget⟩
    obtain ⟨before, spelled, after, hfirst⟩ := Headers.get?_eq_some_iff.mp hget
    exact ⟨h, before, spelled, after, hsome, hfirst⟩

section

variable {c : Client} {d : Disk} {q : Question} {payload : Json}

theorem isNetworkError_envelope (status : Int) (reason : String) (headers : Option Headers) :
    isNetworkError (Service.envelope status reason headers) = true ↔ ¬ NamesEmptyType headers := by
  have hrecognised : isNetworkError (Service.envelope status reason headers) = true ↔
      (headers.bind (·.get? "Content-Type")).getD "text/plain" ≠ "" := by
    simp [isNetworkError, Service.envelope, Json.isPresent, List.lookup_cons]
  rw [hrecognised, namesEmptyType_iff]
  cases headers.bind (·.get? "Content-Type") <;> simp

/-- What is written to the log about an answer that is an envelope. -/
def envelopeFailure (what : String) (payload : Json) : Log.Event :=
  .main logger Log.Level.error ("Error while fetching " ++ what ++ ": " ++ payload.shown)

theorem request_of_envelope (h : (c.answer d q).outcome = .ok payload)
    (herror : isNetworkError payload = true) (what : String) :
    (c.request d q what).payload = none ∧
      (c.request d q what).log = (c.answer d q).log ++ [envelopeFailure what payload] := by
  unfold Client.request
  cases payload with
  | obj fields =>
    simp only [h, herror, if_true]
    exact ⟨trivial, rfl⟩
  | _ => contradiction

theorem request_of_no_envelope {fields : List (String × Json)}
    (h : (c.answer d q).outcome = .ok (.obj fields))
    (herror : isNetworkError (.obj fields) = false) (what : String) :
    (c.request d q what).payload = some (.obj fields) ∧
      (c.request d q what).log = (c.answer d q).log := by
  unfold Client.request
  simp only [h, herror, Bool.false_eq_true, if_false]
  exact ⟨trivial, trivial⟩

/-- Nothing that a definition needs is in an envelope. -/
theorem exists_ofJson_envelope (status : Int) (reason : String) (headers : Option Headers) :
    ∃ e, TypeDefinition.ofJson (Service.envelope status reason headers) = .error e :=
  ⟨_, rfl⟩

end

/-- The answer to a request that the server refuses is its envelope. -/
theorem answer_of_refusal {s : Service} {network : Network} {d : Disk} {q : Question}
    {request : Net.Request} {status : Int} {reason : String} {headers : Option Headers}
    (hmade : ((Client.ofService s network).answer d q).request = some request)
    (hrefused : network request.url = .refusal status reason headers) :
    ((Client.ofService s network).answer d q).outcome =
      .ok (Service.envelope status reason headers) := by
  obtain ⟨url, target, token, -, -, -, -, houtcome⟩ := Service.exists_of_request hmade
  simp only [Client.ofService, houtcome, hrefused, Service.interpret, Except.mapError]

/-- A refusal is recognised, and logged as a failure, unless the server names an empty type of
content; one that is not recognised is handed on, but is no data of the schema. -/
theorem refusals_recognised {s : Service} {network : Network} {d : Disk} {q : Question}
    {request : Net.Request} {status : Int} {reason : String} {headers : Option Headers}
    (hmade : ((Client.ofService s network).answer d q).request = some request)
    (hrefused : network request.url = .refusal status reason headers) (what : String) :
    let reply := (Client.ofService s network).answer d q
    let asked := (Client.ofService s network).request d q what
    let envelope := Service.envelope status reason headers
    reply.outcome = .ok envelope ∧
      (isNetworkError envelope = true ↔ ¬ NamesEmptyType headers) ∧
      (¬ NamesEmptyType headers →
        asked.payload = none ∧ asked.log = reply.log ++ [envelopeFailure what envelope]) ∧
      (NamesEmptyType headers → asked.payload = some envelope ∧ asked.log = reply.log) ∧
      (∀ types, readOverview envelope ≠ .ok types) ∧
      ∀ t names file, modelOf t names asked.payload ≠ .ok file := by
  have houtcome := answer_of_refusal hmade hrefused
  have hiff := isNetworkError_envelope status reason headers
  refine ⟨houtcome, hiff, fun hnamed => ?_, fun hempty => ?_, fun types => ?_, fun t names file => ?_⟩
  · exact request_of_envelope houtcome (hiff.mpr hnamed) what
  · have herror : isNetworkError (Service.envelope status reason headers) = false := by
      rw [← Bool.not_eq_true, hiff]
      exact not_not_intro hempty
    exact request_of_no_envelope houtcome herror what
  · simp [readOverview, Service.envelope]
  · rw [request_payload, houtcome, Ne, modelOf_eq_ok_iff]
    rintro ⟨payload, definition, hpayload, hdefinition, -, -⟩
    obtain rfl := Except.ok.inj (eq_ok_of_usable_eq_some hpayload)
    obtain ⟨e, he⟩ := exists_ofJson_envelope status reason headers
    cases he.symm.trans hdefinition

/-- A service without tokens. -/
def localService : Service :=
  .ofUrl "http://localhost/" none false Service.defaultTimeout

def blankDisk : Disk := ⟨.empty, [], noFaults⟩

/-- A server that refuses every request, with a message of these headers. -/
def refusing (fields : List (String × String)) : Network :=
  fun _ => .refusal 404 "Not Found" (some (.message fields))

/-- The headers of a page, with the type of its content in lower case and behind another one. -/
def pageHeaders : List (String × String) :=
  [("Allow", "GET"), ("content-type", "text/html"), ("Content-Type", "")]

/-- The overview is asked for, and the server tells that its refusal is a page. -/
theorem refusals_recognised_page :
    let reply := (Client.ofService localService (refusing pageHeaders)).answer blankDisk .overview
    let asked := (Client.ofService localService (refusing pageHeaders)).request blankDisk .overview
      "model overview"
    let envelope := Service.envelope 404 "Not Found" (some (.message pageHeaders))
    ∃ request, reply.request = some request ∧
      refusing pageHeaders request.url = .refusal 404 "Not Found" (some (.message pageHeaders)) ∧
      isNetworkError envelope = true ∧
      asked.payload = none ∧ asked.log = reply.log ++ [envelopeFailure "model overview" envelope] := by
  intro reply asked envelope
  have hmade : reply.request.isSome = true := by decide +kernel
  obtain ⟨request, hrequest⟩ := Option.isSome_iff_exists.mp hmade
  have hrefused : refusing pageHeaders request.url =
      .refusal 404 "Not Found" (some (.message pageHeaders)) := rfl
  have hget : (Headers.message pageHeaders).get? "Content-Type" = some "text/html" := by
    decide +kernel
  have hnamed : ¬ NamesEmptyType (some (.message pageHeaders)) := by
    rw [namesEmptyType_iff, Option.bind_some, hget]
    simp
  obtain ⟨-, hrecognised, hfailed, -⟩ :=
    refusals_recognised hrequest hrefused "model overview"
  exact ⟨request, hrequest, hrefused, hrecognised.mpr hnamed, hfailed hnamed⟩

/-- A refusal whose type of content is empty is handed on. -/
theorem refusal_unrecognised :
    let c := Client.ofService localService (refusing [("content-type", "")])
    let envelope := Service.envelope 404 "Not Found" (some (.message [("content-type", "")]))
    (c.answer blankDisk .overview).outcome = .ok envelope ∧ isNetworkError envelope = false ∧
      (c.request blankDisk .overview "model overview").payload = some envelope := by
  intro c envelope
  have hmade : (c.answer blankDisk .overview).request.isSome = true := by decide +kernel
  obtain ⟨request, hrequest⟩ := Option.isSome_iff_exists.mp hmade
  have houtcome : (c.answer blankDisk .overview).outcome = .ok envelope :=
    answer_of_refusal hrequest rfl
  have hempty : NamesEmptyType (some (.message [("content-type", "")])) :=
    ⟨_, [], "content-type", [], rfl, rfl, by decide +kernel, by simp⟩
  have hunseen : isNetworkError envelope = false := by
    rw [← Bool.not_eq_true, isNetworkError_envelope]
    exact not_not_intro hempty
  exact ⟨houtcome, hunseen, (request_of_no_envelope houtcome hunseen "model overview").1⟩

end TypedContent.Sync
