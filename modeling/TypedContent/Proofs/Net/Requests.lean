import TypedContent.Proofs.Net.Origins

/-!
# Requests

A fetch makes at most one request.  `exists_of_request` says what led to it and what comes of it;
`fetch_showing` and `fetch_of_token_error`, what difference a token makes, and one that cannot be
read.  At an address that was accepted for the server the URL of the request can be put together
(`exists_places_of_checkServerUrl`), so that by `fetch_of_token` it is made wherever the token is
known.
-/

namespace TypedContent.Net

/-- The same request, with this token shown. -/
def Request.showing (r : Request) (token : Option Json) : Request :=
  { r with headers := Service.headersWith token }

namespace Service

variable {s : Service} {network : Network} {d : Files.Disk} {guid : String}

/-- The request of a fetch, by where it goes and what token it shows. -/
def requestTo (s : Service) (target : List Char) (token : Option Json) : Request :=
  ⟨String.ofList target, headersWith token, s.timeout, s.insecure⟩

/-- A request that was made shows the token that was read, and its response is the outcome. -/
theorem exists_of_request {request : Request}
    (h : (s.fetch network d guid).request = some request) :
    ∃ url target token, Url.join s.baseUrl.toList (pathFor guid).toList = .ok url ∧
      Url.target url = .ok target ∧ (s.token d).2 = .ok token ∧
      request = s.requestTo target token ∧
      (s.fetch network d guid).outcome =
        (interpret (String.ofList url) (network request.url)).2 := by
  unfold fetch at h ⊢
  cases hjoin : Url.join s.baseUrl.toList (pathFor guid).toList with
  | error e => simp [hjoin] at h
  | ok url =>
    cases htoken : s.token d with
    | mk log read =>
      cases read with
      | error e => simp [hjoin, htoken] at h
      | ok token =>
        cases htarget : Url.target url with
        | error e => simp [hjoin, htoken, htarget] at h
        | ok target =>
          simp only [hjoin, htoken, htarget, Option.some.injEq] at h
          subst h
          refine ⟨url, target, token, rfl, htarget, rfl, rfl, ?_⟩
          simp only [htarget]

/-- With a token that was read, the request is made. -/
theorem fetch_of_token {url target : List Char} {token : Option Json}
    (hjoin : Url.join s.baseUrl.toList (pathFor guid).toList = .ok url)
    (htarget : Url.target url = .ok target) (htoken : (s.token d).2 = .ok token) :
    (s.fetch network d guid).request = some (s.requestTo target token) ∧
      (s.fetch network d guid).outcome =
        (interpret (String.ofList url) (network (String.ofList target))).2 := by
  unfold fetch
  generalize s.token d = read at htoken
  obtain ⟨log, read⟩ := read
  obtain rfl : read = .ok token := htoken
  constructor
  · simp only [hjoin, htarget, requestTo]
  · simp only [hjoin, htarget]

/-- Without, nothing is asked of the network. -/
theorem fetch_of_token_error {e : TokenError} (htoken : (s.token d).2 = .error e) :
    (s.fetch network d guid).request = none ∧
      ∀ url, Url.join s.baseUrl.toList (pathFor guid).toList = .ok url →
        (s.fetch network d guid).outcome = .error (.token e) := by
  unfold fetch
  generalize s.token d = read at htoken
  obtain ⟨log, read⟩ := read
  obtain rfl : read = .error e := htoken
  cases Url.join s.baseUrl.toList (pathFor guid).toList with
  | error x => simp
  | ok url => simp

/-- The same service for those who have no token. -/
def withoutTokens (s : Service) : Service := { s with tokens := none }

/-- A token that was read is shown with the request, and makes no other difference. -/
theorem fetch_showing {token : Option Json} (htoken : (s.token d).2 = .ok token) :
    (s.fetch network d guid).request =
        (s.withoutTokens.fetch network d guid).request.map (·.showing token) ∧
      (s.fetch network d guid).outcome = (s.withoutTokens.fetch network d guid).outcome := by
  have hnone : s.withoutTokens.token d = ([], .ok none) := rfl
  unfold fetch
  rw [hnone]
  generalize s.token d = read at htoken
  obtain ⟨log, read⟩ := read
  obtain rfl : read = .ok token := htoken
  simp only [withoutTokens]
  cases Url.join s.baseUrl.toList (pathFor guid).toList with
  | error x => exact ⟨rfl, rfl⟩
  | ok url =>
    cases htarget : Url.target url with
    | error x => simp [htarget]
    | ok target => simp [htarget, Request.showing]

end Service

/-- From an address that was accepted for the server, every URL that is asked for stays at its
origin. -/
theorem exists_places_of_checkServerUrl {g : Settings.Given} {server : String}
    (h : Settings.checkServerUrl g = .ok server) :
    ∃ (o : Origin) (rest : List Char), o.Begins server.toList rest ∧
      (∀ tokens insecure timeout,
        (Service.ofUrl server tokens insecure timeout).baseUrl = server) ∧
      ∀ guid, ∃ t t', Url.join server.toList (pathFor guid).toList = .ok (o.chars ++ '/' :: t) ∧
        Url.target (o.chars ++ '/' :: t) = .ok (o.chars ++ '/' :: t') := by
  obtain ⟨o, rest, hbegins, hslash⟩ := Origin.exists_origin_of_checkServerUrl h
  refine ⟨o, rest, hbegins, fun tokens insecure timeout => ?_, fun guid => ?_⟩
  · simp only [Service.ofUrl, hslash, if_true]
  · obtain ⟨t, hjoin⟩ := hbegins.exists_join guid
    obtain ⟨t', htarget⟩ := o.exists_target t
    exact ⟨t, t', hjoin, htarget⟩

end TypedContent.Net
