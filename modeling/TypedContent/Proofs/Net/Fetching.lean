import TypedContent.Proofs.Json.LongIntegers
import TypedContent.Proofs.Net.Requests
import TypedContent.Proofs.Settings.Precedence
import TypedContent.Proofs.Settings.Sources
import TypedContent.Proofs.Text.Decoding

/-!
# What a fetch ends with

With the server's address of a configuration and without a token, a request is made whatever
identifier is asked for, and the fetch ends by what comes back (`fetch_outcome`): with a value, with
the envelope of a refusal, or with an error that names the URL.  Two kinds of message bodies alone
lead to errors of other kinds, which name no URL: bytes that are not whole units of the encoding
that they seem to have, and texts with an integer that is too long.
-/

namespace TypedContent.Net

open Settings

/-- The URL that an error of the fetch names; errors of other kinds name none. -/
def FetchError.url? : FetchError → Option String
  | unreachable url _ => some url
  | notJson url _ => some url
  | _ => none

/-- The bytes of a message are whole units of the encoding that the first of them show. -/
def IsWhole (bytes : ByteArray) : Prop :=
  (Text.detect bytes.toList).1.IsWhole (bytes.toList.drop (Text.detect bytes.toList).2)

/-- The bytes of a message can be read: as a text, and as far as the lengths of integers go. -/
def IsReadable (bytes : ByteArray) : Prop :=
  IsWhole bytes ∧ ∀ text e n, Text.decodeDetected bytes = .ok text →
    Json.readDocument text = .error e → e.fault ≠ .longInteger n

/-- What a fetch from `url` ends with, by what comes back from the network. -/
inductive Outcome (url : String) : Response → Except FetchError Json → Prop
  | value {bytes : ByteArray} {text : List Char} {v : Json}
    (htext : Text.decodeDetected bytes = .ok text) (hread : Json.readDocument text = .ok v) :
    Outcome url (.body bytes) (.ok v)
  | refusal (status : Int) (reason : String) (headers : Option Headers) :
    Outcome url (.refusal status reason headers) (.ok (Service.envelope status reason headers))
  | unreachable (reason : String) :
    Outcome url (.unreachable reason) (.error (.unreachable url reason))
  | notJson {bytes : ByteArray} {text : List Char} {e : Json.ReadError}
    (htext : Text.decodeDetected bytes = .ok text) (hread : Json.readDocument text = .error e)
    (hshort : ∀ n, e.fault ≠ .longInteger n) :
    Outcome url (.body bytes) (.error (.notJson url (e.message text)))
  | undecodable {bytes : ByteArray} {e : Text.DecodeError}
    (htext : Text.decodeDetected bytes = .error e) (hwhole : ¬ IsWhole bytes) :
    Outcome url (.body bytes) (.error (.undecodable e))
  /-- More digits in a row stand in the text than are read. -/
  | long {bytes : ByteArray} {text : List Char} {e : Json.ReadError} {n : Nat}
    (htext : Text.decodeDetected bytes = .ok text) (hread : Json.readDocument text = .error e)
    (hlong : e.fault = .longInteger n) (hdigits : Json.HasLongInteger text) :
    Outcome url (.body bytes) (.error (.number (e.message text)))

theorem isWhole_iff {bytes : ByteArray} :
    IsWhole bytes ↔ ∃ text, Text.decodeDetected bytes = .ok text :=
  Text.exists_decodeDetected_iff.symm

/-- Every response has its outcome. -/
theorem outcome_interpret (url : String) (response : Response) :
    Outcome url response (Service.interpret url response).2 := by
  cases response with
  | refusal status reason headers => exact .refusal status reason headers
  | unreachable reason => exact .unreachable reason
  | body bytes =>
    unfold Service.interpret Service.decodeBody
    simp only
    split
    · next e htext =>
      refine .undecodable htext fun hwhole => ?_
      obtain ⟨text, hok⟩ := isWhole_iff.mp hwhole
      cases htext.symm.trans hok
    · next text htext =>
      split
      · next v hread => exact .value htext hread
      · next e hread =>
        split
        · next n hlong =>
          exact .long htext hread hlong (Json.hasLongInteger_of_readDocument hread hlong)
        · next hshort => exact .notJson htext hread hshort

/-- A value, or an error that names the URL. -/
def IsRegular (url : String) (outcome : Except FetchError Json) : Prop :=
  (∃ v, outcome = .ok v) ∨ ∃ e, outcome = .error e ∧ e.url? = some url

/-- Nothing but a body that cannot be read leads to an irregular outcome, and every such body
does. -/
theorem Outcome.isRegular_iff {url : String} {response : Response}
    {outcome : Except FetchError Json} (h : Outcome url response outcome) :
    IsRegular url outcome ↔ ∀ bytes, response = .body bytes → IsReadable bytes := by
  constructor
  · rintro hregular bytes rfl
    cases h with
    | value htext hread =>
      refine ⟨isWhole_iff.mpr ⟨_, htext⟩, fun text e n htext' hread' => ?_⟩
      cases htext.symm.trans htext'
      cases hread.symm.trans hread'
    | notJson htext hread hshort =>
      refine ⟨isWhole_iff.mpr ⟨_, htext⟩, fun text e n htext' hread' => ?_⟩
      cases htext.symm.trans htext'
      cases hread.symm.trans hread'
      exact hshort n
    | undecodable => simp [IsRegular, FetchError.url?] at hregular
    | long => simp [IsRegular, FetchError.url?] at hregular
  · intro hbody
    cases h with
    | value => exact .inl ⟨_, rfl⟩
    | refusal => exact .inl ⟨_, rfl⟩
    | unreachable => exact .inr ⟨_, rfl, rfl⟩
    | notJson => exact .inr ⟨_, rfl, rfl⟩
    | undecodable _ hwhole => exact absurd (hbody _ rfl).1 hwhole
    | long htext hread hlong => exact absurd hlong ((hbody _ rfl).2 _ _ _ htext hread)

theorem Outcome.undecodable_of_not_isWhole {url : String} {bytes : ByteArray}
    {outcome : Except FetchError Json} (h : Outcome url (.body bytes) outcome)
    (hwhole : ¬ IsWhole bytes) : ∃ e, outcome = .error (.undecodable e) := by
  cases h with
  | undecodable => exact ⟨_, rfl⟩
  | value htext => exact absurd (isWhole_iff.mpr ⟨_, htext⟩) hwhole
  | notJson htext => exact absurd (isWhole_iff.mpr ⟨_, htext⟩) hwhole
  | long htext => exact absurd (isWhole_iff.mpr ⟨_, htext⟩) hwhole

/-- At an address that was accepted, the request for whatever identifier is made. -/
theorem exists_request_of_checkServerUrl {g : Given} {server : String}
    (h : checkServerUrl g = .ok server) (insecure : Bool) (timeout : Int) (network : Network)
    (disk : Files.Disk) (guid : String) :
    let fetched := (Service.ofUrl server none insecure timeout).fetch network disk guid
    ∃ url request, Url.join server.toList (pathFor guid).toList = .ok url ∧
      Url.target url = .ok request.url.toList ∧ fetched.request = some request ∧
      Outcome (String.ofList url) (network request.url) fetched.outcome := by
  obtain ⟨o, rest, -, hbase, hplaces⟩ := exists_places_of_checkServerUrl h
  obtain ⟨t, t', hjoin, htarget⟩ := hplaces guid
  have hbare : ((Service.ofUrl server none insecure timeout).token disk).2 = .ok none := rfl
  have hbased : Url.join (Service.ofUrl server none insecure timeout).baseUrl.toList
      (pathFor guid).toList = .ok (o.chars ++ '/' :: t) := by rwa [hbase]
  obtain ⟨hrequest, houtcome⟩ := Service.fetch_of_token hbased htarget hbare
  refine ⟨_, _, hjoin, ?_, hrequest, ?_⟩
  · rw [htarget, Service.requestTo, String.toList_ofList]
  · rw [houtcome]
    exact outcome_interpret _ _

/-- The address of a configuration was accepted. -/
theorem exists_checkServerUrl {d : Files.Disk} {r : Settings.Request} {config : Configuration}
    (h : (load d r).2 = .ok config) : ∃ g, checkServerUrl g = .ok config.serverUrl := by
  obtain ⟨environment, file, ofFile, envs, hloaded⟩ := exists_loaded h
  have houtcome := congrArg Settings.outcome hloaded.settled
  obtain ⟨-, ⟨g, -, -, hg⟩, -⟩ := outcome_settle_eq_some_iff.mp houtcome
  exact ⟨g, hg⟩

/-- A request is made, and the fetch ends by what comes back: regularly, unless that is a body that
cannot be read. -/
theorem fetch_outcome {d : Files.Disk} {r : Settings.Request} {config : Configuration}
    (hload : (load d r).2 = .ok config) (insecure : Bool) (timeout : Int) (network : Network)
    (disk : Files.Disk) (guid : String) :
    let fetched := (Service.ofUrl config.serverUrl none insecure timeout).fetch network disk guid
    ∃ url request, Url.join config.serverUrl.toList (pathFor guid).toList = .ok url ∧
      Url.target url = .ok request.url.toList ∧ fetched.request = some request ∧
      Outcome (String.ofList url) (network request.url) fetched.outcome ∧
      (IsRegular (String.ofList url) fetched.outcome ↔
        ∀ bytes, network request.url = .body bytes → IsReadable bytes) := by
  obtain ⟨g, hg⟩ := exists_checkServerUrl hload
  obtain ⟨url, request, hjoin, htarget, hrequest, houtcome⟩ :=
    exists_request_of_checkServerUrl hg insecure timeout network disk guid
  exact ⟨url, request, hjoin, htarget, hrequest, houtcome, houtcome.isRegular_iff⟩

/-- A server that answers every request with these bytes. -/
def answering (bytes : ByteArray) : Network := fun _ => .body bytes

/-- The identifier has parts of a URL of its own. -/
theorem fetch_outcome_project :
    ∃ config, (load projectDisk (requestFor "models")).2 = .ok config ∧
      let fetched := (Service.ofUrl config.serverUrl none false Service.defaultTimeout).fetch
        (answering "[1, 2".toUTF8) projectDisk "../..//other:80/?a#b"
      ∃ url request,
        Url.join config.serverUrl.toList (pathFor "../..//other:80/?a#b").toList = .ok url ∧
        Url.target url = .ok request.url.toList ∧ fetched.request = some request ∧
        Outcome (String.ofList url) (answering "[1, 2".toUTF8 request.url) fetched.outcome ∧
        (IsRegular (String.ofList url) fetched.outcome ↔
          ∀ bytes, answering "[1, 2".toUTF8 request.url = .body bytes → IsReadable bytes) := by
  have hloaded : (loaded? "models").isSome = true := by decide +kernel
  obtain ⟨config, hconfig⟩ := Option.isSome_iff_exists.mp hloaded
  have hload := loaded?_eq_some hconfig
  exact ⟨config, hload, fetch_outcome hload false Service.defaultTimeout
    (answering "[1, 2".toUTF8) projectDisk "../..//other:80/?a#b"⟩

/-- An answer that is no text ends a fetch with an error that names no URL. -/
theorem fetch_undecodable :
    ∃ url e, checkServerUrl (.text "http://localhost/") = .ok url ∧
      ((Service.ofUrl url none false Service.defaultTimeout).fetch (answering ⟨#[0xFF]⟩)
        projectDisk "").outcome = .error e ∧ e.url? = none := by
  have haccepted : (checkServerUrl (.text "http://localhost/")).toOption =
      some "http://localhost/" := by decide +kernel
  have hurl := Fallible.eq_ok_of_toOption haccepted
  have hbytes : (Text.decodeDetected ⟨#[0xFF]⟩).toOption = none := by decide +kernel
  have hwhole : ¬ IsWhole ⟨#[0xFF]⟩ := by
    rw [isWhole_iff]
    rintro ⟨text, htext⟩
    rw [htext] at hbytes
    contradiction
  obtain ⟨url, request, -, -, -, houtcome⟩ := exists_request_of_checkServerUrl hurl false
    Service.defaultTimeout (answering ⟨#[0xFF]⟩) projectDisk ""
  obtain ⟨e, he⟩ := houtcome.undecodable_of_not_isWhole hwhole
  exact ⟨_, _, hurl, he, rfl⟩

end TypedContent.Net
