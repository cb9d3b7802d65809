import TypedContent.Command.Models
import TypedContent.Proofs.Net.Fetching
import TypedContent.Proofs.Net.Requests
import TypedContent.Proofs.Sync.Exchanges

/-!
# Where requests go

Whatever the identifiers of a server hold, no request leads away from it: `requests_stay` says so of
one fetch and of all exchanges of a run.  Tokens are shown with these requests and with no others.
A request is what a client hands to the network; redirections are the network's.
-/

namespace TypedContent.Net

open Files Settings

/-- The URL has the scheme and the network location of the server's address. -/
def SameOrigin (server url : String) : Prop :=
  ∃ u v, Url.ofString server = .ok u ∧ Url.ofString url = .ok v ∧
    v.scheme = u.scheme ∧ v.netloc = u.netloc

theorem Origin.Begins.sameOrigin {o : Origin} {server : String} {rest : List Char}
    (h : o.Begins server.toList rest) (t : List Char) :
    SameOrigin server (String.ofList (o.chars ++ '/' :: t)) := by
  obtain ⟨u, hu, hscheme, hnetloc⟩ := h.exists_split []
  obtain ⟨rest', hbegins⟩ := o.begins_chars t
  obtain ⟨v, hv, hscheme', hnetloc'⟩ := hbegins.exists_split []
  refine ⟨u, v, hu, ?_, hscheme'.trans hscheme.symm, hnetloc'.trans hnetloc.symm⟩
  rw [Url.ofString, String.toList_ofList]
  exact hv

section

variable {g : Given} {server : String} {tokens : Option TokenStore} {insecure : Bool} {timeout : Int}
  {network : Network} {d : Disk} {guid : String}

/-- A request that is made stays with the server. -/
theorem sameOrigin_of_request (h : checkServerUrl g = .ok server) {request : Request}
    (hmade : ((Service.ofUrl server tokens insecure timeout).fetch network d guid).request =
      some request) : SameOrigin server request.url := by
  obtain ⟨o, rest, hbegins, hbase, hplaces⟩ := exists_places_of_checkServerUrl h
  obtain ⟨t, t', hjoin, htarget⟩ := hplaces guid
  obtain ⟨url, target, token, hurl, htarget', -, rfl, -⟩ := Service.exists_of_request hmade
  rw [hbase, hjoin] at hurl
  obtain rfl := Except.ok.inj hurl
  obtain rfl := Except.ok.inj (htarget.symm.trans htarget')
  exact hbegins.sameOrigin t'

/-- A request is made as soon as it is known what token to show. -/
theorem exists_request_of_token (h : checkServerUrl g = .ok server) {token : Option Json}
    (htoken : ((Service.ofUrl server tokens insecure timeout).token d).2 = .ok token) :
    ∃ request, ((Service.ofUrl server tokens insecure timeout).fetch network d guid).request =
      some request ∧ request.headers = Service.headersWith token := by
  obtain ⟨o, rest, hbegins, hbase, hplaces⟩ := exists_places_of_checkServerUrl h
  obtain ⟨t, t', hjoin, htarget⟩ := hplaces guid
  exact ⟨_, (Service.fetch_of_token (by rwa [hbase]) htarget htoken).1, rfl⟩

end

/-- With an address that was accepted, the URL for whatever identifier is one of the server, and
so is every request that is made, be it one fetch or a whole run. -/
theorem requests_stay {g : Given} {config : Configuration}
    (h : checkServerUrl g = .ok config.serverUrl) :
    (∀ tokens insecure timeout network d guid,
      let service := Service.ofUrl config.serverUrl tokens insecure timeout
      let fetched := service.fetch network d guid
      (∃ url, Url.join service.baseUrl.toList (pathFor guid).toList = .ok url ∧
        SameOrigin config.serverUrl (String.ofList url)) ∧
      (∀ token, (service.token d).2 = .ok token → ∃ request, fetched.request = some request ∧
        request.headers = Service.headersWith token) ∧
      ∀ request, fetched.request = some request → SameOrigin config.serverUrl request.url) ∧
    ∀ network workers s d, ∀ x ∈ ((Command.jobOf config network workers).run s d).exchanges,
      ∀ request, x.request = some request → SameOrigin config.serverUrl request.url := by
  refine ⟨fun tokens insecure timeout network d guid => ⟨?_, ?_, ?_⟩, ?_⟩
  · obtain ⟨o, rest, hbegins, hbase, hplaces⟩ := exists_places_of_checkServerUrl h
    obtain ⟨t, t', hjoin, -⟩ := hplaces guid
    exact ⟨_, by rwa [hbase], hbegins.sameOrigin t⟩
  · exact fun token => exists_request_of_token h
  · exact fun request => sameOrigin_of_request h
  · intro network workers s d x hx request hrequest
    obtain ⟨d', hasked⟩ := Sync.Job.ofClient_run _ s d x hx
    exact sameOrigin_of_request h (hasked.symm.trans hrequest)

/-- The identifier would lead to another server, if it could. -/
theorem requests_stay_project :
    ∃ config, (load projectDisk (requestFor "models")).2 = .ok config ∧
      (∃ g, checkServerUrl g = .ok config.serverUrl) ∧
      let service := Service.ofUrl config.serverUrl none false Service.defaultTimeout
      ∃ url request,
        Url.join service.baseUrl.toList (pathFor "../../../..//other:80/?a#b").toList = .ok url ∧
        SameOrigin config.serverUrl (String.ofList url) ∧
        (service.fetch (answering "[]".toUTF8) projectDisk "../../../..//other:80/?a#b").request =
          some request ∧
        SameOrigin config.serverUrl request.url := by
  have hloaded : (loaded? "models").isSome = true := by decide +kernel
  obtain ⟨config, hconfig⟩ := Option.isSome_iff_exists.mp hloaded
  have hload := loaded?_eq_some hconfig
  obtain ⟨g, hg⟩ := exists_checkServerUrl hload
  obtain ⟨⟨url, hjoin, hurl⟩, hmade, hstays⟩ := (requests_stay hg).1 none false
    Service.defaultTimeout (answering "[]".toUTF8) projectDisk "../../../..//other:80/?a#b"
  obtain ⟨request, hrequest, -⟩ := hmade none rfl
  exact ⟨config, hload, ⟨g, hg⟩, url, request, hjoin, hurl, hrequest, hstays request hrequest⟩

end TypedContent.Net
