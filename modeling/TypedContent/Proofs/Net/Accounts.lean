import TypedContent.Proofs.Json.LongIntegers
import TypedContent.Proofs.Net.Requests
import TypedContent.Proofs.Settings.Failures

/-!
# Accounts of token files

A token file tells an account: a token, and the user that it belongs to.  `Tells` says which, by
what is at the path and by what the bytes hold; `token_accounts`: that account is the one that is
used, and whether a request is made depends on the file only in so far as it tells no account at
all.  That is so for bytes that are no text, for integers that are too long, and for a path that
cannot be looked up; all other damage leads to anonymous access.
-/

namespace TypedContent.Net

open Files

/-- A token, and the user that it belongs to. -/
structure Account where
  token : Option Json
  user : Option Json

namespace Account

def anonymous : Account := ⟨none, none⟩

/-- The account that is taken from the fields of a stored object. -/
def ofFields (fields : List (String × Json)) : Account where
  token := TokenStore.presentField? "access_token" fields
  user := (TokenStore.presentField? "access_token" fields).bind fun _ =>
    TokenStore.presentField? "username" fields

/-- What account the fields stand for.  Without a token there is no user. -/
inductive Stored (fields : List (String × Json)) : Account → Prop
  | token {token : Json} (h : fields.lookup "access_token" = some token)
    (hpresent : token.isPresent = true) :
    Stored fields ⟨some token, (fields.lookup "username").filter Json.isPresent⟩
  | noToken (h : ∀ token, fields.lookup "access_token" = some token → token.isPresent = false) :
    Stored fields anonymous

theorem stored_ofFields (fields : List (String × Json)) : Stored fields (ofFields fields) := by
  unfold ofFields TokenStore.presentField?
  cases htoken : (fields.lookup "access_token").filter Json.isPresent with
  | some token =>
    obtain ⟨hlookup, hpresent⟩ := Option.filter_eq_some_iff.mp htoken
    exact .token hlookup hpresent
  | none =>
    have habsent := Option.filter_eq_none_iff.mp htoken
    exact .noToken fun token hlookup => Bool.not_eq_true _ ▸ habsent token hlookup

end Account

/-- The bytes are those of the text, but for the ends of its lines. -/
def HoldsText (bytes : ByteArray) (text : List Char) : Prop :=
  ∃ s : String, bytes = s.toUTF8 ∧ text = Text.uniformLines s.toList

theorem HoldsText.unique {bytes : ByteArray} {text text' : List Char} (h : HoldsText bytes text)
    (h' : HoldsText bytes text') : text = text' := by
  obtain ⟨s, hs, rfl⟩ := h
  obtain ⟨s', hs', rfl⟩ := h'
  have hdecoded := Text.decodeUtf8_eq_ok_iff.mpr hs
  obtain rfl := Except.ok.inj (hdecoded.symm.trans (Text.decodeUtf8_eq_ok_iff.mpr hs'))
  rfl

/-- What the bytes of a token file tell. -/
inductive Contents (bytes : ByteArray) : Except TokenError Account → Prop
  | object {text : List Char} {fields : List (String × Json)} {account : Account}
    (htext : HoldsText bytes text) (hread : Json.read text = .ok (.obj fields))
    (h : Account.Stored fields account) : Contents bytes (.ok account)
  | noObject {text : List Char} {v : Json} (htext : HoldsText bytes text)
    (hread : Json.read text = .ok v) (h : ∀ fields, v ≠ .obj fields) :
    Contents bytes (.ok .anonymous)
  | notJson {text : List Char} {e : Json.ReadError} (htext : HoldsText bytes text)
    (hread : Json.read text = .error e) (hshort : ∀ n, e.fault ≠ .longInteger n) :
    Contents bytes (.ok .anonymous)
  /-- More digits in a row stand in the text than are read. -/
  | long {text : List Char} {e : Json.ReadError} {n : Nat} (htext : HoldsText bytes text)
    (hread : Json.read text = .error e) (hlong : e.fault = .longInteger n)
    (hdigits : Json.HasLongInteger text) : Contents bytes (.error (.number (e.message text)))
  | noText {e : Text.DecodeError} (h : Text.NoText bytes) (he : Text.decodeUtf8 bytes = .error e) :
    Contents bytes (.error (.reading (.undecodable e)))

/-- What the file at a path tells, if there is one. -/
inductive Tells (d : Disk) (p : Path) : Except TokenError Account → Prop
  | missing (h : d.isFile p = .ok false) : Tells d p (.ok .anonymous)
  /-- The device refuses to read the file. -/
  | denied {e : DiskError} (hfile : d.isFile p = .ok true)
    (h : d.readBytes p = .error (.disk e)) : Tells d p (.ok .anonymous)
  | contents {bytes : ByteArray} {told : Except TokenError Account}
    (h : d.readBytes p = .ok bytes) (hcontents : Contents bytes told) : Tells d p told
  /-- The path cannot be looked up. -/
  | unknown {e : DiskError} (h : d.isFile p = .error e) :
    Tells d p (.error (.reading (.access (.disk e))))

variable {d : Disk} {p : Path}

/-- What is taken from the file at the path is what it tells. -/
theorem tells_load (store : TokenStore) (d : Disk) :
    Tells d store.path ((store.load d).2.map Account.ofFields) := by
  unfold TokenStore.load
  split
  · next e hfile => exact .unknown hfile
  · next hfile => exact .missing hfile
  · next hfile =>
    split
    · next e hread => exact .denied hfile (Disk.readBytes_of_readText hread)
    · next e hdisk hread =>
      cases e with
      | undecodable e =>
        obtain ⟨bytes, hbytes, hnone, he⟩ := Settings.readText_eq_undecodable_iff.mp hread
        exact .contents hbytes (.noText hnone he)
      | access e =>
        cases e with
        | disk e => exact absurd rfl (hdisk e)
        | nulInPath => exact absurd hread (Settings.readText_ne_nulInPath hfile)
    · next text hread =>
      obtain ⟨bytes, s, hbytes, hs, rfl⟩ := Disk.readText_eq_ok hread
      have htext : HoldsText bytes (Text.uniformLines s.toList) :=
        ⟨s, Text.decodeUtf8_eq_ok_iff.mp hs, rfl⟩
      rw [String.toList_ofList]
      refine .contents hbytes ?_
      split
      · next fields hjson => exact .object htext hjson (Account.stored_ofFields fields)
      · next v hobject hjson => exact .noObject htext hjson hobject
      · next e hjson =>
        split
        · next n hlong => exact .long htext hjson hlong (Json.hasLongInteger_of_read hjson hlong)
        · next hshort => exact .notJson htext hjson hshort

/-- The bytes of a token file can be read: as a text, and as far as the lengths of integers go. -/
def IsLegible (bytes : ByteArray) : Prop :=
  ∃ text, HoldsText bytes text ∧ ∀ e n, Json.read text = .error e → e.fault ≠ .longInteger n

theorem Contents.exists_account_iff {bytes : ByteArray} {told : Except TokenError Account}
    (h : Contents bytes told) : (∃ account, told = .ok account) ↔ IsLegible bytes := by
  cases h with
  | object htext hread =>
    exact iff_of_true ⟨_, rfl⟩ ⟨_, htext, fun e n he => by cases hread.symm.trans he⟩
  | noObject htext hread =>
    exact iff_of_true ⟨_, rfl⟩ ⟨_, htext, fun e n he => by cases hread.symm.trans he⟩
  | notJson htext hread hshort =>
    refine iff_of_true ⟨_, rfl⟩ ⟨_, htext, fun e n he => ?_⟩
    obtain rfl := Except.error.inj (hread.symm.trans he)
    exact hshort n
  | long htext hread hlong =>
    refine iff_of_false (by simp) ?_
    rintro ⟨text, htext', hshort⟩
    obtain rfl := htext.unique htext'
    exact hshort _ _ hread hlong
  | noText hnone =>
    refine iff_of_false (by simp) ?_
    rintro ⟨-, ⟨s, hs, -⟩, -⟩
    exact hnone s hs

theorem Tells.exists_account_iff {told : Except TokenError Account} (h : Tells d p told) :
    (∃ account, told = .ok account) ↔ (∃ found, d.isFile p = .ok found) ∧
      ∀ bytes, d.readBytes p = .ok bytes → IsLegible bytes := by
  cases h with
  | missing h =>
    refine iff_of_true ⟨_, rfl⟩ ⟨⟨_, h⟩, fun bytes hbytes => ?_⟩
    cases h.symm.trans (Disk.isFile_of_readBytes hbytes)
  | denied hfile h =>
    exact iff_of_true ⟨_, rfl⟩ ⟨⟨_, hfile⟩, fun bytes hbytes => by cases h.symm.trans hbytes⟩
  | contents h hcontents =>
    rw [hcontents.exists_account_iff]
    refine ⟨fun hlegible => ⟨⟨_, Disk.isFile_of_readBytes h⟩, fun bytes hbytes => ?_⟩,
      fun hlegible => hlegible.2 _ h⟩
    obtain rfl := Except.ok.inj (h.symm.trans hbytes)
    exact hlegible
  | unknown h => exact iff_of_false (by simp) fun hfound => by simp [h] at hfound

theorem accessToken_eq (store : TokenStore) (d : Disk) :
    (store.accessToken d).2 = ((store.load d).2.map Account.ofFields).map (·.token) := by
  unfold TokenStore.accessToken
  cases store.load d with
  | mk log read => cases read <;> rfl

theorem user_eq (store : TokenStore) (d : Disk) :
    (store.user d).2 = ((store.load d).2.map Account.ofFields).map (·.user) := by
  unfold TokenStore.user
  cases store.load d with
  | mk log read => cases read <;> rfl

/-- The token and the user are those that the file tells.  With an account the fetch is made as
without tokens, but for the token that it shows; without one it fails and asks for nothing. -/
theorem token_accounts (url : String) (store : TokenStore) (insecure : Bool) (timeout : Int)
    (network : Network) (d : Disk) (guid : String) :
    let fetched := (Service.ofUrl url (some store) insecure timeout).fetch network d guid
    let bare := (Service.ofUrl url none insecure timeout).fetch network d guid
    ∃ told, Tells d store.path told ∧
      (store.accessToken d).2 = told.map (·.token) ∧ (store.user d).2 = told.map (·.user) ∧
      ((∃ account, told = .ok account) ↔ (∃ found, d.isFile store.path = .ok found) ∧
        ∀ bytes, d.readBytes store.path = .ok bytes → IsLegible bytes) ∧
      (∀ account, told = .ok account →
        fetched.request = bare.request.map (·.showing account.token) ∧
          fetched.outcome = bare.outcome) ∧
      ∀ e, told = .error e → fetched.request = none ∧
        (bare.request.isSome → fetched.outcome = .error (.token e)) := by
  intro fetched bare
  have htells := tells_load store d
  generalize htold : (store.load d).2.map Account.ofFields = told at htells
  have htoken : (store.accessToken d).2 = told.map (·.token) := htold ▸ accessToken_eq store d
  have huser : (store.user d).2 = told.map (·.user) := htold ▸ user_eq store d
  refine ⟨told, htells, htoken, huser, htells.exists_account_iff, ?_, ?_⟩
  · rintro account rfl
    exact Service.fetch_showing htoken
  · rintro e rfl
    have hread : ((Service.ofUrl url (some store) insecure timeout).token d).2 = .error e := htoken
    obtain ⟨hrequest, houtcome⟩ := Service.fetch_of_token_error hread
    refine ⟨hrequest, fun hbare => ?_⟩
    obtain ⟨request, hmade⟩ := Option.isSome_iff_exists.mp hbare
    obtain ⟨address, target, token, hjoin, -⟩ := Service.exists_of_request hmade
    exact houtcome address hjoin

/-- A project with one token file. -/
def tokenDisk (name : String) (bytes : ByteArray) : Disk where
  tree := ⟨[(["project"], .directory), (["project", ".episync"], .directory),
    (["project", ".episync", "auth"], .directory),
    (["project", ".episync", "auth", name], .file bytes)]⟩
  current := ["project"]
  faults := noFaults

/-- The tokens that this project keeps for the server of its own host. -/
def localStore : TokenStore := ⟨⟨.root, ["project", ".episync", "auth", "localhost.json"]⟩⟩

theorem ofServer_eq {root : Path} {url : String} {store : TokenStore}
    (h : (TokenStore.ofServer root url).toOption.map (·.path) = some store.path) :
    TokenStore.ofServer root url = .ok store := by
  obtain ⟨store', hstore, hsame⟩ := Option.map_eq_some_iff.mp h
  obtain rfl : store' = store := congrArg TokenStore.mk hsame
  exact Fallible.eq_ok_of_toOption hstore

/-- A token file with a byte that no character begins with is no anonymous access: a request that
is made without tokens is not made with this file. -/
theorem token_undecodable :
    TokenStore.ofServer ⟨.root, ["project"]⟩ "http://localhost/" = .ok localStore ∧
      let d := tokenDisk "localhost.json" ⟨#[0xFF]⟩
      let network : Network := fun _ => .body "[]".toUTF8
      ∃ e, (localStore.accessToken d).2 = .error e ∧ (localStore.user d).2 = .error e ∧
        ((Service.ofUrl "http://localhost/" none false 30).fetch network d "").request.isSome ∧
        ((Service.ofUrl "http://localhost/" (some localStore) false 30).fetch network d "").request =
          none := by
  refine ⟨ofServer_eq (by decide +kernel), ?_⟩
  intro d network
  have hload : (localStore.load d).2.toOption.isNone = true := by decide +kernel
  obtain ⟨e, he⟩ := Fallible.exists_eq_error_of_toOption (Option.isNone_iff_eq_none.mp hload)
  have htoken : (localStore.accessToken d).2 = .error e := by
    rw [accessToken_eq, he]
    rfl
  have huser : (localStore.user d).2 = .error e := by
    rw [user_eq, he]
    rfl
  have hread : ((Service.ofUrl "http://localhost/" (some localStore) false 30).token d).2 =
      .error e := htoken
  exact ⟨e, htoken, huser, by decide +kernel, (Service.fetch_of_token_error hread).1⟩

end TypedContent.Net
