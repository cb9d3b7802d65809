import Mathlib.Data.List.Forall2
import TypedContent.Proofs.Files.Making
import TypedContent.Proofs.Net.Accounts

/-!
# Files for the tokens of servers

Each server has its token file, which is named after the network location of its address.
`token_files_apart`: two servers that were accepted have different files unless their locations are
the same but for colons and underscores, and what is stored for one of two such servers makes no
difference to what is asked of the other.  Servers whose locations differ in nothing else share a
file, and so a token (`token_shared`).
-/

namespace TypedContent.Net

open Files

/-! ## Names of hosts -/

/-- The locations are the same, but a colon may stand where the other has an underscore. -/
def SameButColons : List Char → List Char → Prop :=
  List.Forall₂ fun c c' => c = c' ∨ c = ':' ∧ c' = '_' ∨ c = '_' ∧ c' = ':'

namespace TokenStore

variable {netloc netloc' : List Char}

/-- The character of a file name that stands for one of a location. -/
def hostChar (c : Char) : Char := if c = ':' then '_' else c

theorem hostChar_eq_iff {c c' : Char} :
    hostChar c = hostChar c' ↔ c = c' ∨ c = ':' ∧ c' = '_' ∨ c = '_' ∧ c' = ':' := by
  unfold hostChar
  split <;> split <;> grind

theorem hostChar_ne_slash {c : Char} (h : c ≠ '/') : hostChar c ≠ '/' := by
  unfold hostChar
  split
  · decide
  · exact h

theorem hostName_of_named (h : netloc ≠ []) :
    hostName netloc = String.ofList (netloc.map hostChar) := by
  rw [hostName, if_neg (by simpa using h)]
  rfl

theorem hostName_eq_iff (h : netloc ≠ []) (h' : netloc' ≠ []) :
    hostName netloc = hostName netloc' ↔ SameButColons netloc netloc' := by
  rw [hostName_of_named h, hostName_of_named h', String.ofList_inj, ← List.forall₂_eq_eq_eq,
    List.forall₂_map_left_iff, List.forall₂_map_right_iff]
  simp only [hostChar_eq_iff]
  rfl

/-- The name of the token file for a location. -/
def fileName (netloc : List Char) : String := hostName netloc ++ ".json"

theorem fileName_inj : fileName netloc = fileName netloc' ↔ hostName netloc = hostName netloc' :=
  String.append_left_inj _

/-- The directory of the token files of a project. -/
def authDirectory (root : Path) : Path := root.join (Path.ofString directory)

theorem toList_fileName (h : netloc ≠ []) :
    (fileName netloc).toList = netloc.map hostChar ++ ['.', 'j', 's', 'o', 'n'] := by
  rw [fileName, hostName_of_named h, String.toList_append, String.toList_ofList]
  rfl

theorem fileName_plain (h : netloc ≠ []) (hslash : '/' ∉ netloc) :
    fileName netloc ≠ "" ∧ fileName netloc ≠ "." ∧ fileName netloc ≠ ".." ∧
      '/' ∉ (fileName netloc).toList := by
  have hlength (s : String) (hs : s.toList.length < 5) : fileName netloc ≠ s := by
    rintro rfl
    rw [toList_fileName h, List.length_append] at hs
    exact Nat.not_lt.mpr (Nat.le_add_left 5 _) hs
  refine ⟨hlength "" (by decide), hlength "." (by decide), hlength ".." (by decide), ?_⟩
  rw [toList_fileName h, List.mem_append, List.mem_map]
  rintro (⟨c, hc, hc'⟩ | hending)
  · exact hostChar_ne_slash (fun he => hslash (he ▸ hc)) hc'
  · exact absurd hending (by decide)

end TokenStore

/-- The path is that of an entry of the directory. -/
def IsEntryOf (directory p : Path) : Prop :=
  ∃ name, p = directory.child name ∧ name ≠ "" ∧ name ≠ "." ∧ name ≠ ".." ∧ '/' ∉ name.toList

/-- The tokens for a server that was accepted are in the file for its location. -/
theorem exists_store_of_checkServerUrl {g : Settings.Given} {server : String}
    (h : Settings.checkServerUrl g = .ok server) (root : Path) :
    ∃ u store, Url.ofString server = .ok u ∧ u.netloc ≠ [] ∧
      TokenStore.ofServer root server = .ok store ∧
      store.path = (TokenStore.authDirectory root).child (TokenStore.fileName u.netloc) ∧
      IsEntryOf (TokenStore.authDirectory root) store.path := by
  obtain ⟨o, rest, hbegins, -⟩ := Origin.exists_origin_of_checkServerUrl h
  obtain ⟨u, hu, -, hnetloc⟩ := hbegins.exists_split []
  have hnamed : u.netloc ≠ [] := hnetloc ▸ o.named
  have hslash : '/' ∉ u.netloc := fun hmem => by
    have hbounded := o.bounded '/' (hnetloc ▸ hmem)
    contradiction
  have hplain := TokenStore.fileName_plain hnamed hslash
  have hjoin : (TokenStore.authDirectory root).join (Path.ofString (TokenStore.fileName u.netloc)) =
      (TokenStore.authDirectory root).child (TokenStore.fileName u.netloc) := by
    rw [Path.ofString_of_no_slash hplain.1 hplain.2.1 hplain.2.2.2]
    rfl
  refine ⟨u, ⟨(TokenStore.authDirectory root).child (TokenStore.fileName u.netloc)⟩, hu, hnamed, ?_,
    rfl, _, rfl, hplain⟩
  rw [← hjoin, TokenStore.ofServer, Url.ofString, hu]
  rfl

/-! ## What is stored for another server -/

variable {d e : Disk} {p : Path} {store : TokenStore}

theorem accessToken_congr (hfaults : e.faults = d.faults)
    (hentry : e.entry store.path = d.entry store.path) :
    store.accessToken e = store.accessToken d := by
  unfold TokenStore.accessToken TokenStore.load
  rw [Disk.isFile_congr hentry, Disk.readText_congr hfaults hentry]

/-- A fetch reads nothing but the token. -/
theorem fetch_congr {s : Service} {network : Network} {guid : String}
    (h : s.token e = s.token d) : s.fetch network e guid = s.fetch network d guid := by
  unfold Service.fetch
  rw [h]

/-- What is written to one entry of a directory makes no difference to the token in another. -/
theorem accessToken_of_writeBytes {name other : String} {bytes : ByteArray}
    (h : d.writeBytes (p.child name) bytes = .ok e) (hstore : store.path = p.child other)
    (hne : other ≠ name) : store.accessToken e = store.accessToken d := by
  obtain ⟨m, hm, hfile, he⟩ := Disk.writeBytes_eq_ok h
  obtain ⟨l, hp⟩ := Disk.hasDirectory_of_locate_child hm
  refine accessToken_congr ?_ ?_
  · rw [he]
    rfl
  · rw [hstore]
    exact Disk.entry_child_of_writeBytes hp h hne

/-- Two servers that were accepted share a token file exactly if their locations are the same but
for colons; then they are shown the same token, and else what is stored for one of them makes no
difference to what is asked of the other. -/
theorem token_files_apart {g g' : Settings.Given} {server server' : String}
    (h : Settings.checkServerUrl g = .ok server) (h' : Settings.checkServerUrl g' = .ok server')
    (root : Path) :
    ∃ u u' store store', Url.ofString server = .ok u ∧ Url.ofString server' = .ok u' ∧
      TokenStore.ofServer root server = .ok store ∧ TokenStore.ofServer root server' = .ok store' ∧
      IsEntryOf (TokenStore.authDirectory root) store.path ∧
      IsEntryOf (TokenStore.authDirectory root) store'.path ∧
      (store.path = store'.path ↔ SameButColons u.netloc u'.netloc) ∧
      (SameButColons u.netloc u'.netloc → ∀ d, store.accessToken d = store'.accessToken d) ∧
      (¬ SameButColons u.netloc u'.netloc →
        ∀ insecure timeout network (d e : Disk) bytes guid,
          d.writeBytes store.path bytes = .ok e →
            let service' := Service.ofUrl server' (some store') insecure timeout
            service'.fetch network e guid = service'.fetch network d guid) := by
  obtain ⟨u, store, hu, hnamed, hstore, hpath, hentry⟩ := exists_store_of_checkServerUrl h root
  obtain ⟨u', store', hu', hnamed', hstore', hpath', hentry'⟩ :=
    exists_store_of_checkServerUrl h' root
  have hshared : store.path = store'.path ↔ SameButColons u.netloc u'.netloc := by
    rw [hpath, hpath', Path.child_inj, TokenStore.fileName_inj,
      TokenStore.hostName_eq_iff hnamed hnamed']
  refine ⟨u, u', store, store', hu, hu', hstore, hstore', hentry, hentry', hshared, ?_, ?_⟩
  · intro hsame d
    obtain rfl : store = store' := congrArg TokenStore.mk (hshared.mpr hsame)
    rfl
  · intro hapart insecure timeout network d e bytes guid hwrite
    refine fetch_congr (accessToken_of_writeBytes (hpath ▸ hwrite) hpath' fun hname => ?_)
    rw [← hshared, hpath, hpath', hname] at hapart
    exact hapart rfl

/-- The ports differ, and so do the files. -/
theorem token_files_apart_ports :
    Settings.checkServerUrl (.text "http://localhost:8443/") = .ok "http://localhost:8443/" ∧
      Settings.checkServerUrl (.text "http://localhost:9443/") = .ok "http://localhost:9443/" ∧
      ∃ store store', TokenStore.ofServer ⟨.root, ["project"]⟩ "http://localhost:8443/" = .ok store ∧
        TokenStore.ofServer ⟨.root, ["project"]⟩ "http://localhost:9443/" = .ok store' ∧
        store.path ≠ store'.path ∧
        ∀ network (d e : Disk) bytes guid, d.writeBytes store.path bytes = .ok e →
          let service' := Service.ofUrl "http://localhost:9443/" (some store') false 30
          service'.fetch network e guid = service'.fetch network d guid := by
  have h : (Settings.checkServerUrl (.text "http://localhost:8443/")).toOption =
      some "http://localhost:8443/" := by decide +kernel
  have h' : (Settings.checkServerUrl (.text "http://localhost:9443/")).toOption =
      some "http://localhost:9443/" := by decide +kernel
  have hpaths : ((TokenStore.ofServer ⟨.root, ["project"]⟩ "http://localhost:8443/").toOption.map
      (·.path)) ≠ (TokenStore.ofServer ⟨.root, ["project"]⟩ "http://localhost:9443/").toOption.map
        (·.path) := by decide +kernel
  have h := Fallible.eq_ok_of_toOption h
  have h' := Fallible.eq_ok_of_toOption h'
  obtain ⟨u, u', store, store', -, -, hstore, hstore', -, -, hshared, -, hapart⟩ :=
    token_files_apart h h' ⟨.root, ["project"]⟩
  have hne : store.path ≠ store'.path := by
    rintro he
    rw [hstore, hstore'] at hpaths
    exact hpaths (congrArg some he)
  exact ⟨h, h', store, store', hstore, hstore', hne,
    hapart (hshared.not.mp hne) false 30⟩

/-- The tokens that a project keeps for two servers. -/
def sharedStore : TokenStore := ⟨⟨.root, ["project", ".episync", "auth", "localhost_8443.json"]⟩⟩

/-- A colon and an underscore make the whole difference between these two locations, and the token
that is stored for one of them is shown to the other. -/
theorem token_shared :
    Settings.checkServerUrl (.text "http://localhost:8443/") = .ok "http://localhost:8443/" ∧
      Settings.checkServerUrl (.text "http://localhost_8443/") = .ok "http://localhost_8443/" ∧
      (Url.ofString "http://localhost:8443/").toOption.map (·.netloc) ≠
        (Url.ofString "http://localhost_8443/").toOption.map (·.netloc) ∧
      TokenStore.ofServer ⟨.root, ["project"]⟩ "http://localhost:8443/" = .ok sharedStore ∧
      TokenStore.ofServer ⟨.root, ["project"]⟩ "http://localhost_8443/" = .ok sharedStore ∧
      let d := tokenDisk "localhost_8443.json" "\x7b\"access_token\": \"t0k\"\x7d".toUTF8
      let network : Network := fun _ => .body "[]".toUTF8
      ((Service.ofUrl "http://localhost_8443/" (some sharedStore) false 30).fetch network d
          "").request.map (fun r => (r.url, r.headers.lookup "Authorization")) =
        some ("http://localhost_8443/api/episerver/v3/model", some "Bearer t0k") := by
  have h : (Settings.checkServerUrl (.text "http://localhost:8443/")).toOption =
      some "http://localhost:8443/" := by decide +kernel
  have h' : (Settings.checkServerUrl (.text "http://localhost_8443/")).toOption =
      some "http://localhost_8443/" := by decide +kernel
  exact ⟨Fallible.eq_ok_of_toOption h, Fallible.eq_ok_of_toOption h', by decide +kernel,
    ofServer_eq (by decide +kernel), ofServer_eq (by decide +kernel), by decide +kernel⟩

end TypedContent.Net
