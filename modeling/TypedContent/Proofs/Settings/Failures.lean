import TypedContent.Proofs.Fallible
import TypedContent.Proofs.Files.Children
import TypedContent.Proofs.Settings.Loading
import TypedContent.Proofs.Text.Decoding

/-!
# Settings that cannot be determined

Loading ends with a configuration, with an error of the configuration, or with a mishap.  `Mishap`
lists all mishaps: the bytes of a file are no text, a value in the settings file is none of its kind,
what is given for the flag cannot be written, the system refuses to look a file up, or a field is
overridden that is no setting.  `load_mishaps`: exactly these end a load without an error of the
configuration.
-/

namespace TypedContent.Settings

open Files

/-! ## What goes wrong in a step -/

/-- The bytes of a file are no text. -/
def HoldsNoText (d : Disk) (p : Path) (e : Text.DecodeError) : Prop :=
  ∃ bytes, d.readBytes p = .ok bytes ∧ Text.NoText bytes ∧ Text.decodeUtf8 bytes = .error e

/-- It is, or holds, an integer that is too long to be written. -/
inductive Given.TooLong : Given → Prop
  | number {n : Int} (h : Nat.pow 10 Text.maxDigits ≤ n.natAbs) : TooLong (.number n)
  | overlong : TooLong .overlong

variable {d : Disk} {r : Request} {p : Path}

theorem Given.asFlag?_eq_none_iff {g : Given} : g.asFlag? = none ↔ g.TooLong := by
  constructor
  · intro h
    cases g with
    | number n =>
      refine .number (Classical.byContradiction fun hn => ?_)
      rw [asFlag?, Text.decimal?, if_neg hn] at h
      contradiction
    | overlong => exact .overlong
    | _ => contradiction
  · rintro (h | _)
    · rw [asFlag?, Text.decimal?, if_pos h]
      rfl
    · rfl

theorem readText_eq_undecodable_iff {e : Text.DecodeError} :
    d.readText p = .error (.undecodable e) ↔ HoldsNoText d p e := by
  unfold Disk.readText HoldsNoText
  cases d.readBytes p with
  | error x => simp
  | ok bytes =>
    cases hdecode : Text.decodeUtf8 bytes with
    | ok s => simp [hdecode]
    | error x =>
      have hnone : Text.NoText bytes := Text.exists_decodeUtf8_eq_error_iff.mp ⟨x, hdecode⟩
      simp [hdecode, hnone]

/-- A file that was found can be asked for. -/
theorem readText_ne_nulInPath (h : d.isFile p = .ok true) :
    d.readText p ≠ .error (.access .nulInPath) := by
  obtain ⟨hnul, m, bytes, hentry⟩ := Disk.isFile_eq_ok_true_iff.mp h
  have hbytes : d.readBytes p ≠ .error .nulInPath := by
    unfold Disk.readBytes Disk.allow
    rw [hnul, hentry]
    cases d.faults .read p.name <;> simp [bind, Except.bind]
  unfold Disk.readText
  cases hread : d.readBytes p with
  | error x =>
    rintro ⟨⟩
    exact hbytes hread
  | ok bytes => cases hdecode : Text.decodeUtf8 bytes <;> simp [hdecode]

/-- How reading a settings file fails with no error of the configuration. -/
inductive FileMishap (d : Disk) (p : Path) : Failure → Prop
  | text {e : Text.DecodeError} (h : HoldsNoText d p e) : FileMishap d p (.reading (.undecodable e))
  | value {text : String} {f : Yaml.Fault} (htext : d.readText p = .ok text)
    (hread : Yaml.read text.toList = .error f) (hf : f ≠ .malformed) : FileMishap d p (.value f)

theorem readFile_eq_error_iff (h : d.isFile p = .ok true) {f : Failure}
    (hf : ∀ e, f ≠ .config e) : readFile d p = .error f ↔ FileMishap d p f := by
  constructor
  · intro hread
    unfold readFile at hread
    split at hread
    · exact absurd (Except.error.inj hread).symm (hf _)
    · next e hdisk htext =>
      obtain rfl := Except.error.inj hread
      cases e with
      | undecodable e => exact .text (readText_eq_undecodable_iff.mp htext)
      | access e =>
        cases e with
        | disk e => exact absurd rfl (hdisk e)
        | nulInPath => exact absurd htext (readText_ne_nulInPath h)
    · next text htext =>
      split at hread
      · exact absurd (Except.error.inj hread).symm (hf _)
      · next y hmalformed hyaml =>
        obtain rfl := Except.error.inj hread
        exact .value htext hyaml hmalformed
      · contradiction
      · contradiction
      · exact absurd (Except.error.inj hread).symm (hf _)
  · rintro (htext | ⟨htext, hyaml, hmalformed⟩)
    · rw [readFile, readText_eq_undecodable_iff.mpr htext]
    · rw [readFile, htext]
      simp only [hyaml]

/-- How reading an environment file fails. -/
inductive EnvMishap (d : Disk) (p : Path) : ReadError → Prop
  | search {e : DiskError} (h : d.isFile p = .error e) : EnvMishap d p (.access (.disk e))
  | text {e : Text.DecodeError} (hfile : d.isFile p = .ok true) (h : HoldsNoText d p e) :
    EnvMishap d p (.undecodable e)

theorem read_eq_error_iff {e : ReadError} :
    (EnvFile.read d p).2 = .error e ↔ EnvMishap d p e := by
  constructor
  · intro hread
    unfold EnvFile.read at hread
    split at hread
    · next x hsearch =>
      obtain rfl := Except.error.inj hread
      exact .search hsearch
    · contradiction
    · next hfile =>
      split at hread
      · contradiction
      · contradiction
      · next e' hdisk htext =>
        obtain rfl := Except.error.inj hread
        cases e' with
        | undecodable e' => exact .text hfile (readText_eq_undecodable_iff.mp htext)
        | access e' =>
          cases e' with
          | disk e' => exact absurd rfl (hdisk e')
          | nulInPath => exact absurd htext (readText_ne_nulInPath hfile)
  · rintro (hsearch | ⟨hfile, htext⟩)
    · simp only [EnvFile.read, hsearch]
    · simp only [EnvFile.read, hfile, readText_eq_undecodable_iff.mpr htext]

theorem readEnvFiles_cons_eq_error_iff {ps : List Path} {e : ReadError} :
    (readEnvFiles d (p :: ps)).2 = .error e ↔ (EnvFile.read d p).2 = .error e ∨
      (∃ pairs, (EnvFile.read d p).2 = .ok pairs) ∧ (readEnvFiles d ps).2 = .error e := by
  rw [readEnvFiles]
  cases EnvFile.read d p with
  | mk log read =>
    cases readEnvFiles d ps with
    | mk more rest =>
      cases read with
      | error x => simp
      | ok pairs => cases rest <;> simp

/-- Of some environment files, all in front of this one were read, and then reading fails. -/
structure FirstMishap (d : Disk) (ps : List Path) (p : Path) (e : ReadError) : Prop where
  place : ∃ before behind, ps = before ++ p :: behind ∧
    ∀ q ∈ before, ∃ pairs, (EnvFile.read d q).2 = .ok pairs
  mishap : EnvMishap d p e

theorem readEnvFiles_eq_error_iff {ps : List Path} {e : ReadError} :
    (readEnvFiles d ps).2 = .error e ↔ ∃ p, FirstMishap d ps p e := by
  -- A mishap at the first file has nothing in front of it, any other has the first file there.
  induction ps with
  | nil =>
    constructor
    · intro h
      contradiction
    · rintro ⟨p, ⟨before, behind, hps, -⟩, -⟩
      simp at hps
  | cons p ps ih =>
    rw [readEnvFiles_cons_eq_error_iff, ih, read_eq_error_iff]
    constructor
    · rintro (h | ⟨hread, q, ⟨before, behind, rfl, hbefore⟩, h⟩)
      · exact ⟨p, ⟨[], ps, rfl, by simp⟩, h⟩
      · exact ⟨q, ⟨p :: before, behind, rfl, List.forall_mem_cons.mpr ⟨hread, hbefore⟩⟩, h⟩
    · rintro ⟨q, ⟨before, behind, hps, hbefore⟩, h⟩
      cases before with
      | nil =>
        obtain ⟨rfl, -⟩ := List.cons.inj hps
        exact .inl h
      | cons q' before =>
        obtain ⟨rfl, rfl⟩ := List.cons.inj hps
        obtain ⟨hread, hbefore⟩ := List.forall_mem_cons.mp hbefore
        exact .inr ⟨hread, q, ⟨before, behind, rfl, hbefore⟩, h⟩

/-! ## What goes wrong in a load -/

/-- The settings file, if there is one, was found and read. -/
structure Begun (d : Disk) (r : Request) (environment : Environment) (file : Option Path)
    (ofFile : List (Field × Given)) : Prop where
  known : Environment.ofName? r.environment = some environment
  found : findFile d r.root = .ok file
  read : file.elim (.ok []) (readFile d) = .ok ofFile

/-- The environment files of a load. -/
def envFiles (d : Disk) (r : Request) (file : Option Path) : List Path :=
  (envFileNames r.environment).map (projectRoot d r.root file).child

/-- All files were read, and these are the values that won. -/
structure Gathered (d : Disk) (r : Request) (vs : Values) : Prop where
  begun : ∃ environment file ofFile, Begun d r environment file ofFile ∧
    ∃ envs, (readEnvFiles d (envFiles d r file)).2 = .ok envs ∧
      vs = Values.none.setAll (ofFile ++ envs.flatMap (fun e => ofVariables e.2) ++
        ofProcess r.environ ++ ofOverrides r.overrides)

/-- The ways in which a load fails with no error of the configuration. -/
inductive Mishap (d : Disk) (r : Request) : Failure → Prop
  /-- The settings file cannot be looked for. -/
  | search {environment : Environment} {e : AccessError}
    (known : Environment.ofName? r.environment = some environment)
    (h : findFile d r.root = .error e) : Mishap d r (.reading (.access e))
  | settingsFile {environment : Environment} {file : Path} {f : Failure}
    (known : Environment.ofName? r.environment = some environment)
    (found : findFile d r.root = .ok (some file)) (h : FileMishap d file f) : Mishap d r f
  | envFile {environment : Environment} {file : Option Path} {ofFile : List (Field × Given)}
    {p : Path} {e : ReadError} (begun : Begun d r environment file ofFile)
    (h : FirstMishap d (envFiles d r file) p e) : Mishap d r (.reading e)
  | flag {vs : Values} {g : Given} (gathered : Gathered d r vs) (won : vs .insecure = some g)
    (h : g.TooLong) : Mishap d r .longInteger
  /-- A field that is no setting is overridden, and nothing went wrong before that is found. -/
  | repeated {vs : Values} {g : Given} {name : String} (gathered : Gathered d r vs)
    (flag : ∀ g, vs .insecure = some g → ¬ g.TooLong) (url : vs .serverUrl = some g)
    (present : g.isPresent = true) (h : fixedOverride? r.overrides = some name) :
    Mishap d r (.repeated name)

theorem FileMishap.ne_config {f : Failure} (h : FileMishap d p f) (e : ConfigError) :
    f ≠ .config e := by
  cases h <;> simp

theorem Mishap.ne_config {f : Failure} (h : Mishap d r f) (e : ConfigError) : f ≠ .config e := by
  cases h with
  | settingsFile _ _ h => exact h.ne_config e
  | _ => simp

/-- Nothing given for the flag, or nothing that cannot be written. -/
theorem flag_eq_none_iff {o : Option Given} :
    o.elim (some false) Given.asFlag? = none ↔ ∃ g, o = some g ∧ g.TooLong := by
  cases o with
  | none => simp
  | some g => simp [Given.asFlag?_eq_none_iff]

/-- What settling the values fails with. -/
theorem settle_eq_error_iff {root : Path} {environment : Environment} {sources : List Path}
    {fixed? : Option String} {vs : Values} {f : Failure} (hf : ∀ e, f ≠ .config e) :
    settle root environment sources fixed? vs = .error f ↔
      (f = .longInteger ∧ ∃ g, vs .insecure = some g ∧ g.TooLong) ∨
      ∃ name, f = .repeated name ∧ fixed? = some name ∧
        (∀ g, vs .insecure = some g → ¬ g.TooLong) ∧
        ∃ g, vs .serverUrl = some g ∧ g.isPresent = true := by
  have hwritten : (∀ g, vs .insecure = some g → ¬ g.TooLong) ↔
      ¬ ∃ g, vs .insecure = some g ∧ g.TooLong := by simp
  rw [hwritten, ← flag_eq_none_iff]
  unfold settle
  cases hflag : (vs .insecure).elim (some false) Given.asFlag? with
  | none => simpa using eq_comm
  | some flag =>
    cases hurl : vs .serverUrl with
    | none => simp [Given.isPresent, (hf _).symm]
    | some g =>
      cases hpresent : g.isPresent with
      | false => simp [hpresent, (hf _).symm]
      | true =>
        cases fixed? with
        | some name => simpa [hpresent] using eq_comm
        | none => cases hboth : Schema.both (checkServerUrl g) (checkModelDir (vs .modelDir)) <;>
            simp [hpresent, hboth, (hf _).symm]

/-- Behind all files, a load settles the values that won. -/
theorem Gathered.exists_settle {vs : Values} (h : Gathered d r vs) :
    ∃ root environment sources,
      ((load d r).2 = settle root environment sources (fixedOverride? r.overrides) vs) := by
  obtain ⟨environment, file, ofFile, ⟨known, found, read⟩, envs, henvs, rfl⟩ := h.begun
  refine ⟨projectRoot d r.root file, environment, file.toList ++ envs.map (·.1), ?_⟩
  simp only [load, known, found, read]
  unfold envFiles at henvs
  generalize readEnvFiles d _ = files at henvs ⊢
  obtain ⟨more, o⟩ := files
  obtain rfl : o = .ok envs := henvs
  simp only
  split
  · next hsettled => exact hsettled.symm
  · next hsettled => exact hsettled.symm

/-- A mishap ends a load. -/
theorem Mishap.load_eq {f : Failure} (h : Mishap d r f) : (load d r).2 = .error f := by
  cases h with
  | search known h => simp only [load, known, h]
  | @settingsFile environment file _ known found h =>
    have hread : readFile d file = .error f :=
      (readFile_eq_error_iff (findFile_eq_some found).1 h.ne_config).mpr h
    simp only [load, known, found, Option.elim_some, hread]
  | envFile begun h =>
    have henvs := readEnvFiles_eq_error_iff.mpr ⟨_, h⟩
    simp only [load, begun.known, begun.found, begun.read]
    unfold envFiles at henvs
    generalize readEnvFiles d _ = files at henvs ⊢
    obtain ⟨more, o⟩ := files
    obtain rfl := henvs
    rfl
  | flag gathered won h =>
    obtain ⟨root, environment, sources, hload⟩ := gathered.exists_settle
    rw [hload, settle_eq_error_iff (by simp)]
    exact .inl ⟨rfl, _, won, h⟩
  | repeated gathered flag url present h =>
    obtain ⟨root, environment, sources, hload⟩ := gathered.exists_settle
    rw [hload, settle_eq_error_iff (by simp)]
    exact .inr ⟨_, rfl, h, flag, _, url, present⟩

/-- A load that ends with no error of the configuration ends with a mishap. -/
theorem mishap_of_load {f : Failure} (h : (load d r).2 = .error f) (hf : ∀ e, f ≠ .config e) :
    Mishap d r f := by
  cases known : Environment.ofName? r.environment with
  | none =>
    simp only [load, known, Except.error.injEq] at h
    exact absurd h.symm (hf _)
  | some environment =>
    cases found : findFile d r.root with
    | error e =>
      simp only [load, known, found, Except.error.injEq] at h
      exact h ▸ .search known found
    | ok file =>
      cases read : file.elim (.ok []) (readFile d) with
      | error f' =>
        simp only [load, known, found, read, Except.error.injEq] at h
        subst h
        cases file with
        | none => contradiction
        | some file =>
          exact .settingsFile known found
            ((readFile_eq_error_iff (findFile_eq_some found).1 hf).mp read)
      | ok ofFile =>
        have begun : Begun d r environment file ofFile := ⟨known, found, read⟩
        cases henvs : (readEnvFiles d (envFiles d r file)).2 with
        | error e =>
          obtain ⟨p, hfirst⟩ := readEnvFiles_eq_error_iff.mp henvs
          have hmishap : Mishap d r (.reading e) := .envFile begun hfirst
          obtain rfl := Except.error.inj (h.symm.trans hmishap.load_eq)
          exact hmishap
        | ok envs =>
          have gathered : Gathered d r _ := ⟨environment, file, ofFile, begun, envs, henvs, rfl⟩
          obtain ⟨root, environment, sources, hload⟩ := gathered.exists_settle
          rw [hload, settle_eq_error_iff hf] at h
          obtain ⟨rfl, g, won, hlong⟩ | ⟨name, rfl, hfixed, hflag, g, url, present⟩ := h
          · exact .flag gathered won hlong
          · exact .repeated gathered hflag url present hfixed

/-- A load gives a configuration, an error of the configuration, or a mishap; and each mishap ends
the load in which it occurs. -/
theorem load_mishaps (d : Disk) (r : Request) :
    ((∃ c, (load d r).2 = .ok c) ∨ (∃ e, (load d r).2 = .error (.config e)) ∨
      ∃ f, (load d r).2 = .error f ∧ Mishap d r f) ∧
    ∀ f, Mishap d r f ↔ (load d r).2 = .error f ∧ ∀ e, f ≠ .config e := by
  refine ⟨?_, fun f => ⟨fun h => ⟨h.load_eq, h.ne_config⟩, fun h => mishap_of_load h.1 h.2⟩⟩
  cases hload : (load d r).2 with
  | ok c => exact .inl ⟨c, rfl⟩
  | error f =>
    by_cases hf : ∀ e, f ≠ .config e
    · exact .inr (.inr ⟨f, rfl, mishap_of_load hload hf⟩)
    · obtain ⟨e, he⟩ := not_forall.mp hf
      exact .inr (.inl ⟨e, congrArg Except.error (not_not.mp he)⟩)

/-- A setting whose value is one byte that no character begins with. -/
def latinBytes : ByteArray := "EPI_URL=".toUTF8 ++ ⟨#[0xFF]⟩

/-- A project whose environment file is no UTF-8. -/
def latinDisk : Disk where
  tree := ⟨[(["project"], .directory), (["project", ".env"], .file latinBytes)]⟩
  current := ["project"]
  faults := noFaults

def latinRequest : Request where
  root := none
  environment := "development"
  overrides := []
  environ := []

/-- Loading ends neither with a configuration nor with an error of the configuration. -/
theorem load_latin :
    ∃ e, (load latinDisk latinRequest).2 = .error (.reading (.undecodable e)) := by
  have hbytes : (Text.decodeUtf8 latinBytes).toOption = none := by decide +kernel
  obtain ⟨e, he⟩ := Fallible.exists_eq_error_of_toOption hbytes
  have hfound : (findFile latinDisk none).toOption = some none := by decide +kernel
  have hfile : (latinDisk.isFile ⟨.root, ["project", ".env"]⟩).toOption = some true := by
    decide +kernel
  have htext : HoldsNoText latinDisk ⟨.root, ["project", ".env"]⟩ e :=
    ⟨latinBytes, rfl, Text.exists_decodeUtf8_eq_error_iff.mp ⟨e, he⟩, he⟩
  have hbegun : Begun latinDisk latinRequest .development none [] :=
    ⟨by decide +kernel, Fallible.eq_ok_of_toOption hfound, rfl⟩
  have hfirst : FirstMishap latinDisk (envFiles latinDisk latinRequest none)
      ⟨.root, ["project", ".env"]⟩ (.undecodable e) :=
    ⟨⟨[], _, rfl, by simp⟩, .text (Fallible.eq_ok_of_toOption hfile) htext⟩
  exact ⟨e, (Mishap.envFile hbegun hfirst).load_eq⟩

end TypedContent.Settings
