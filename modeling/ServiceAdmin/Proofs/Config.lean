import ServiceAdmin.Proofs.Json.ClosedRecord
import ServiceAdmin.Proofs.Json.WholeNumber
import ServiceAdmin.Proofs.Program.Announced
import ServiceAdmin.Proofs.Text.Trimmed

/-!
# Layers of the configuration

A setting is what the environment says, or else what the file says, or else the default
(`layered_load`).  What a file says is told by the grammar of JSON: `IsSettingsOf` are the texts of
some settings, and a file with any other text is refused, whatever the environment says.
-/

namespace ServiceAdmin

open Json

/-- What a configuration file can set. -/
structure Settings where
  brokerHostPrefix : Option String
  connectTimeoutSecs : Option Nat

def Settings.fields (settings : Settings) : List Field :=
  [optionalField "brokerHostPrefix" IsStringOf settings.brokerHostPrefix,
    optionalField "connectTimeoutSecs" IsNaturalOf settings.connectTimeoutSecs]

/-- The texts of some settings: each is given once or not at all, and nothing else is given. -/
def IsSettingsOf (settings : Settings) : List Char → Prop := IsClosedRecordOf settings.fields

/-- The settings of a file; one that is missing has none. -/
inductive Tells : Except ReadFault String → Settings → Prop
  | missing : Tells (.error .notFound) ⟨none, none⟩
  | text {text : String} {settings : Settings} : IsDocument (IsSettingsOf settings) text →
      Tells (.ok text) settings

/-- The file is there but cannot be read, or its text is none of settings. -/
inductive IsUnfit : Except ReadFault String → Prop
  | fault {fault : ReadFault} : fault ≠ .notFound → IsUnfit (.error fault)
  | text {text : String} : (∀ settings, ¬ IsDocument (IsSettingsOf settings) text) →
      IsUnfit (.ok text)

/-- The variable without the blanks around it, if it is set and not blank. -/
def Environment.given? (env : Environment) (name : String) : Option String :=
  (env.lookup name).bind fun value => if Text.trim value = "" then none else some (Text.trim value)

/-- The path that a value without blanks around it stands for. -/
inductive Expands (home : String) : String → String → Prop
  | home : Expands home "~" home
  | below {sep : Char} {rest : List Char} : sep ∈ ['/', '\\'] →
      Expands home (String.ofList ('~' :: sep :: rest)) (joinPath home (String.ofList rest))
  | plain {path : String} : path ≠ "~" → (∀ sep ∈ ['/', '\\'], ¬ ['~', sep] <+: path.toList) →
      Expands home path path

/-- How the configuration is made of its layers. -/
structure Layered (env : Environment) (tree : FileTree) : Prop where
  named : ∀ value, env.given? "SCS_CONFIG_PATH" = some value →
    Expands (env.home?.getD "~") value (configPath env)
  unnamed : env.given? "SCS_CONFIG_PATH" = none →
    configPath env = joinPath (joinPath (configDirectory env) "scs") "config.json"
  /-- No file is read but the one at the path. -/
  reads : ∀ h r, (Program.loadConfig env).Course h r → ∃ content,
    h = [Program.onFile (configPath env) content] ∧
      (content = tree.read (configPath env) → r = Config.load env tree)
  fails : (∃ e, Config.load env tree = .error e) ↔ IsUnfit (tree.read (configPath env))
  /-- A failure does not depend on what replaces a setting. -/
  unmasked : ∀ env' : Environment,
    (∀ name, name ≠ "SCS_BROKER_HOST_PREFIX" → env'.lookup name = env.lookup name) →
      env'.accountHome = env.accountHome →
        ∀ e, Config.load env' tree = .error e ↔ Config.load env tree = .error e
  layers : ∀ config, Config.load env tree = .ok config ↔
    ∃ settings, Tells (tree.read (configPath env)) settings ∧
      config.brokerHostPrefix = ((env.given? "SCS_BROKER_HOST_PREFIX").or
        settings.brokerHostPrefix).getD "scs-service-broker." ∧
      config.connectTimeoutSecs = settings.connectTimeoutSecs.getD 30

/-! ## The file -/

namespace Config

/-- The settings in the place of the defaults. -/
def ofSettings (settings : Settings) : Config :=
  ⟨settings.brokerHostPrefix.getD default.brokerHostPrefix,
    settings.connectTimeoutSecs.getD default.connectTimeoutSecs⟩

/-- The configuration when these members have been read. -/
def part (settings : Settings) (seen : List String) : Config :=
  ofSettings ⟨if "brokerHostPrefix" ∈ seen then settings.brokerHostPrefix else none,
    if "connectTimeoutSecs" ∈ seen then settings.connectTimeoutSecs else none⟩

def layout : Layout Config where
  title := "PluginConfig"
  blank := default
  members := [
    .free "brokerHostPrefix" .string fun v c => { c with brokerHostPrefix := v },
    .free "connectTimeoutSecs" .natural64 fun v c => { c with connectTimeoutSecs := v }]
  closed := true

theorem shape_eq : shape = .record layout := rfl

theorem mem_members {m : Member Config} (h : m ∈ layout.members) :
    m = .free "brokerHostPrefix" .string (fun v c => { c with brokerHostPrefix := v }) ∨
      m = .free "connectTimeoutSecs" .natural64 fun v c => { c with connectTimeoutSecs := v } := by
  simpa [layout] using h

theorem isFree_layout : layout.IsFree where
  closed := rfl
  free := by
    intro m hm
    rcases mem_members hm with rfl | rfl <;> rfl
  names := by decide
  exact := by
    intro m hm
    rcases mem_members hm with rfl | rfl
    · exact Member.recognizes_free recognizes_string _ _
    · exact Member.recognizes_free recognizes_natural64 _ _

theorem fits_layout (settings : Settings) :
    List.Forall₂ (Member.Fits (part settings)) layout.members settings.fields := by
  refine .cons (Member.fits_optional recognizes_string ?_)
    (.cons (Member.fits_optional recognizes_natural64 ?_) .nil)
  · intro x hx seen
    simp [part, ofSettings, hx]
  · intro x hx seen
    simp [part, ofSettings, hx]

/-- The configuration is whole once all settings that there are have been read. -/
theorem part_of_forall {settings : Settings} {seen : List String}
    (h : ∀ f ∈ settings.fields, f.name ∈ seen ∨ f.free) :
    part settings seen = ofSettings settings := by
  have hset {γ : Type} {name : String} {v : Option γ} (h : name ∈ seen ∨ v = none) :
      (if name ∈ seen then v else none) = v := by
    rcases h with h | rfl
    · exact if_pos h
    · exact ite_self none
  rw [Settings.fields, List.forall_mem_cons, List.forall_mem_singleton] at h
  exact congrArg₂ (fun p n => ofSettings ⟨p, n⟩) (hset h.1) (hset h.2)

/-- What the members leave of the defaults is told by the settings that they write. -/
theorem exists_settings {config : Config} {members : List (String × List Char)}
    {seen : List String} (h : layout.Takes [] default members seen config) :
    ∃ settings, config = ofSettings settings ∧
      ∀ f ∈ settings.fields, f.Given (valuesOf f.name members) := by
  have hprefix : ∃ p, (optionalField "brokerHostPrefix" IsStringOf p).Given
      (valuesOf "brokerHostPrefix" members) ∧
      config.brokerHostPrefix = p.getD default.brokerHostPrefix := by
    refine h.given rfl ?_ recognizes_string (fun _ _ => rfl) List.not_mem_nil
    intro m hm hne change t hchange c
    rcases mem_members hm with rfl | rfl
    · exact absurd rfl hne
    · obtain ⟨v, rfl, -⟩ := Member.exists_of_reads recognizes_natural64 hchange
      rfl
  have htimeout : ∃ n, (optionalField "connectTimeoutSecs" IsNaturalOf n).Given
      (valuesOf "connectTimeoutSecs" members) ∧
      config.connectTimeoutSecs = n.getD default.connectTimeoutSecs := by
    refine h.given rfl ?_ recognizes_natural64 (fun _ _ => rfl) List.not_mem_nil
    intro m hm hne change t hchange c
    rcases mem_members hm with rfl | rfl
    · obtain ⟨v, rfl, -⟩ := Member.exists_of_reads recognizes_string hchange
      rfl
    · exact absurd rfl hne
  obtain ⟨p, hp, hprefix⟩ := hprefix
  obtain ⟨n, hn, htimeout⟩ := htimeout
  refine ⟨⟨p, n⟩, ?_, ?_⟩
  · rw [ofSettings, ← hprefix, ← htimeout]
  · rw [Settings.fields, List.forall_mem_cons, List.forall_mem_singleton]
    exact ⟨hp, hn⟩

/-- A text is read as the configuration of the settings that it writes. -/
theorem writes_iff {config : Config} {t : List Char} :
    layout.Writes config t ↔
      ∃ settings, config = ofSettings settings ∧ IsSettingsOf settings t := by
  constructor
  · rintro ⟨members, ht, hknown, seen, htakes⟩
    obtain ⟨settings, hconfig, hgiven⟩ := exists_settings htakes
    exact ⟨settings, hconfig, members, ht, hknown, hgiven⟩
  · rintro ⟨settings, rfl, ht⟩
    exact Layout.writes_of_isClosedRecordOf (part settings) (fits_layout settings) rfl
      (fun _ hseen => part_of_forall hseen) ht

theorem decodeText_eq_ok_iff {text : String} {config : Config} :
    Json.decodeText shape text = .ok config ↔
      ∃ settings, config = ofSettings settings ∧ IsDocument (IsSettingsOf settings) text := by
  rw [shape_eq, Json.decodeText_eq_ok_iff isFree_layout.recognizes]
  constructor
  · rintro ⟨b, t, b', hb, ht, hb', htext⟩
    obtain ⟨settings, hconfig, ht⟩ := writes_iff.1 ht
    exact ⟨settings, hconfig, b, t, b', hb, ht, hb', htext⟩
  · rintro ⟨settings, hconfig, hdocument⟩
    exact hdocument.mono fun t ht => writes_iff.2 ⟨settings, hconfig, ht⟩

theorem ofFile_eq_ok_iff {path : String} {content : Except ReadFault String} {config : Config} :
    ofFile path content = .ok config ↔
      ∃ settings, config = ofSettings settings ∧ Tells content settings := by
  cases content with
  | ok text =>
    rw [ofFile, mapError_eq_ok_iff, decodeText_eq_ok_iff]
    constructor
    · rintro ⟨settings, hconfig, htext⟩
      exact ⟨settings, hconfig, .text htext⟩
    · rintro ⟨settings, hconfig, ⟨⟩ | htext⟩
      exact ⟨settings, hconfig, htext⟩
  | error fault =>
    by_cases hfault : fault = .notFound
    · subst hfault
      constructor
      · rintro ⟨⟩
        exact ⟨_, rfl, .missing⟩
      · rintro ⟨settings, rfl, ⟨⟩⟩
        rfl
    · have herror : ofFile path (.error fault) = .error (.unreadable path fault) := by
        cases fault with
        | notFound => exact absurd rfl hfault
        | _ => rfl
      rw [herror]
      constructor
      · nofun
      · rintro ⟨settings, -, ⟨⟩⟩
        exact absurd rfl hfault

theorem isUnfit_iff {content : Except ReadFault String} :
    IsUnfit content ↔ ∀ settings, ¬ Tells content settings := by
  constructor
  · rintro (hfault | hnone) settings htells
    · cases htells
      exact hfault rfl
    · cases htells with
      | text h => exact hnone settings h
  · intro hnone
    cases content with
    | ok text => exact .text fun settings h => hnone settings (.text h)
    | error fault =>
      refine .fault ?_
      rintro rfl
      exact hnone _ .missing

end Config

/-! ## The environment -/

section Environment

variable {env env' : Environment} {tree : FileTree} {config : Config}

theorem trim_eq_empty_iff {s : String} : Text.trim s = "" ↔ Text.isAllBlank s = true := by
  rw [Text.isAllBlank, ← Text.trimChars_eq_nil_iff, Text.trim, String.ofList_eq_empty_iff]

theorem Environment.given?_eq (env : Environment) (name : String) :
    env.given? name = (env.filled? name).map Text.trim := by
  unfold given? filled?
  cases env.lookup name with
  | none => rfl
  | some value =>
    simp only [Option.bind_some, trim_eq_empty_iff]
    split <;> rfl

theorem expands_expandTilde (env : Environment) (path : String) :
    Expands (env.home?.getD "~") (Text.trim path) (expandTilde env path) := by
  unfold expandTilde Text.trim
  dsimp only
  split
  · next h => rw [h]; exact .home
  · next rest h => rw [h]; exact .below (by decide)
  · next rest h => rw [h]; exact .below (by decide)
  · next htilde hslash hback =>
    refine .plain ?_ ?_
    · intro h
      rw [← String.toList_inj, String.toList_ofList] at h
      exact htilde h
    · rw [String.toList_ofList]
      rintro sep hsep ⟨rest, h⟩
      simp only [List.mem_cons, List.not_mem_nil, or_false] at hsep
      rcases hsep with rfl | rfl
      · exact hslash rest h.symm
      · exact hback rest h.symm

/-- A variable that is not looked up does not change the path. -/
theorem configPath_congr
    (h : ∀ name, name ≠ "SCS_BROKER_HOST_PREFIX" → env'.lookup name = env.lookup name)
    (haccount : env'.accountHome = env.accountHome) : configPath env' = configPath env := by
  simp only [configPath, configDirectory, expandTilde, Environment.filled?, Environment.home?,
    h "SCS_CONFIG_PATH" (by decide), h "HOME" (by decide), h "XDG_CONFIG_HOME" (by decide),
    haccount]

theorem Config.eq_mk_iff {p : String} {n : Nat} :
    config = ⟨p, n⟩ ↔ config.brokerHostPrefix = p ∧ config.connectTimeoutSecs = n := by
  constructor
  · rintro rfl
    exact ⟨rfl, rfl⟩
  · rintro ⟨rfl, rfl⟩
    rfl

theorem Config.load_eq_ok_iff : Config.load env tree = .ok config ↔
    ∃ settings, Tells (tree.read (configPath env)) settings ∧
      config = Config.override env (Config.ofSettings settings) := by
  unfold Config.load Config.ofContent
  constructor
  · intro h
    obtain ⟨c, hc, rfl⟩ := exists_of_map h
    obtain ⟨settings, rfl, htells⟩ := Config.ofFile_eq_ok_iff.1 hc
    exact ⟨settings, htells, rfl⟩
  · rintro ⟨settings, htells, rfl⟩
    rw [Config.ofFile_eq_ok_iff.2 ⟨settings, rfl, htells⟩]
    rfl

/-- A failure is one of the file. -/
theorem Config.load_eq_error_iff {e : ConfigError} : Config.load env tree = .error e ↔
    Config.ofFile (configPath env) (tree.read (configPath env)) = .error e := by
  unfold Config.load Config.ofContent
  cases Config.ofFile (configPath env) (tree.read (configPath env)) with
  | ok c => exact ⟨nofun, nofun⟩
  | error e' => rw [Except.map, Except.error.injEq]

theorem Config.override_ofSettings (env : Environment) (settings : Settings) :
    Config.override env (Config.ofSettings settings) =
      ⟨((env.given? "SCS_BROKER_HOST_PREFIX").or settings.brokerHostPrefix).getD
        "scs-service-broker.", settings.connectTimeoutSecs.getD 30⟩ := by
  rw [Environment.given?_eq, Config.override]
  cases env.filled? "SCS_BROKER_HOST_PREFIX" <;> rfl

end Environment

/-- **The configuration is made of its layers**: the environment, one file, and the defaults. -/
theorem layered_load (env : Environment) (tree : FileTree) : Layered env tree where
  named value h := by
    rw [Environment.given?_eq, Option.map_eq_some_iff] at h
    obtain ⟨path, hpath, rfl⟩ := h
    rw [configPath, hpath]
    exact expands_expandTilde env path
  unnamed h := by
    rw [Environment.given?_eq, Option.map_eq_none_iff] at h
    rw [configPath, h]
  reads h r hc := by
    obtain ⟨content, h₁, h₂, rfl, hfile, hend⟩ := Dialogue.course_bind.1 hc
    obtain ⟨rfl, rfl⟩ := Dialogue.course_done.1 hend
    obtain rfl := Program.course_fileText.1 hfile
    refine ⟨content, List.append_nil _, ?_⟩
    rintro rfl
    rfl
  fails := by
    rw [Config.isUnfit_iff]
    constructor
    · rintro ⟨e, he⟩ settings htells
      rw [Config.load_eq_ok_iff.2 ⟨settings, htells, rfl⟩] at he
      cases he
    · intro hnone
      cases hload : Config.load env tree with
      | error e => exact ⟨e, rfl⟩
      | ok config =>
        obtain ⟨settings, htells, -⟩ := Config.load_eq_ok_iff.1 hload
        exact absurd htells (hnone settings)
  unmasked env' h haccount e := by
    rw [Config.load_eq_error_iff, Config.load_eq_error_iff, configPath_congr h haccount]
  layers config := by
    rw [Config.load_eq_ok_iff]
    simp only [Config.override_ofSettings, Config.eq_mk_iff]

end ServiceAdmin
