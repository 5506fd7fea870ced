import ServiceAdmin.Proofs.Http.Message
import ServiceAdmin.Proofs.Service.Itinerary
import ServiceAdmin.Proofs.Text.Pieces
import ServiceAdmin.Proofs.Url.Extension

/-!
# The URLs of secrets

The request of an operation on a secret goes below `secrets/` to exactly the four names of its path,
unless one of the names is a dot segment (`secret_addressed`).  A path with a dot segment is
accepted, and its request leaves the resource that the path names (`not_secret_addressed`).
-/

namespace ServiceAdmin.Service

open Text (pieces forall_ascii toNat_lt_of_isAlphanum)
open Url (IsPathText IsPlain IsDots EndsInSlash)

/-! ## Paths -/

/-- What the characters of a path have in common. -/
structure IsPathLetter (c : Char) : Prop where
  ascii : c.toNat < 0x7F
  unencoded : Url.inPath c = false
  percent : c ≠ '%'
  backslash : c ≠ '\\'
  edge : Url.isEdge c = false
  query : c ≠ '?'
  fragment : c ≠ '#'

theorem isPathLetter_of_isPathChar {c : Char} (h : isPathChar c = true) : IsPathLetter c := by
  have hascii : c.toNat < 128 := by
    rcases Bool.or_eq_true_iff.1 h with h | h
    · exact toNat_lt_of_isAlphanum h
    · have hothers : ∀ d ∈ ['.', '_', '(', ')', '[', ']', ':', ',', '-'], d.toNat < 128 := by
        decide
      exact hothers c (List.contains_iff_mem.1 h)
  have key := forall_ascii (P := fun c => isPathChar c = true → c.toNat < 0x7F ∧
    Url.inPath c = false ∧ c ≠ '%' ∧ c ≠ '\\' ∧ Url.isEdge c = false ∧ c ≠ '?' ∧ c ≠ '#')
    (by decide) hascii h
  exact ⟨key.1, key.2.1, key.2.2.1, key.2.2.2.1, key.2.2.2.2.1, key.2.2.2.2.2.1, key.2.2.2.2.2.2⟩

theorem isPlain_of_forall {name : List Char} (h : ∀ c ∈ name, IsPathLetter c) : IsPlain name :=
  ⟨Url.percentEncode_of_forall fun c hc => ⟨(h c hc).ascii, (h c hc).unencoded⟩,
    Url.dots_of_notMem fun hc => (h _ hc).percent rfl⟩

/-- An accepted path, by its names. -/
theorem forall_of_checkSecretPath {path : String} (h : checkSecretPath path = .ok ()) :
    ∀ name ∈ pieces '/' path.toList, ∀ c ∈ name, IsPathLetter c := by
  unfold checkSecretPath at h
  split at h
  · next hpath =>
    intro name hname c hc
    have hall := (Bool.and_eq_true_iff.1 hpath).2
    have hchars := (Bool.and_eq_true_iff.1 (List.all_eq_true.1 hall name hname)).2
    exact isPathLetter_of_isPathChar (List.all_eq_true.1 hchars c hc)
  · cases h

theorem isPathLetter_of_mem {path : String} (h : checkSecretPath path = .ok ()) {c : Char}
    (hc : c ∈ path.toList) : IsPathLetter c ∨ c = '/' := by
  have hmem : c ∈ (pieces '/' path.toList).flatMap ('/' :: ·) := by
    rw [Text.flatMap_pieces]
    exact List.mem_cons_of_mem _ hc
  obtain ⟨name, hname, hc⟩ := List.mem_flatMap.1 hmem
  rcases List.mem_cons.1 hc with hc | hc
  · exact .inr hc
  · exact .inl (forall_of_checkSecretPath h name hname c hc)

/-- Whether a path names no secret, since one of its names is a dot segment. -/
def HasDots (path : String) : Prop := ∃ name ∈ pieces '/' path.toList, IsDots name

instance (path : String) : Decidable (HasDots path) :=
  inferInstanceAs (Decidable (∃ name ∈ pieces '/' path.toList, IsDots name))

/-! ## URLs -/

/-- The base of a service: where it is, without query and fragment, up to a slash. -/
structure IsBase (base : String) (url : Url) : Prop where
  parsed : Url.parse base = .ok url
  scheme : url.scheme = "http" ∨ url.scheme = "https"
  query : url.query = none
  fragment : url.fragment = none
  slash : base.toList.getLast? = some '/'

/-- Where a secret is, below a base. -/
def secretUrl (base path : String) : String := base ++ "secrets/" ++ path

/-- The URL of a secret is read as the base with a longer path, which is the path of the secret
unless that has a dot segment. -/
theorem parse_secretUrl {base path : String} {url : Url} (hbase : IsBase base url)
    (hpath : checkSecretPath path = .ok ()) :
    url.hostText? ≠ none ∧ ∃ long : Url.Path,
      Url.parse (secretUrl base path) = .ok { url with path := long } ∧
        (long.text = url.path.text ++ "secrets/" ++ path ↔ ¬ HasDots path) := by
  have htext : IsPathText ("secrets/" ++ path).toList := by
    have hfolder : IsPathText "secrets/".toList := by
      unfold IsPathText
      decide
    intro c hc
    rw [String.toList_append] at hc
    rcases List.mem_append.1 hc with hc | hc
    · exact hfolder c hc
    · rcases isPathLetter_of_mem hpath hc with h | rfl
      · exact ⟨h.edge, h.query, h.fragment⟩
      · decide
  obtain ⟨hhost, done, hdone, hparse⟩ := Url.parse_append hbase.slash hbase.parsed hbase.scheme
    hbase.query hbase.fragment htext
  rw [← String.append_assoc] at hparse
  refine ⟨hhost, _, hparse, ?_⟩
  let names := "secrets".toList :: pieces '/' path.toList
  have hsplit : Url.splitPath true ("secrets/" ++ path).toList = names := by
    have hbackslash : '\\' ∉ path.toList := fun hc =>
      (isPathLetter_of_mem hpath hc).elim (fun h => h.backslash rfl) (by decide)
    have hpieces := Url.splitPath_append_slash true "secrets".toList path.toList
    rw [Url.splitPath_eq_pieces hbackslash] at hpieces
    rw [String.toList_append]
    exact hpieces
  have hplain : ∀ name ∈ names, IsPlain name := by
    intro name hname
    rcases List.mem_cons.1 hname with rfl | hname
    · exact ⟨by decide, by decide⟩
    · exact isPlain_of_forall (forall_of_checkSecretPath hpath name hname)
  have htarget : url.path.text ++ "secrets/" ++ path =
      (Url.pathOf (done.reverse ++ names)).text := by
    have hnames : names.flatMap ('/' :: ·) = '/' :: "secrets".toList ++ '/' :: path.toList := by
      rw [← Text.flatMap_pieces '/' path.toList]
      rfl
    rw [hdone, ← String.toList_inj, String.toList_append, String.toList_append,
      Url.toList_text_pathOf, Url.toList_text_pathOf, List.flatMap_append, List.flatMap_append,
      hnames]
    simp
  rw [hsplit, htarget, Url.text_resolveDots_iff done hplain]
  simp [HasDots, names, IsDots]

/-! ## Requests -/

/-- The path of the secret that an operation is about. -/
def Operation.secretPath? : Operation → Option String
  | .addSecret path _ => some path
  | .removeSecret path => some path
  | _ => none

theorem Operation.request_url {operation : Operation} {path : String}
    (h : operation.secretPath? = some path) (p : Parameters) (token : String) :
    (operation.request p token).url = secretUrl p.url path := by
  cases operation with
  | addSecret path secret =>
    cases h
    rfl
  | removeSecret path =>
    cases h
    rfl
  | _ => cases h

theorem Operation.payload_isFieldValue {operation : Operation} {path : String}
    (h : operation.secretPath? = some path) (p : Parameters) (token : String) :
    (operation.request p token).payload.any (!Http.isFieldValue ·.contentType) = false := by
  cases operation with
  | addSecret path secret =>
    have hjson : Http.isFieldValue Http.applicationJson = true := by decide
    simp [Operation.request, Http.Payload.json, hjson]
  | removeSecret path => rfl
  | _ => cases h

theorem target_withPath (url : Url) (path : Url.Path) :
    Http.target { url with path := path } = { Http.target url with path := path } := by
  unfold Http.target
  split <;> split <;> first | rfl | contradiction

/-- **Secrets are addressed by their paths.**  The request of an operation on a secret goes to the
base, and there below `secrets/` to the names of the path, unless one of them is a dot segment.  So
the requests for two paths without dot segments go to two URLs. -/
theorem secret_addressed {p : Parameters} {url : Url} (hbase : IsBase p.url url)
    {operation : Operation} {path : String} (hoperation : operation.secretPath? = some path)
    (hpath : checkSecretPath path = .ok ()) {token : String}
    (htoken : Http.isFieldValue token = true) :
    ∃ m, (operation.request p token).message = .ok m ∧
      m.url = { Http.target url with path := m.url.path } ∧
      (m.url.path.text = url.path.text ++ "secrets/" ++ path ↔ ¬ HasDots path) ∧
      ∀ other otherPath otherMessage, Operation.secretPath? other = some otherPath →
        checkSecretPath otherPath = .ok () →
        (other.request p token).message = .ok otherMessage → otherMessage.url = m.url →
        ¬ HasDots path → ¬ HasDots otherPath → otherPath = path := by
  have key {operation : Operation} {path : String} (hoperation : operation.secretPath? = some path)
      (hpath : checkSecretPath path = .ok ()) :
      ∃ long : Url.Path, (operation.request p token).message = .ok
          ⟨(operation.request p token).method, { Http.target url with path := long },
            Http.credentials? url, token, (operation.request p token).payload⟩ ∧
        (long.text = url.path.text ++ "secrets/" ++ path ↔ ¬ HasDots path) := by
    obtain ⟨hhost, long, hparse, htext⟩ := parse_secretUrl hbase hpath
    rw [← Operation.request_url hoperation p token] at hparse
    refine ⟨long, ?_, htext⟩
    rw [Http.message_eq hparse hhost hbase.scheme
      (Operation.payload_isFieldValue hoperation p token)
      (by rwa [Operation.request_token]), target_withPath, Operation.request_token]
    rfl
  obtain ⟨long, hmessage, htext⟩ := key hoperation hpath
  refine ⟨_, hmessage, rfl, htext, ?_⟩
  intro other otherPath otherMessage hother hotherPath hotherMessage heq hdots hotherDots
  obtain ⟨otherLong, hotherMessage', hotherText⟩ := key hother hotherPath
  obtain rfl : otherMessage = _ := Except.ok.inj (hotherMessage.symm.trans hotherMessage')
  have hlong : otherLong = long := congrArg Url.path heq
  have hsame := (hotherText.2 hotherDots).symm.trans (hlong ▸ htext.2 hdots)
  rw [← String.toList_inj] at hsame ⊢
  simpa using hsame

/-- The URL of a service whose base has a path of one segment. -/
def sampleUrl : Url :=
  ⟨"http", "admin", none, some (.domain "svc.example"), some 8080, .segments ["config", ""], none,
    none⟩

theorem isBase_sampleUrl : IsBase "HTTP://admin@svc.example:8080/x/../config/" sampleUrl :=
  ⟨rfl, .inl rfl, rfl, rfl, by decide⟩

theorem secret_addressed_below_config :
    IsBase "HTTP://admin@svc.example:8080/x/../config/" sampleUrl ∧
      checkSecretPath "app/cloud,dev/.../db[0]:pw" = .ok () ∧ Http.isFieldValue "tok" = true ∧
      ∃ m, ((Operation.removeSecret "app/cloud,dev/.../db[0]:pw").request
          ⟨"HTTP://admin@svc.example:8080/x/../config/", "", ""⟩ "tok").message = .ok m ∧
        m.url.path.text = "/config/secrets/app/cloud,dev/.../db[0]:pw" := by
  have hvalid : checkSecretPath "app/cloud,dev/.../db[0]:pw" = .ok () := rfl
  have htoken : Http.isFieldValue "tok" = true := by decide +kernel
  have hdots : ¬ HasDots "app/cloud,dev/.../db[0]:pw" := by decide +kernel
  have hoperation : (Operation.removeSecret "app/cloud,dev/.../db[0]:pw").secretPath? =
      some "app/cloud,dev/.../db[0]:pw" := rfl
  obtain ⟨m, hmessage, -, htext, -⟩ :=
    secret_addressed (p := ⟨_, "", ""⟩) isBase_sampleUrl hoperation hvalid htoken
  exact ⟨isBase_sampleUrl, hvalid, htoken, m, hmessage, htext.2 hdots⟩

/-- A path with dot segments is accepted, and its request leaves what the path names. -/
theorem not_secret_addressed : ¬ ∀ (p : Parameters) (url : Url), IsBase p.url url →
    ∀ (operation : Operation) (path : String), operation.secretPath? = some path →
      checkSecretPath path = .ok () → ∀ (token : String) (m : Http.Message),
        (operation.request p token).message = .ok m →
          m.url.path.text = url.path.text ++ "secrets/" ++ path := by
  intro h
  have hsame := h ⟨_, "", ""⟩ sampleUrl isBase_sampleUrl (.removeSecret "../../x/y") "../../x/y" rfl
    rfl "tok" _ rfl
  exact absurd hsame (by decide)

end ServiceAdmin.Service
