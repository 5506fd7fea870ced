import ServiceAdmin.Proofs.Url.Neighbour
import ServiceAdmin.Service.Endpoint

/-!
# The base of the central broker

The central broker is a neighbour of the platform's API: its URL is made of the scheme, the port and
what follows the first label of the API's host, so that every endpoint of the same platform leads to
it, and so does the broker's own URL (`brokerBaseUrl_determined`).
-/

namespace ServiceAdmin.Service

open Url (hasTupleOrigin defaultPort? portText)
open Url.Domain (IsWords)

/-- An endpoint of an API on a host whose name is `label.rest`. -/
structure IsEndpoint (api scheme : String) (port : Nat) (label rest : String) : Prop where
  read : ∃ url, Url.parse api = .ok url ∧ url.scheme = scheme ∧
    url.port.or (defaultPort? scheme) = some port ∧
    url.host = some (.domain (label ++ "." ++ rest))
  scheme : scheme = "http" ∨ scheme = "https"
  label : '.' ∉ label.toList
  rest : rest ≠ ""

/-- The URL of a broker, which has a port unless that is the default one of the scheme. -/
def baseOf (scheme hostPrefix rest : String) (port : Nat) : String :=
  scheme ++ "://" ++ hostPrefix ++ rest ++
    if defaultPort? scheme = some port then "" else ":" ++ toString port

/-- The host has nothing behind its first dot. -/
def IsBare (host : String) : Prop :=
  '.' ∉ host.toList ∨ ∃ label : String, '.' ∉ label.toList ∧ host = label ++ "."

/-! ## The system domain -/

variable {api scheme label rest : String} {port : Nat} {url : Url}

theorem brokerBaseUrl_of_parse (h : Url.parse api = .ok url) (hostPrefix : String) :
    brokerBaseUrl api hostPrefix =
      match systemDomain? url with
      | some domain => .ok (url.scheme ++ "://" ++ hostPrefix ++ domain ++ portText url.port)
      | none => .error (.apiEndpoint api) := by
  rw [brokerBaseUrl, parseUrl, h]
  rfl

theorem systemDomain?_of_host (hhost : url.host = some (.domain (label ++ "." ++ rest)))
    (hlabel : '.' ∉ label.toList) (hrest : rest ≠ "") : systemDomain? url = some rest := by
  have htext : url.hostText? = some (label ++ "." ++ rest) := by
    rw [Url.hostText?, hhost]
    rfl
  have hchars : (label ++ "." ++ rest).toList = label.toList ++ '.' :: rest.toList := by simp
  obtain ⟨c, cs, hcons⟩ := List.exists_cons_of_ne_nil (mt String.toList_eq_nil_iff.1 hrest)
  rw [systemDomain?, htext, Option.bind_eq_bind, Option.bind_some, hchars,
    Text.cutAt?_append hlabel, hcons]
  exact congrArg some (String.toList_inj.1 ((String.toList_ofList).trans hcons.symm))

/-- A bare host is one that has nothing behind the cut at its first dot. -/
theorem isBare_iff {host : String} :
    IsBare host ↔ ∀ front back, Text.cutAt? '.' host.toList = some (front, back) → back = [] := by
  constructor
  · rintro (hdot | ⟨label, hlabel, rfl⟩) front back hcut
    · rw [Text.cutAt?_of_notMem hdot] at hcut
      cases hcut
    · rw [String.toList_append] at hcut
      cases (Text.cutAt?_append hlabel []).symm.trans hcut
      rfl
  · intro h
    by_cases hdot : '.' ∈ host.toList
    · obtain ⟨front, back, hhost, hfront⟩ := List.eq_append_cons_of_mem hdot
      have hback : back = [] := by
        refine h front back ?_
        rw [hhost, Text.cutAt?_append hfront]
      refine .inr ⟨String.ofList front, by rwa [String.toList_ofList], String.toList_inj.1 ?_⟩
      rw [hhost, hback, String.toList_append, String.toList_ofList]
      rfl
    · exact .inl hdot

theorem systemDomain?_eq_none_iff :
    systemDomain? url = none ↔ ∀ host, url.hostText? = some host → IsBare host := by
  rw [systemDomain?]
  cases url.hostText? with
  | none => simp
  | some host =>
    rw [Option.bind_eq_bind, Option.bind_some]
    simp only [Option.some.injEq, forall_eq', isBare_iff]
    split
    · next front c back hcut => simp [hcut]
    · next hcut =>
      refine ⟨fun _ front back hfound => ?_, fun _ => rfl⟩
      cases back with
      | nil => rfl
      | cons c back => exact absurd hfound (hcut front c back)

/-! ## The broker of an endpoint -/

/-- The port is shown unless it is the default one of the scheme. -/
theorem portText_eq {given : Option Nat} (hport : given.or (defaultPort? scheme) = some port)
    (hgiven : ∀ n, given = some n → n ≤ 65535 ∧ defaultPort? scheme ≠ some n) :
    portText given = if defaultPort? scheme = some port then "" else ":" ++ toString port := by
  cases given with
  | none =>
    rw [if_pos (by simpa using hport)]
    rfl
  | some n =>
    cases hport
    rw [if_neg (hgiven port rfl).2]
    rfl

namespace IsEndpoint

theorem hasTupleOrigin (h : IsEndpoint api scheme port label rest) :
    hasTupleOrigin scheme = true := by
  rcases h.scheme with rfl | rfl <;> rfl

/-- What an endpoint is read as, with its port as the base shows it. -/
theorem exists_parse (h : IsEndpoint api scheme port label rest) :
    ∃ url, Url.parse api = .ok url ∧ url.scheme = scheme ∧
      url.host = some (.domain (label ++ "." ++ rest)) ∧
      (∀ n, url.port = some n → n ≤ 65535 ∧ defaultPort? scheme ≠ some n) ∧
      portText url.port = if defaultPort? scheme = some port then "" else ":" ++ toString port := by
  obtain ⟨url, hparse, rfl, hport, hhost⟩ := h.read
  have hgiven := (Url.isServerUrl_of_parse hparse h.hasTupleOrigin).port
  exact ⟨url, hparse, rfl, hhost, hgiven, portText_eq hport hgiven⟩

/-- **The broker of an endpoint has its scheme, its port and its system domain.** -/
theorem brokerBaseUrl_eq (h : IsEndpoint api scheme port label rest) (hostPrefix : String) :
    brokerBaseUrl api hostPrefix = .ok (baseOf scheme hostPrefix rest port) := by
  obtain ⟨url, hparse, rfl, hhost, -, hport⟩ := h.exists_parse
  rw [brokerBaseUrl_of_parse hparse, systemDomain?_of_host hhost h.label h.rest, hport]
  rfl

/-- **The broker of an endpoint is an endpoint of the same platform.** -/
theorem isEndpoint_baseOf (h : IsEndpoint api scheme port label rest) {words : String}
    (hwords : IsWords words.toList) :
    IsEndpoint (baseOf scheme (words ++ ".") rest port) scheme port words rest := by
  obtain ⟨url, hparse, rfl, hport, hhost⟩ := h.read
  obtain ⟨⟨t, host, hhost', hread⟩, -, -⟩ := Url.parts_of_parse hparse h.hasTupleOrigin
  cases hhost.symm.trans hhost'
  have hname : (label ++ "." ++ rest).toList = label.toList ++ '.' :: rest.toList := by simp
  have hne : rest.toList ≠ [] := mt String.toList_eq_nil_iff.1 h.rest
  have hserver := Url.isServer_neighbour hread hname h.label hne hwords
  have hstable := Url.isStable_neighbour hread hname h.label hwords
  have htext : String.ofList (words.toList ++ '.' :: rest.toList) = words ++ "." ++ rest := by
    apply String.toList_inj.1
    simp
  rw [htext] at hserver hstable
  have hgiven := (Url.isServerUrl_of_parse hparse h.hasTupleOrigin).port
  have hbase : url.scheme ++ "://" ++ (Url.Host.domain (words ++ "." ++ rest)).text ++
      portText url.port ++ "" = baseOf url.scheme (words ++ ".") rest port := by
    rw [portText_eq hport hgiven, baseOf, Url.Host.text]
    simp only [String.append_assoc, String.append_empty]
  have hagain := Url.parse_server h.hasTupleOrigin hserver hstable hgiven (.inl String.toList_empty)
    (by simp) (by simp)
  rw [hbase] at hagain
  exact ⟨⟨_, hagain, rfl, hport, rfl⟩, h.scheme,
    fun hdot => (hwords.char_facts '.' hdot).2.2 rfl, h.rest⟩

end IsEndpoint

/-- **The base of the broker is determined by the scheme, the port and the system domain.**  The
broker's own URL leads to it again, and there is none for a host that has no system domain. -/
theorem brokerBaseUrl_determined (hostPrefix : String) :
    (∀ api scheme port label rest, IsEndpoint api scheme port label rest →
      brokerBaseUrl api hostPrefix = .ok (baseOf scheme hostPrefix rest port)) ∧
    (∀ api api' scheme port label label' rest, IsEndpoint api scheme port label rest →
      IsEndpoint api' scheme port label' rest →
      brokerBaseUrl api hostPrefix = brokerBaseUrl api' hostPrefix) ∧
    (∀ words : String, IsWords words.toList → hostPrefix = words ++ "." →
      ∀ api scheme port label rest, IsEndpoint api scheme port label rest →
      ∃ base, brokerBaseUrl api hostPrefix = .ok base ∧
        brokerBaseUrl base hostPrefix = .ok base) ∧
    ∀ api, brokerBaseUrl api hostPrefix = .error (.apiEndpoint api) ↔
      ∃ url, Url.parse api = .ok url ∧ ∀ host, url.hostText? = some host → IsBare host := by
  refine ⟨fun api scheme port label rest h => h.brokerBaseUrl_eq hostPrefix, ?_, ?_, ?_⟩
  · intro api api' scheme port label label' rest h h'
    rw [h.brokerBaseUrl_eq, h'.brokerBaseUrl_eq]
  · rintro words hwords rfl api scheme port label rest h
    exact ⟨_, h.brokerBaseUrl_eq _, (h.isEndpoint_baseOf hwords).brokerBaseUrl_eq _⟩
  · intro api
    cases hparse : Url.parse api with
    | error fault =>
      have hfault : brokerBaseUrl api hostPrefix = .error (.invalidUrl api fault.message) := by
        rw [brokerBaseUrl, parseUrl, hparse]
        rfl
      rw [hfault]
      simp
    | ok url =>
      rw [brokerBaseUrl_of_parse hparse]
      simp only [Except.ok.injEq, exists_eq_left', ← systemDomain?_eq_none_iff]
      cases systemDomain? url <;> simp

theorem brokerBaseUrl_determined_central :
    IsEndpoint "HTTPS://user:pw@API.system.example:8443/v2?x#y" "https" 8443 "api"
        "system.example" ∧
      brokerBaseUrl "HTTPS://user:pw@API.system.example:8443/v2?x#y" "service-broker." =
        .ok "https://service-broker.system.example:8443" ∧
      brokerBaseUrl "https://service-broker.system.example:8443" "service-broker." =
        .ok "https://service-broker.system.example:8443" ∧
      brokerBaseUrl "https://localhost" "service-broker." =
        .error (.apiEndpoint "https://localhost") := by
  have hendpoint : IsEndpoint "HTTPS://user:pw@API.system.example:8443/v2?x#y" "https" 8443 "api"
      "system.example" := by
    have hparse : Url.parse "HTTPS://user:pw@API.system.example:8443/v2?x#y" =
        .ok ⟨"https", "user", some "pw", some (.domain "api.system.example"), some 8443,
          .segments ["v2"], some "x", some "y"⟩ := by decide +kernel
    exact ⟨⟨_, hparse, rfl, rfl, by decide +kernel⟩, .inr rfl, by decide, by decide⟩
  have hlocal : Url.parse "https://localhost" =
      .ok ⟨"https", "", none, some (.domain "localhost"), none, .segments [""], none, none⟩ := by
    decide +kernel
  have hwords : IsWords "service-broker".toList := by decide
  obtain ⟨hbase, -, hagain, herror⟩ := brokerBaseUrl_determined "service-broker."
  have hfirst := hbase _ _ _ _ _ hendpoint
  obtain ⟨base, hbase', hsecond⟩ := hagain "service-broker" hwords rfl _ _ _ _ _ hendpoint
  cases hfirst.symm.trans hbase'
  refine ⟨hendpoint, hfirst, hsecond, (herror _).2 ⟨_, hlocal, ?_⟩⟩
  rintro host ⟨⟩
  exact .inl (by decide)

end ServiceAdmin.Service
