import Mathlib.Data.List.DropRight
import ServiceAdmin.Proofs.Service.Dashboard
import ServiceAdmin.Proofs.Service.Resolve
import ServiceAdmin.Proofs.Url.Names
import ServiceAdmin.Proofs.Url.Seam
import ServiceAdmin.Service.Operation

/-!
# Seams of operations

The URL of a running service ends in one slash, and that of an instance at its broker ends without
one (`fits_of_resolve`).  What an operation puts behind its URL begins with a slash or does not,
accordingly (`Operation.isAddressed`).  The central broker is the exception: the GUID behind its URL
is what the platform says, and may end in a slash.
-/

namespace ServiceAdmin.Service

open Http
open Url (IsStem EndsInOneSlash IsJoined isStem_origin isStem_of_notMem)

variable {hostPrefix name token : String} {h : History}

/-! ## Dashboards -/

theorem parse_of_parseUrl {raw : String} {url : Url} (h : parseUrl raw = .ok url) :
    Url.parse raw = .ok url := ok_of_mapError_eq_ok h

theorem endsInOneSlash_dashboardRootUrl {dashboard root : String}
    (h : dashboardRootUrl dashboard = .ok root) : EndsInOneSlash root := by
  obtain ⟨url, hparse, h⟩ := Url.of_bind_eq_ok h
  cases h
  exact (isStem_origin (parse_of_parseUrl hparse)).endsInOneSlash

/-- The URL ends with the name of the instance, which has no slash. -/
theorem isStem_managementUrl {dashboard managed : String}
    (h : managementUrl dashboard = .ok managed) : IsStem managed := by
  have hparsed : ∃ url, Url.parse dashboard = .ok url := by
    obtain ⟨p, hp, -⟩ := Url.of_bind_eq_ok h
    obtain ⟨url, hparse, -⟩ := Url.of_bind_eq_ok hp
    exact ⟨url, parse_of_parseUrl hparse⟩
  obtain ⟨url, hparse⟩ := hparsed
  rw [managementUrl_of_parse hparse] at h
  cases hguid : lastName? url with
  | none =>
    rw [hguid] at h
    cases h
  | some guid =>
    rw [hguid] at h
    cases h
    rw [text_managed]
    obtain ⟨hmem, hne⟩ := lastName?_facts hguid
    have hstem := isStem_of_notMem hne (Url.slash_notMem_of_mem_segments hparse hmem)
    exact (hstem.append _).append _

/-! ## Discovered services -/

/-- The text is made of slashes only; it may be empty. -/
def OnlySlashes (s : String) : Prop := ∀ c ∈ s.toList, c = '/'

/-- A response to a probe that tells the URI of the running service. -/
def TellsUri (probe : String) (response : Response) (uri : String) : Prop :=
  response.isOk = true ∧ ∃ body, response.requireBody probe = .ok body ∧
    decodeBody discovery "service instance" body = .ok uri

theorem toList_dropSlashes (s : String) : (dropSlashes s).toList = s.toList.rdropWhile (· = '/') :=
  String.toList_ofList

theorem dropSlashes_eq_empty_iff {s : String} : dropSlashes s = "" ↔ OnlySlashes s := by
  rw [← String.toList_eq_nil_iff, toList_dropSlashes, List.rdropWhile_eq_nil_iff]
  simp only [decide_eq_true_eq, OnlySlashes]

theorem isStem_dropSlashes {s : String} (h : ¬ OnlySlashes s) : IsStem (dropSlashes s) where
  ne_empty := mt dropSlashes_eq_empty_iff.1 h
  no_slash := by
    have hne : s.toList.rdropWhile (· = '/') ≠ [] := by
      rw [← toList_dropSlashes]
      exact mt String.toList_eq_nil_iff.1 (mt dropSlashes_eq_empty_iff.1 h)
    have hlast := List.rdropWhile_last_not _ _ hne
    rw [toList_dropSlashes, List.getLast?_eq_getLast_of_ne_nil hne]
    intro hslash
    exact hlast (decide_eq_true (Option.some.inj hslash))

/-- Nothing but slashes is dropped. -/
theorem exists_eq_dropSlashes_append (s : String) :
    ∃ slashes, OnlySlashes slashes ∧ s = dropSlashes s ++ slashes := by
  refine ⟨String.ofList (s.toList.rtakeWhile (· = '/')), fun c hc => ?_, String.toList_inj.1 ?_⟩
  · rw [String.toList_ofList] at hc
    exact of_decide_eq_true (List.mem_rtakeWhile_imp (p := (· = '/')) hc)
  · rw [String.toList_append, toList_dropSlashes, String.toList_ofList,
      List.rdropWhile_append_rtakeWhile]

theorem status_ne_of_isOk {response : Response} (h : response.isOk = true) :
    response.status ≠ 404 := by
  intro hstatus
  rw [Response.isOk, hstatus] at h
  cases h

/-- The probe is answered by the URI with one slash, unless that has nothing else. -/
theorem discovered_of_tellsUri {probe uri : String} {response : Response}
    (h : TellsUri probe response uri) :
    discovered probe response =
      if dropSlashes uri = "" then .error (.resolve (.emptyServiceUri probe))
      else .ok (dropSlashes uri ++ "/") := by
  obtain ⟨hok, body, hbody, huri⟩ := h
  rw [discovered, if_neg (status_ne_of_isOk hok), hok, hbody]
  show (decodeBody discovery "service instance" body).mapError Error.protocol >>= _ = _
  rw [huri]
  rfl

/-- A discovery ends with a URL only if the URI was told. -/
theorem tellsUri_of_discovered {probe url : String} {response : Response}
    (h : discovered probe response = .ok url) : ∃ uri, TellsUri probe response uri := by
  have hok := isOk_of_discovered h
  rw [discovered, if_neg (status_ne_of_isOk hok), hok] at h
  obtain ⟨body, hbody, h⟩ := Url.of_bind_eq_ok h
  obtain ⟨uri, huri, -⟩ := Url.of_bind_eq_ok h
  exact ⟨uri, hok, body, ok_of_mapError_eq_ok hbody, ok_of_mapError_eq_ok huri⟩

theorem endsInOneSlash_of_discovered {probe url : String} {response : Response}
    (h : discovered probe response = .ok url) : EndsInOneSlash url := by
  obtain ⟨uri, huri⟩ := tellsUri_of_discovered h
  rw [discovered_of_tellsUri huri] at h
  split at h
  · cases h
  · next hne =>
    cases h
    exact (isStem_dropSlashes (mt dropSlashes_eq_empty_iff.2 hne)).endsInOneSlash

/-! ## Resolved URLs -/

/-- How the URLs of a kind end. -/
def EndpointKind.Fits : EndpointKind → String → Prop
  | service => EndsInOneSlash
  | management | lifecycle => IsStem

/-- The central broker of the instance said that it is there, and the URL is below it. -/
def IsAtBroker (hostPrefix name : String) (h : History) (url : String) : Prop :=
  ∃ (service : Instance) (api broker token : String) (response : Response),
    onPlatform (.service name) (.ok service) ∈ h ∧ service.generation = .central ∧
      onPlatform .apiEndpoint (.ok api) ∈ h ∧ brokerBaseUrl api hostPrefix = .ok broker ∧
      onSend ⟨.get, broker ++ "/actuator/info", none, token⟩ (.ok response) ∈ h ∧
      response.isOk = true ∧ url = broker ++ managementPath ++ "/" ++ service.guid

theorem IsAtBroker.mono {h' : History} {url : String} (hb : IsAtBroker hostPrefix name h url)
    (hsub : h ⊆ h') : IsAtBroker hostPrefix name h' url := by
  obtain ⟨service, api, broker, token, response, hservice, hg, hapi, hbroker, hprobe, hurl⟩ := hb
  exact ⟨service, api, broker, token, response, hsub hservice, hg, hsub hapi, hbroker, hsub hprobe,
    hurl⟩

/-- **A URL that was resolved ends as its kind says, unless it is at the central broker.** -/
theorem fits_of_resolve {kind : EndpointKind} {p : Parameters}
    (hc : (resolve hostPrefix name token kind).run.Course h (.ok p)) :
    kind.Fits p.url ∨ kind = .lifecycle ∧ IsAtBroker hostPrefix name h p.url := by
  rcases course_resolve hc with ⟨e, -, hp⟩ | ⟨service, t, r, rfl, hr, hp⟩
  · cases hp
  cases r with
  | error e => cases hp
  | ok url =>
    cases hp
    cases kind with
    | service =>
      rw [endpointUrl] at hr
      cases hg : service.generation with
      | embedded =>
        rw [hg] at hr
        rcases course_discover hr with ⟨e, -, hurl⟩ | ⟨probe, a, -, hurl⟩
        · cases hurl
        · cases a with
          | error e => cases hurl
          | ok response => exact .inl (endsInOneSlash_of_discovered hurl.symm)
      | central =>
        rw [hg] at hr
        exact .inl (endsInOneSlash_dashboardRootUrl (ok_of_course_ofExcept hr))
    | management => exact .inl (isStem_managementUrl (ok_of_course_ofExcept hr))
    | lifecycle =>
      rw [endpointUrl] at hr
      cases hg : service.generation with
      | embedded =>
        rw [hg] at hr
        exact .inl (isStem_managementUrl (ok_of_course_ofExcept hr))
      | central =>
        rw [hg] at hr
        rcases course_lifecycleUrl hr with ⟨a, e, -, hurl⟩ | ⟨api, broker, a, hb, rfl, hurl⟩
        · cases hurl
        cases a with
        | error e => cases hurl
        | ok response =>
          rcases cases_of_brokerOrDashboard hurl.symm with ⟨hok, rfl⟩ | ⟨-, hurl⟩
          · exact .inr ⟨rfl, service, api, broker, token, response, by simp, hg, by simp, hb,
              by simp, hok, rfl⟩
          · exact .inl (isStem_managementUrl hurl)

/-- **What an embedded broker told is the URL, with one slash in place of those at its end.** -/
theorem resolve_of_tellsUri {result : Except Error Parameters} {r : Request} {response : Response}
    {uri : String} (hc : (resolve hostPrefix name token .service).run.Course h result)
    (hsend : onSend r (.ok response) ∈ h) (huri : TellsUri r.url response uri) :
    (OnlySlashes uri → result = .error (.resolve (.emptyServiceUri r.url))) ∧
      (¬ OnlySlashes uri → ∃ p, result = .ok p ∧ p.url = dropSlashes uri ++ "/") := by
  rcases course_resolve hc with ⟨e, rfl, -⟩ | ⟨service, t, found, rfl, hfound, rfl⟩
  · cases List.mem_singleton.1 hsend
  have hmem : onSend r (.ok response) ∈ t := by
    rcases List.mem_cons.1 hsend with hsend | hsend
    · cases hsend
    · exact hsend
  rw [endpointUrl] at hfound
  cases hg : service.generation with
  | embedded =>
    rw [hg] at hfound
    rcases course_discover hfound with ⟨e, rfl, -⟩ | ⟨probe, a, rfl, rfl⟩
    · cases hmem
    · cases List.mem_singleton.1 hmem
      rw [verdict, discovered_of_tellsUri huri]
      constructor
      · intro hslashes
        rw [if_pos (dropSlashes_eq_empty_iff.2 hslashes)]
        rfl
      · intro hslashes
        rw [if_neg (mt dropSlashes_eq_empty_iff.1 hslashes)]
        exact ⟨_, rfl, rfl⟩
  | central =>
    rw [hg] at hfound
    rw [(course_ofExcept.1 hfound).1] at hmem
    cases hmem

/-! ## Operations -/

namespace Operation

/-- What an operation puts behind the URL of its kind; nothing if it is sent to the URL itself. -/
def suffix? : Operation → Option String
  | lifecycle command => some ("command?" ++ command.text ++ "=")
  | parameters => some "parameters"
  | encrypt _ => some "encrypt"
  | refreshMirrors => some "actuator/refreshmirrors"
  | addSecret path _ | removeSecret path => some ("secrets/" ++ path)
  | view | deleteRepository _ => none

/-- The URL is the base, or the suffix of the operation is joined to that. -/
def IsAddressed (operation : Operation) (base url : String) : Prop :=
  match operation.suffix? with
  | none => url = base
  | some suffix => IsJoined base suffix url

theorem head?_suffix {operation : Operation} {suffix : String}
    (h : operation.suffix? = some suffix) : suffix.toList.head? ≠ some '/' := by
  have hsecret (path : String) : ("secrets/" ++ path).toList.head? ≠ some '/' := by
    simp
  cases operation with
  | lifecycle command =>
    cases h
    cases command <;> decide
  | parameters | encrypt _ | refreshMirrors =>
    cases h
    decide
  | addSecret path secret =>
    cases h
    exact hsecret path
  | removeSecret path =>
    cases h
    exact hsecret path
  | view | deleteRepository _ => cases h

/-- The slash at the seam is put in unless the URL of the kind has it. -/
theorem url_of_suffix {operation : Operation} {suffix : String}
    (h : operation.suffix? = some suffix) (p : Parameters) (token : String) :
    (operation.request p token).url =
      if operation.endpointKind = .service then p.url ++ suffix else p.url ++ "/" ++ suffix := by
  apply String.toList_inj.1
  cases operation <;> cases h <;> simp [request, endpointKind]

theorem url_of_suffix_none {operation : Operation} (h : operation.suffix? = none)
    (p : Parameters) (token : String) : (operation.request p token).url = p.url := by
  cases operation with
  | view => rfl
  | deleteRepository uri => rfl
  | _ => cases h

/-- **At a URL of its kind, the request of an operation has one slash at its seam.** -/
theorem isAddressed (operation : Operation) {p : Parameters}
    (h : operation.endpointKind.Fits p.url) (token : String) :
    operation.IsAddressed p.url (operation.request p token).url := by
  rw [IsAddressed]
  cases hsuffix : operation.suffix? with
  | none => exact url_of_suffix_none hsuffix p token
  | some suffix =>
    have hhead := head?_suffix hsuffix
    show IsJoined p.url suffix _
    rw [url_of_suffix hsuffix]
    cases hkind : operation.endpointKind with
    | service =>
      rw [hkind] at h
      exact EndsInOneSlash.isJoined h hhead
    | management | lifecycle =>
      rw [hkind] at h
      exact IsStem.isJoined h hhead

/-- What an operation begins with: it gets the token, and finds out where it is sent. -/
def locate (operation : Operation) (hostPrefix name : String) : Action (Parameters × String) := do
  ofExcept .validation operation.validate
  let token ← accessToken
  let p ← resolve hostPrefix name token operation.endpointKind
  return (p, token)

theorem perform_eq_locate_bind (operation : Operation) (zone : Report.Zone)
    (hostPrefix name : String) :
    perform zone hostPrefix name operation =
      operation.locate hostPrefix name >>= fun (p, token) => operation.run zone p token := by
  simp only [perform, locate, bind_assoc, pure_bind]

theorem fits_of_locate {operation : Operation} {p : Parameters}
    (hc : (operation.locate hostPrefix name).run.Course h (.ok (p, token))) :
    operation.endpointKind.Fits p.url ∨
      operation.isLifecycle = true ∧ IsAtBroker hostPrefix name h p.url := by
  rcases course_bind.1 hc with ⟨e, -, hend⟩ | ⟨-, checked, h, rfl, -, hc⟩
  · cases hend
  rcases course_bind.1 hc with ⟨e, -, hend⟩ | ⟨told, before, h, rfl, -, hc⟩
  · cases hend
  obtain ⟨r, hr, hend⟩ := course_bind_pure.1 hc
  cases r with
  | error e => cases hend
  | ok q =>
    cases hend
    rcases fits_of_resolve hr with hfits | ⟨hkind, hbroker⟩
    · exact .inl hfits
    · refine .inr ⟨decide_eq_true hkind, hbroker.mono fun x hx => ?_⟩
      exact List.mem_append_right _ (List.mem_append_right _ hx)

/-- The only request is that of the operation, and it has one slash at its seam unless it goes to
the central broker. -/
def SendsOwn (operation : Operation) (hostPrefix name : String) (before : History)
    (found : Parameters × String) (requests : List Request) : Prop :=
  requests = [operation.request found.1 found.2] ∧
    (operation.IsAddressed found.1.url (operation.request found.1 found.2).url ∨
      operation.isLifecycle = true ∧ IsAtBroker hostPrefix name before found.1.url)

/-- **An operation that has a URL sends one request, and with one slash at its seam.** -/
theorem sendsAfter_locate (zone : Report.Zone) (hostPrefix name : String) (operation : Operation) :
    SendsAfter (operation.locate hostPrefix name) (operation.SendsOwn hostPrefix name)
      (perform zone hostPrefix name operation) := by
  rw [operation.perform_eq_locate_bind]
  refine sendsAfter_bind ?_
  rintro ⟨p, token⟩ before after result hbefore hafter
  obtain ⟨a, rfl, -⟩ := course_submit.1 hafter
  refine ⟨rfl, ?_⟩
  rcases fits_of_locate hbefore with hfits | hbroker
  · exact .inl (operation.isAddressed hfits token)
  · exact .inr hbroker

end Operation

end ServiceAdmin.Service
