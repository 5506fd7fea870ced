import ServiceAdmin.Proofs.Url.Neighbour
import ServiceAdmin.Service.Endpoint

/-!
# Links from a dashboard

From the URL of a dashboard on a server, the URLs of the instance and of the root are derived so
that they lead to the same server, and so that nothing changes when they are derived again
(`managementUrl_reread`).  They are URLs of the dashboard's scheme exactly if that is the scheme of
a server (`isUsable_iff_hasTupleOrigin`).
-/

namespace ServiceAdmin.Service

open Url (IsSegment hasTupleOrigin pathOf parse_origin_append)

variable {dashboard : String} {url : Url}

/-- The last segment of a path that is not empty. -/
def lastName? (url : Url) : Option String := (url.segments.filter (· ≠ "")).getLast?

/-- The segments below which a broker manages an instance. -/
def managed (guid : String) : List (List Char) := ["cli".toList, "instances".toList, guid.toList]

theorem managed_ne_nil (guid : String) : managed guid ≠ [] := List.cons_ne_nil _ _

theorem text_managed (guid : String) :
    (pathOf (managed guid)).text = managementPath ++ "/" ++ guid := by
  apply String.toList_inj.1
  rw [Url.toList_text_pathOf, managed, managementPath]
  simp

theorem text_root : (pathOf [[]]).text = "/" := by
  apply String.toList_inj.1
  rw [Url.toList_text_pathOf]
  rfl

theorem managementUrl_of_parse (h : Url.parse dashboard = .ok url) :
    managementUrl dashboard =
      match lastName? url with
      | some guid => .ok (url.origin ++ (pathOf (managed guid)).text)
      | none => .error (.invalidDashboardPath dashboard) := by
  have hparse : parseUrl dashboard = .ok url := by
    rw [parseUrl, h]
    rfl
  rw [managementUrl, dashboardOriginAndGuid, hparse]
  show (match lastName? url with
    | some guid => _
    | none => _ : Except ResolveError (String × String)) >>= _ = _
  cases lastName? url with
  | none => rfl
  | some guid =>
    show Except.ok (url.origin ++ managementPath ++ "/" ++ guid) = Except.ok _
    rw [text_managed, String.append_assoc, String.append_assoc, String.append_assoc]

theorem dashboardRootUrl_of_parse (h : Url.parse dashboard = .ok url) :
    dashboardRootUrl dashboard = .ok (url.origin ++ (pathOf [[]]).text) := by
  rw [dashboardRootUrl, parseUrl, h, text_root]
  rfl

/-! ## Names in a path -/

theorem lastName?_facts {guid : String} (h : lastName? url = some guid) :
    guid ∈ url.segments ∧ guid ≠ "" := by
  obtain ⟨hmem, hne⟩ := List.mem_filter.1 (List.mem_of_getLast? h)
  exact ⟨hmem, of_decide_eq_true hne⟩

theorem isSegment_of_mem {guid : String} (hurl : Url.IsServerUrl url)
    (h : guid ∈ url.segments) : IsSegment guid.toList := by
  obtain ⟨names, hpath, -, hnames⟩ := hurl.path
  rw [Url.segments, hpath] at h
  obtain ⟨name, hname, rfl⟩ := List.mem_map.1 h
  rw [String.toList_ofList]
  exact hnames name hname

theorem isSegment_managed {guid : String} (h : IsSegment guid.toList) :
    ∀ name ∈ managed guid, IsSegment name :=
  List.forall_mem_cons.2 ⟨⟨by decide, by decide⟩, List.forall_mem_cons.2
    ⟨⟨by decide, by decide⟩, List.forall_mem_singleton.2 h⟩⟩

theorem lastName?_atPath {guid : String} (hguid : guid ≠ "") :
    lastName? (url.atPath (managed guid)) = some guid := by
  have hsegments : (url.atPath (managed guid)).segments = ["cli", "instances", guid] := by
    show (managed guid).map String.ofList = _
    simp [managed]
  rw [lastName?, hsegments]
  simp [hguid]

/-! ## Links on the same server -/

theorem isSegment_root : ∀ name ∈ [[]], IsSegment name :=
  List.forall_mem_singleton.2 Url.isSegment_nil

/-- **What is derived from a dashboard leads to its server, and deriving it again changes
nothing.** -/
theorem managementUrl_reread {link : String} (h : Url.parse dashboard = .ok url)
    (hscheme : url.scheme = "http" ∨ url.scheme = "https")
    (hlink : managementUrl dashboard = .ok link) :
    ∃ guid root, lastName? url = some guid ∧
      Url.parse link = .ok ⟨url.scheme, "", none, url.host, url.port,
        .segments ["cli", "instances", guid], none, none⟩ ∧
      managementUrl link = .ok link ∧
      dashboardRootUrl dashboard = .ok root ∧
      dashboardRootUrl link = .ok root ∧
      dashboardRootUrl root = .ok root := by
  have htuple : hasTupleOrigin url.scheme = true := by
    rcases hscheme with hscheme | hscheme <;> exact hscheme ▸ rfl
  have hurl := Url.isServerUrl_of_parse h htuple
  have hstable := Url.isStable_of_parse h htuple
  rw [managementUrl_of_parse h] at hlink
  cases hguid : lastName? url with
  | none =>
    rw [hguid] at hlink
    cases hlink
  | some guid =>
    rw [hguid] at hlink
    cases hlink
    obtain ⟨hmem, hne⟩ := lastName?_facts hguid
    have hmanaged := isSegment_managed (isSegment_of_mem hurl hmem)
    have hread := parse_origin_append hurl hstable (managed_ne_nil guid) hmanaged
    have hroot := parse_origin_append hurl hstable (List.cons_ne_nil _ _) isSegment_root
    have hsegments : pathOf (managed guid) = .segments ["cli", "instances", guid] := by
      rw [pathOf, managed]
      simp
    refine ⟨guid, url.origin ++ (pathOf [[]]).text, rfl, ?_, ?_, dashboardRootUrl_of_parse h,
      ?_, ?_⟩
    · rw [hread, Url.atPath, hsegments]
    · rw [managementUrl_of_parse hread, lastName?_atPath hne, Url.origin_atPath htuple]
    · rw [dashboardRootUrl_of_parse hread, Url.origin_atPath htuple]
    · rw [dashboardRootUrl_of_parse hroot, Url.origin_atPath htuple]

theorem managementUrl_reread_detour :
    Url.parse "HTTPS://user:pw@dash.example:8443/a/../dashboard//%61bc/?x=1#y" =
      .ok ⟨"https", "user", some "pw", some (.domain "dash.example"), some 8443,
        .segments ["dashboard", "", "%61bc", ""], some "x=1", some "y"⟩ ∧
    ∃ guid root, lastName? ⟨"https", "user", some "pw", some (.domain "dash.example"), some 8443,
        .segments ["dashboard", "", "%61bc", ""], some "x=1", some "y"⟩ = some guid ∧
      Url.parse "https://dash.example:8443/cli/instances/%61bc" =
        .ok ⟨"https", "", none, some (.domain "dash.example"), some 8443,
          .segments ["cli", "instances", guid], none, none⟩ ∧
      managementUrl "https://dash.example:8443/cli/instances/%61bc" =
        .ok "https://dash.example:8443/cli/instances/%61bc" ∧
      dashboardRootUrl "HTTPS://user:pw@dash.example:8443/a/../dashboard//%61bc/?x=1#y" =
        .ok root ∧
      dashboardRootUrl "https://dash.example:8443/cli/instances/%61bc" = .ok root ∧
      dashboardRootUrl root = .ok root := by
  have hparse : Url.parse "HTTPS://user:pw@dash.example:8443/a/../dashboard//%61bc/?x=1#y" =
      .ok ⟨"https", "user", some "pw", some (.domain "dash.example"), some 8443,
        .segments ["dashboard", "", "%61bc", ""], some "x=1", some "y"⟩ := by decide +kernel
  exact ⟨hparse, managementUrl_reread hparse (.inr rfl) (by decide +kernel)⟩

/-! ## Links of the same scheme -/

/-- The link is an absolute URL with the scheme of the dashboard. -/
def IsUsable (url : Url) (link : String) : Prop :=
  ∃ again, Url.parse link = .ok again ∧ again.scheme = url.scheme

theorem isUsable_iff_hasTupleOrigin (h : Url.parse dashboard = .ok url)
    {names : List (List Char)} (hne : names ≠ [])
    (hnames : Url.IsServerUrl url → ∀ name ∈ names, IsSegment name) :
    IsUsable url (url.origin ++ (pathOf names).text) ↔ hasTupleOrigin url.scheme = true := by
  constructor
  · rintro ⟨again, hread, hscheme⟩
    obtain ⟨rest, hrest⟩ : ∃ rest, (pathOf names).text = "/" ++ rest := by
      obtain ⟨name, names, rfl⟩ := List.exists_cons_of_ne_nil hne
      refine ⟨String.ofList (name ++ names.flatMap ('/' :: ·)), String.toList_inj.1 ?_⟩
      simp [Url.toList_text_pathOf]
    rw [hrest, ← String.append_assoc] at hread
    rw [← hscheme]
    exact Url.hasTupleOrigin_of_parse_origin_append hread
  · intro htuple
    have hurl := Url.isServerUrl_of_parse h htuple
    have hstable := Url.isStable_of_parse h htuple
    exact ⟨_, parse_origin_append hurl hstable hne (hnames hurl), rfl⟩

/-- **What is derived from a dashboard is usable exactly if its scheme is that of a server.**  A
text that is no URL is reported, and so is a path that names no instance. -/
theorem derived_isUsable_iff (dashboard : String) :
    (∀ fault, Url.parse dashboard = .error fault →
      managementUrl dashboard = .error (.invalidUrl dashboard fault.message) ∧
      dashboardRootUrl dashboard = .error (.invalidUrl dashboard fault.message)) ∧
    ∀ url, Url.parse dashboard = .ok url →
      (lastName? url = none → managementUrl dashboard = .error (.invalidDashboardPath dashboard)) ∧
      (lastName? url ≠ none → ∃ link, managementUrl dashboard = .ok link ∧
        (IsUsable url link ↔ hasTupleOrigin url.scheme = true)) ∧
      ∃ root, dashboardRootUrl dashboard = .ok root ∧
        (IsUsable url root ↔ hasTupleOrigin url.scheme = true) := by
  refine ⟨fun fault hfault => ?_, fun url h => ⟨fun hname => ?_, fun hname => ?_, ?_⟩⟩
  · have hparse : parseUrl dashboard = .error (.invalidUrl dashboard fault.message) := by
      rw [parseUrl, hfault]
      rfl
    rw [managementUrl, dashboardOriginAndGuid, dashboardRootUrl, hparse]
    exact ⟨rfl, rfl⟩
  · rw [managementUrl_of_parse h, hname]
  · obtain ⟨guid, hguid⟩ := Option.ne_none_iff_exists'.1 hname
    refine ⟨_, by rw [managementUrl_of_parse h, hguid], ?_⟩
    refine isUsable_iff_hasTupleOrigin h (managed_ne_nil guid) ?_
    intro hurl
    exact isSegment_managed (isSegment_of_mem hurl (lastName?_facts hguid).1)
  · exact ⟨_, dashboardRootUrl_of_parse h,
      isUsable_iff_hasTupleOrigin h (List.cons_ne_nil _ _) fun _ => isSegment_root⟩

theorem derived_isUsable_websocket :
    ∃ link, managementUrl "wss://dash.example/dashboard/abc" = .ok link ∧
      IsUsable ⟨"wss", "", none, some (.domain "dash.example"), none,
        .segments ["dashboard", "abc"], none, none⟩ link := by
  have hparse : Url.parse "wss://dash.example/dashboard/abc" =
      .ok ⟨"wss", "", none, some (.domain "dash.example"), none,
        .segments ["dashboard", "abc"], none, none⟩ := by decide +kernel
  obtain ⟨link, hlink, hiff⟩ :=
    ((derived_isUsable_iff "wss://dash.example/dashboard/abc").2 _ hparse).2.1 (by decide)
  exact ⟨link, hlink, hiff.2 (by decide)⟩

/-- The origin of other URLs is opaque, and what is derived from it is no URL. -/
theorem not_derived_isUsable :
    ¬ ∀ dashboard url link, Url.parse dashboard = .ok url →
      managementUrl dashboard = .ok link ∨ dashboardRootUrl dashboard = .ok link →
      IsUsable url link := by
  intro h
  have hparse : Url.parse "foo://broker.example/dashboard/abc" =
      .ok ⟨"foo", "", none, some (.domain "broker.example"), none,
        .segments ["dashboard", "abc"], none, none⟩ := by decide +kernel
  have hlink : managementUrl "foo://broker.example/dashboard/abc" =
      .ok "null/cli/instances/abc" := by decide +kernel
  obtain ⟨again, hread, -⟩ := h _ _ _ hparse (.inl hlink)
  have hfault : Url.parse "null/cli/instances/abc" = .error .noScheme := by decide +kernel
  rw [hfault] at hread
  cases hread

end ServiceAdmin.Service
