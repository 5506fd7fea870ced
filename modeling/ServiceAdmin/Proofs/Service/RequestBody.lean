import ServiceAdmin.Proofs.Json.Written
import ServiceAdmin.Proofs.Service.Resolve
import ServiceAdmin.Service.Operation

/-!
# The bodies of requests

A body that an operation writes is JSON, and is decoded as what was to be asked for, whatever
characters that has (`bodies_reread`).  What else an operation sends has no body
(`carries_of_perform`).
-/

namespace ServiceAdmin.Service

open Dialogue Http

variable {σ : Type} {hostPrefix name token : String} {h : History}

/-- The request carries the JSON text of an object with exactly these members, all of them
strings. -/
def Carries (r : Request) (members : List (String × String)) : Prop :=
  ∃ body, r.payload = some (.json body) ∧
    Json.decodeText (.value Json.maxDepth) body =
      .ok (.object (members.map fun member => (member.1, .string member.2)))

theorem carries_writeObject (method : Method) (url : String) (members : List (String × String)) :
    Carries ⟨method, url, some (.json (Json.writeObject members)), token⟩ members :=
  ⟨_, rfl, Json.decodeText_writeObject members 126⟩

/-- A body tells its members. -/
theorem Carries.eq_of_payload_eq {r r' : Request} {members members' : List (String × String)}
    (h : Carries r members) (h' : Carries r' members') (heq : r.payload = r'.payload) :
    members = members' := by
  obtain ⟨body, hbody, hdecode⟩ := h
  obtain ⟨body', hbody', hdecode'⟩ := h'
  have hsame : body = body' := by
    rw [heq, hbody'] at hbody
    exact (congrArg Payload.body (Option.some.inj hbody)).symm
  rw [hsame, hdecode'] at hdecode
  have hmap := Json.Value.object.inj (Except.ok.inj hdecode)
  refine (List.map_injective_iff.2 ?_ hmap).symm
  intro member member' hmember
  obtain ⟨hkey, hvalue⟩ := Prod.mk.inj hmember
  exact Prod.ext hkey (Json.Value.string.inj hvalue)

/-! ## Lifecycle commands and repositories -/

namespace Operation

/-- What a lifecycle command tells of the service instance. -/
def lifecycleMembers (offeringName planName : String) : List (String × String) :=
  [("serviceOfferingName", offeringName), ("planName", planName)]

/-- What the removal of a repository tells. -/
def repositoryMembers (uri : String) : List (String × String) :=
  [("operation", "delete"), ("repo", uri)]

theorem carries_lifecycle (command : Lifecycle) (p : Parameters) (token : String) :
    Carries ((lifecycle command).request p token) (lifecycleMembers p.offeringName p.planName) :=
  carries_writeObject _ _ _

theorem carries_deleteRepository (uri : String) (p : Parameters) (token : String) :
    Carries ((deleteRepository uri).request p token) (repositoryMembers uri) :=
  carries_writeObject _ _ _

/-- The bodies of two lifecycle commands are the same only for the same names. -/
theorem payload_lifecycle_inj {command command' : Lifecycle} {p p' : Parameters}
    {token token' : String} :
    ((lifecycle command).request p token).payload =
        ((lifecycle command').request p' token').payload ↔
      p.offeringName = p'.offeringName ∧ p.planName = p'.planName := by
  constructor
  · intro heq
    have hmembers := (carries_lifecycle command p token).eq_of_payload_eq
      (carries_lifecycle command' p' token') heq
    simpa [lifecycleMembers] using hmembers
  · rintro ⟨hoffering, hplan⟩
    simp only [request, hoffering, hplan]

theorem payload_deleteRepository_inj {uri uri' : String} {p p' : Parameters}
    {token token' : String} :
    ((deleteRepository uri).request p token).payload =
        ((deleteRepository uri').request p' token').payload ↔ uri = uri' := by
  constructor
  · intro heq
    have hmembers := (carries_deleteRepository uri p token).eq_of_payload_eq
      (carries_deleteRepository uri' p' token') heq
    simpa [repositoryMembers] using hmembers
  · rintro rfl
    rfl

/-- The command is told by the URL alone. -/
theorem url_lifecycle_inj {command command' : Lifecycle} {p p' : Parameters} {token token' : String}
    (hurl : p.url = p'.url) (heq : ((lifecycle command).request p token).url =
      ((lifecycle command').request p' token').url) : command = command' := by
  simp only [request, hurl, ← String.toList_inj, String.toList_append, List.append_assoc] at heq
  have htext := List.append_cancel_right (List.append_cancel_left (List.append_cancel_left heq))
  have hinj : ∀ c c' : Lifecycle, c.text.toList = c'.text.toList → c = c' := by
    rintro (_ | _ | _ | _) (_ | _ | _ | _) hc
    all_goals first | rfl | exact absurd hc (by decide)
  exact hinj _ _ htext

theorem sent_run (operation : Operation) (zone : Report.Zone) (p : Parameters) (token : String)
    (answer : Handler interface σ) (st : σ) :
    sent ((operation.run zone p token).run.history answer st) = [operation.request p token] := by
  rw [run, run_submit]
  rfl

end Operation

/-- What the bodies of requests tell, in any surroundings. -/
structure BodiesReread (zone : Report.Zone) (answer : Handler interface σ) (st : σ) : Prop where
  /-- A lifecycle command sends the names of the offering and the plan, and nothing else. -/
  lifecycle : ∀ command p token, ∃ r,
    sent (((Operation.lifecycle command).run zone p token).run.history answer st) = [r] ∧
      Carries r [("serviceOfferingName", p.offeringName), ("planName", p.planName)]
  /-- The removal of a repository sends its text, and nothing else but that it is a removal. -/
  repository : ∀ uri p token, ∃ r,
    sent (((Operation.deleteRepository uri).run zone p token).run.history answer st) = [r] ∧
      Carries r [("operation", "delete"), ("repo", uri)]
  /-- Other names have other bodies. -/
  lifecycle_inj : ∀ command command' p p' token token',
    (sent (((Operation.lifecycle command).run zone p token).run.history answer st)).map
          (·.payload) =
        (sent (((Operation.lifecycle command').run zone p' token').run.history answer st)).map
          (·.payload) ↔
      p.offeringName = p'.offeringName ∧ p.planName = p'.planName
  /-- Other texts of repositories have other bodies. -/
  repository_inj : ∀ uri uri' p p' token token',
    (sent (((Operation.deleteRepository uri).run zone p token).run.history answer st)).map
          (·.payload) =
        (sent (((Operation.deleteRepository uri').run zone p' token').run.history answer st)).map
          (·.payload) ↔ uri = uri'
  /-- Whatever the names are, another command is sent to another URL. -/
  command_kept : ∀ command command' url offering offering' plan plan' token token',
    (sent (((Operation.lifecycle command).run zone ⟨url, offering, plan⟩ token).run.history answer
        st)).map (·.url) =
      (sent (((Operation.lifecycle command').run zone ⟨url, offering', plan'⟩ token').run.history
        answer st)).map (·.url) ↔ command = command'

/-- **The bodies of lifecycle commands and of removals of repositories are read back.** -/
theorem bodies_reread (zone : Report.Zone) (answer : Handler interface σ) (st : σ) :
    BodiesReread zone answer st where
  lifecycle command p token :=
    ⟨_, Operation.sent_run _ zone p token answer st, Operation.carries_lifecycle command p token⟩
  repository uri p token :=
    ⟨_, Operation.sent_run _ zone p token answer st, Operation.carries_deleteRepository uri p token⟩
  lifecycle_inj command command' p p' token token' := by
    simp only [Operation.sent_run, List.map_cons, List.map_nil, List.cons.injEq, and_true]
    exact Operation.payload_lifecycle_inj
  repository_inj uri uri' p p' token token' := by
    simp only [Operation.sent_run, List.map_cons, List.map_nil, List.cons.injEq, and_true]
    exact Operation.payload_deleteRepository_inj
  command_kept command command' url offering offering' plan plan' token token' := by
    simp only [Operation.sent_run, List.map_cons, List.map_nil, List.cons.injEq, and_true]
    constructor
    · exact Operation.url_lifecycle_inj rfl
    · rintro rfl
      rfl

/-! ## Whole commands -/

/-- A resolution sends nothing but probes. -/
theorem payload_of_sent_resolve {kind : EndpointKind} {result : Except Error Parameters}
    (hc : (resolve hostPrefix name token kind).run.Course h result) :
    ∀ r ∈ sent h, r.payload = none := by
  rcases course_resolve hc with ⟨e, rfl, -⟩ | ⟨service, t, found, rfl, hu, -⟩
  · exact fun _ hr => absurd hr List.not_mem_nil
  intro r (hr : r ∈ sent t)
  rcases sent_of_course_endpointUrl hu with hnone | ⟨url, hone⟩
  · rw [hnone] at hr
    exact absurd hr List.not_mem_nil
  · rw [hone] at hr
    rw [List.mem_singleton.1 hr]

/-- The names of a resolution are those of the service instance that was looked up. -/
theorem names_of_resolve {kind : EndpointKind} {p : Parameters}
    (hc : (resolve hostPrefix name token kind).run.Course h (.ok p)) :
    ∃ service, onPlatform (.service name) (.ok service) ∈ h ∧
      p.offeringName = service.offeringName ∧ p.planName = service.planName := by
  rcases course_resolve hc with ⟨e, -, hend⟩ | ⟨service, t, found, rfl, -, hend⟩
  · cases hend
  cases found with
  | error e => cases hend
  | ok url =>
    cases hend
    exact ⟨service, List.mem_cons_self, rfl, rfl⟩

/-- Before the request of an operation only probes are sent, and it tells of the service instance
that was looked up. -/
theorem request_of_sent_perform {zone : Report.Zone} {operation : Operation}
    {result : Except Error String}
    (hc : (perform zone hostPrefix name operation).run.Course h result) :
    ∀ r ∈ sent h, r.payload = none ∨ ∃ service p token, r = operation.request p token ∧
      onPlatform (.service name) (.ok service) ∈ h ∧
        p.offeringName = service.offeringName ∧ p.planName = service.planName := by
  rcases course_bind.1 hc with ⟨e, hchecked, -⟩ | ⟨u, checked, rest, rfl, hchecked, hrest⟩
  · rw [(course_ofExcept.1 hchecked).1]
    exact fun _ hr => absurd hr List.not_mem_nil
  obtain ⟨rfl, -⟩ := course_ofExcept.1 hchecked
  rw [run_bind_eq, run_accessToken] at hrest
  obtain ⟨told, t, rfl, ht⟩ := course_ask.1 hrest
  replace ht : (onward _ (tokenOf told)).Course t result := ht
  intro r (hr : r ∈ sent t)
  cases htold : tokenOf told with
  | error e =>
    rw [htold] at ht
    rw [(course_done.1 ht).1] at hr
    exact absurd hr List.not_mem_nil
  | ok token =>
    rw [htold] at ht
    rcases course_bind.1 ht with ⟨e, hresolve, -⟩ | ⟨p, mid, last, rfl, hresolve, hlast⟩
    · exact .inl (payload_of_sent_resolve hresolve r hr)
    obtain ⟨a, rfl, -⟩ := course_submit.1 hlast
    rw [sent_append] at hr
    rcases List.mem_append.1 hr with hr | hr
    · exact .inl (payload_of_sent_resolve hresolve r hr)
    · obtain ⟨service, hmem, hnames⟩ := names_of_resolve hresolve
      refine .inr ⟨service, p, token, List.mem_singleton.1 hr, ?_, hnames⟩
      exact List.mem_cons_of_mem _ (List.mem_append_left _ hmem)

/-- **The only body of a whole lifecycle command tells the names of the instance that was looked
up.** -/
theorem carries_of_perform (answer : Handler interface σ) (st : σ) (zone : Report.Zone)
    (hostPrefix name : String) (command : Lifecycle) :
    let h := (perform zone hostPrefix name (.lifecycle command)).run.history answer st
    ∀ r ∈ sent h, r.payload = none ∨
      ∃ service, onPlatform (.service name) (.ok service) ∈ h ∧
        Carries r
          [("serviceOfferingName", service.offeringName), ("planName", service.planName)] := by
  intro h r hr
  have hc := Dialogue.course_run answer (perform zone hostPrefix name (.lifecycle command)).run st
  rcases request_of_sent_perform hc r hr with hnone | ⟨service, p, token, rfl, hmem, ho, hp⟩
  · exact .inl hnone
  · refine .inr ⟨service, hmem, ?_⟩
    rw [← ho, ← hp]
    exact Operation.carries_lifecycle command p token

end ServiceAdmin.Service
