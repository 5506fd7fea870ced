import ServiceAdmin.Proofs.Service.Action
import ServiceAdmin.Service.Resolve

/-!
# Courses of a resolution

A resolution asks for the token, looks up the service instance and derives the URL.  Only the
lifecycle of a centrally run instance takes the lookup of the platform's API, and a probe is sent
there and for the running service of an embedded instance.
-/

namespace ServiceAdmin.Service

open Dialogue Http

variable {hostPrefix name token : String} {service : Instance}

/-! ## The token -/

/-- The token, by what the platform told. -/
def tokenOf : Except PlatformError String → Except Error String
  | .ok output => (extractToken output).mapError .auth
  | .error e => .error (.auth (.unavailable e.message))

theorem run_accessToken :
    accessToken.run = .ask (.platform .token) fun a => .done (tokenOf a) := by
  refine congrArg (Dialogue.ask (I := interface) (.platform .token)) (funext fun a => ?_)
  cases a with
  | error e => rfl
  | ok output => exact run_ofExcept _ _

theorem tokenOf_eq_ok {a : Except PlatformError String} (h : tokenOf a = .ok token) :
    ∃ output, a = .ok output ∧ extractToken output = .ok token := by
  cases a with
  | error e => cases h
  | ok output => exact ⟨output, rfl, ok_of_mapError_eq_ok h⟩

/-! ## What is found -/

section Courses

variable {h : History}

theorem isOk_of_discovered {probe url : String} {response : Response}
    (h : discovered probe response = .ok url) : response.isOk = true := by
  rw [discovered] at h
  by_cases hs : response.status = 404
  · rw [if_pos hs] at h
    cases h
  · rw [if_neg hs] at h
    by_cases hok : response.isOk = true
    · exact hok
    · simp only [hok] at h
      cases h

/-- The lifecycle is managed at the central broker if that is there, and if it is not, then at the
dashboard. -/
theorem cases_of_brokerOrDashboard {broker probe url : String} {response : Response}
    (h : brokerOrDashboard service broker probe response = .ok url) :
    (response.isOk = true ∧ url = broker ++ managementPath ++ "/" ++ service.guid) ∨
      (response.status = 404 ∧ managementUrl service.dashboardUrl = .ok url) := by
  rw [brokerOrDashboard] at h
  by_cases hok : response.isOk = true
  · rw [if_pos hok] at h
    exact .inl ⟨hok, (Except.ok.inj h).symm⟩
  · rw [if_neg hok] at h
    by_cases hs : response.status = 404
    · rw [if_pos hs] at h
      exact .inr ⟨hs, ok_of_mapError_eq_ok h⟩
    · rw [if_neg hs] at h
      cases h

/-- The probe for the running service is the only request of a discovery. -/
theorem course_discover {dashboard : String} {result : Except Error String}
    (hc : (discover dashboard token).run.Course h result) :
    (∃ e, h = [] ∧ result = .error (.resolve e)) ∨
      ∃ probe a, h = [onSend ⟨.get, probe, none, token⟩ a] ∧
        result = verdict (discovered probe) a := by
  rw [discover, course_ofExcept_bind] at hc
  cases hd : dashboardOriginAndGuid dashboard with
  | error e =>
    rw [hd] at hc
    obtain ⟨rfl, rfl⟩ := course_done.1 hc
    exact .inl ⟨e, rfl, rfl⟩
  | ok p =>
    rw [hd] at hc
    obtain ⟨a, rfl, rfl⟩ := course_submit.1 hc
    exact .inr ⟨_, a, rfl, rfl⟩

/-- The central broker is asked at the platform that the platform's API names. -/
theorem course_lifecycleUrl {result : Except Error String}
    (hc : (lifecycleUrl service hostPrefix token).run.Course h result) :
    (∃ a e, h = [onPlatform .apiEndpoint a] ∧ result = .error e) ∨
      ∃ api broker a, brokerBaseUrl api hostPrefix = .ok broker ∧
        h = [onPlatform .apiEndpoint (.ok api),
          onSend ⟨.get, broker ++ "/actuator/info", none, token⟩ a] ∧
        result = verdict (brokerOrDashboard service broker (broker ++ "/actuator/info")) a := by
  obtain ⟨a, t, rfl, ht⟩ := course_askPlatform_bind.1 hc
  rw [course_ofExcept_bind] at ht
  cases a with
  | error e =>
    obtain ⟨rfl, rfl⟩ := course_done.1 ht
    exact .inl ⟨_, _, rfl, rfl⟩
  | ok api =>
    have ht := course_ofExcept_bind.1 ht
    cases hb : brokerBaseUrl api hostPrefix with
    | error e =>
      rw [hb] at ht
      obtain ⟨rfl, rfl⟩ := course_done.1 ht
      exact .inl ⟨_, _, rfl, rfl⟩
    | ok broker =>
      rw [hb] at ht
      obtain ⟨a, rfl, rfl⟩ := course_submit.1 ht
      exact .inr ⟨api, broker, a, hb, rfl, rfl⟩

/-- No more than one request is sent to derive a URL. -/
theorem sent_of_course_endpointUrl {kind : EndpointKind} {result : Except Error String}
    (hc : (endpointUrl service hostPrefix token kind).run.Course h result) :
    sent h = [] ∨ ∃ url, sent h = [⟨.get, url, none, token⟩] := by
  have hderived {x : Except ResolveError String}
      (hx : (ofExcept .resolve x).run.Course h result) : sent h = [] := by
    rw [(course_ofExcept.1 hx).1]
    rfl
  cases kind with
  | service =>
    rw [endpointUrl] at hc
    cases hg : service.generation with
    | embedded =>
      rw [hg] at hc
      rcases course_discover hc with ⟨e, rfl, -⟩ | ⟨probe, a, rfl, -⟩
      · exact .inl rfl
      · exact .inr ⟨probe, rfl⟩
    | central =>
      rw [hg] at hc
      exact .inl (hderived hc)
  | management => exact .inl (hderived hc)
  | lifecycle =>
    rw [endpointUrl] at hc
    cases hg : service.generation with
    | embedded =>
      rw [hg] at hc
      exact .inl (hderived hc)
    | central =>
      rw [hg] at hc
      rcases course_lifecycleUrl hc with ⟨a, e, rfl, -⟩ | ⟨api, broker, a, -, rfl, -⟩
      · exact .inl rfl
      · exact .inr ⟨_, rfl⟩

/-- A resolution derives the URL for the instance that was looked up. -/
theorem course_resolve {kind : EndpointKind} {result : Except Error Parameters}
    (hc : (resolve hostPrefix name token kind).run.Course h result) :
    (∃ e, h = [onPlatform (.service name) (.error e)] ∧
        result = .error (.lookup (.serviceNotFound name e.message))) ∨
      ∃ service t r, h = onPlatform (.service name) (.ok service) :: t ∧
        (endpointUrl service hostPrefix token kind).run.Course t r ∧
        result = r.map fun url => ⟨url, service.offeringName, service.planName⟩ := by
  obtain ⟨a, t, rfl, ht⟩ := course_askPlatform_bind.1 hc
  cases a with
  | error e =>
    obtain ⟨rfl, rfl⟩ := course_throw.1 ht
    exact .inl ⟨e, rfl, rfl⟩
  | ok service =>
    obtain ⟨r, hr, rfl⟩ := course_bind_pure.1 ht
    exact .inr ⟨service, t, r, rfl, hr, rfl⟩

end Courses

/-! ## What may be asked -/

section Asks

variable {P : Query → Prop}

theorem asks_accessToken (hp : ∀ q, P (.platform q)) : accessToken.run.Asks P := by
  rw [run_accessToken]
  exact ⟨hp _, fun _ => trivial⟩

theorem asks_endpointUrl (hp : ∀ q, P (.platform q))
    (hg : ∀ url, P (.send ⟨.get, url, none, token⟩)) (kind : EndpointKind) :
    (endpointUrl service hostPrefix token kind).run.Asks P := by
  have hdiscover : ∀ dashboard, (discover dashboard token).run.Asks P := fun dashboard =>
    asks_bind asks_ofExcept fun _ => asks_submit (hg _)
  have hlifecycle : (lifecycleUrl service hostPrefix token).run.Asks P :=
    asks_liftM_bind (asks_askPlatform (hp _)) fun _ => asks_bind asks_ofExcept fun _ =>
      asks_bind asks_ofExcept fun _ => asks_submit (hg _)
  cases kind <;> simp only [endpointUrl]
  · cases service.generation
    · exact hdiscover _
    · exact asks_ofExcept
  · exact asks_ofExcept
  · cases service.generation
    · exact asks_ofExcept
    · exact hlifecycle

/-- A resolution asks the platform and sends GET requests that carry the token. -/
theorem asks_resolve (hp : ∀ q, P (.platform q)) (hg : ∀ url, P (.send ⟨.get, url, none, token⟩))
    (kind : EndpointKind) : (resolve hostPrefix name token kind).run.Asks P := by
  refine asks_liftM_bind (asks_askPlatform (hp _)) fun a => ?_
  cases a with
  | error e => trivial
  | ok service => exact asks_bind (asks_endpointUrl hp hg kind) fun _ => trivial

end Asks

end ServiceAdmin.Service
