import ServiceAdmin.Proofs.Service.Resolve

/-!
# Kinds of endpoints

The lifecycle of an instance is managed where its broker manages the instance, unless the central
broker says that it is there (`kinds_agree`).  `Resolution` is what a resolution comes to when the
platform follows a script: its result, and the requests that it sent.
-/

namespace ServiceAdmin.Service

open Dialogue Http

variable {α β σ : Type}

/-! ## What a dialogue comes to -/

section Ending

variable (platform : Script) (others : Handler interface σ) (st : σ)

/-- The result of a dialogue, and the requests that it sent. -/
def ending (d : Dialogue interface α) : α × List Request :=
  ((d.run (withPlatform platform others) st).1, sent (d.history (withPlatform platform others) st))

@[simp] theorem ending_done (a : α) : ending platform others st (.done a) = (a, []) := rfl

@[simp] theorem ending_ask_platform (q : Platform.Query)
    (next : Except PlatformError q.Value → Dialogue interface α) :
    ending platform others st (.ask (.platform q) next) =
      ending platform others st (next (platform q)) := rfl

/-- A request that is the last question. -/
theorem ending_ask_send (r : Request) (f : Except TransportError Response → α) :
    ending platform others st (.ask (.send r) fun a => .done (f a)) =
      (f (others (.send r) st).1, [r]) := rfl

theorem ending_bind_pure (x : Action α) (f : α → β) :
    ending platform others st (x >>= fun a => pure (f a)).run =
      let (result, requests) := ending platform others st x.run
      (result.map f, requests) := by
  rcases hx : x.run.run (withPlatform platform others) st with ⟨result, asked, st'⟩
  have hrun := run_bind_pure hx f
  have hhistory : (x >>= fun a => pure (f a)).run.history (withPlatform platform others) st =
      x.run.history (withPlatform platform others) st := by
    cases result with
    | ok a =>
      rw [history_bind_of_ok hx]
      exact List.append_nil _
    | error e => exact history_bind_of_error hx
  unfold ending
  rw [hrun, hhistory, hx]

theorem ending_ofExcept {ε : Type} (kind : ε → Error) (x : Except ε α) :
    ending platform others st (ofExcept kind x).run = (x.mapError kind, []) := by
  rw [run_ofExcept, ending_done]

theorem ending_submit (r : Request) (judge : Response → Except Error α) :
    ending platform others st (submit r judge).run =
      (verdict judge (others (.send r) st).1, [r]) := by
  rw [run_submit, ending_ask_send]

end Ending

/-! ## Resolutions -/

section Resolution

variable (platform : Script) (others : Handler interface σ) (st : σ)
  (hostPrefix name token : String)

/-- What it comes to that a kind of URL is resolved for the service instance of a name. -/
def resolution (kind : EndpointKind) : Except Error Parameters × List Request :=
  ending platform others st (resolve hostPrefix name token kind).run

/-- The request that asks a central broker whether it is there. -/
def brokerProbe (broker token : String) : Request :=
  ⟨.get, broker ++ "/actuator/info", none, token⟩

/-- The platform, but with another dashboard for every service instance. -/
def withDashboard (dashboard : String) : Script
  | .service name =>
    (platform (.service name)).map fun service => { service with dashboardUrl := dashboard }
  | q => platform q

variable {platform hostPrefix name token} {service : Instance} {api broker : String}

theorem resolution_of_missing {e : PlatformError} (h : platform (.service name) = .error e)
    (kind : EndpointKind) : resolution platform others st hostPrefix name token kind =
      (.error (.lookup (.serviceNotFound name e.message)), []) := by
  rw [resolution, resolve, run_liftM_bind]
  show ending _ _ _ (Dialogue.ask _ _) = _
  rw [ending_ask_platform, h]
  rfl

/-- The URL of an instance is given together with its offering and its plan. -/
theorem resolution_of_found (h : platform (.service name) = .ok service) (kind : EndpointKind) :
    resolution platform others st hostPrefix name token kind =
      let (url, requests) :=
        ending platform others st (endpointUrl service hostPrefix token kind).run
      (url.map fun url => ⟨url, service.offeringName, service.planName⟩, requests) := by
  rw [resolution, resolve, run_liftM_bind]
  show ending _ _ _ (Dialogue.ask _ _) = _
  rw [ending_ask_platform, h]
  exact ending_bind_pure platform others st _ _

/-- With a broker that can be asked, its answer decides. -/
theorem ending_lifecycleUrl (hapi : platform .apiEndpoint = .ok api)
    (hbroker : brokerBaseUrl api hostPrefix = .ok broker) :
    ending platform others st (lifecycleUrl service hostPrefix token).run =
      (verdict (brokerOrDashboard service broker (brokerProbe broker token).url)
        (others (.send (brokerProbe broker token)) st).1, [brokerProbe broker token]) := by
  rw [lifecycleUrl, run_liftM_bind]
  show ending _ _ _ (Dialogue.ask _ _) = _
  rw [ending_ask_platform, hapi]
  show ending _ _ _ (ofExcept .resolve (brokerBaseUrl api hostPrefix) >>= _).run = _
  rw [hbroker]
  exact ending_submit platform others st _ _

/-- Whatever the kind, no more than one request is sent, and it changes nothing. -/
theorem requests_endpointUrl (kind : EndpointKind) :
    (ending platform others st (endpointUrl service hostPrefix token kind).run).2 = [] ∨
      ∃ url, (ending platform others st (endpointUrl service hostPrefix token kind).run).2 =
        [⟨.get, url, none, token⟩] :=
  sent_of_course_endpointUrl (course_run (withPlatform platform others) _ st)

end Resolution

/-! ## The kinds compared -/

section Kinds

variable (platform : Script) (others : Handler interface σ) (st : σ)
  (hostPrefix name token : String)

/-- How the lifecycle of a centrally run instance is resolved, by what the broker answered. -/
structure FollowsBroker (service : Instance) (broker : String)
    (answer : Except TransportError Response) : Prop where
  /-- A broker that is not there leaves the lifecycle where the instance is managed. -/
  absent : ∀ response, answer = .ok response → response.status = 404 →
    (resolution platform others st hostPrefix name token .lifecycle).1 =
      (resolution platform others st hostPrefix name token .management).1
  /-- A broker that is there manages the lifecycle, whatever the dashboard is. -/
  present : ∀ response, answer = .ok response → response.status = 200 →
    (resolution platform others st hostPrefix name token .lifecycle).1 =
        .ok ⟨broker ++ managementPath ++ "/" ++ service.guid, service.offeringName,
          service.planName⟩ ∧
      ∀ dashboard,
        resolution (withDashboard platform dashboard) others st hostPrefix name token .lifecycle =
          resolution platform others st hostPrefix name token .lifecycle
  /-- Any other status is an error that tells it. -/
  unclear : ∀ response, answer = .ok response → response.status ≠ 404 → response.status ≠ 200 →
    (resolution platform others st hostPrefix name token .lifecycle).1 =
      .error (.resolve (.brokerProbe (brokerProbe broker token).url response.status))
  unreachable : ∀ e, answer = .error e →
    (resolution platform others st hostPrefix name token .lifecycle).1 = .error (.transport e)
  /-- Nothing but a broker that is there gives another URL than that of the management. -/
  given : ∀ p, (resolution platform others st hostPrefix name token .lifecycle).1 = .ok p →
    (∃ response, answer = .ok response ∧ response.status = 200) ∨
      (resolution platform others st hostPrefix name token .management).1 = .ok p

/-- What the resolutions of one service instance have in common. -/
structure KindsAgree : Prop where
  /-- No more than one request is sent, and it is a GET with the token. -/
  requests : ∀ kind, (resolution platform others st hostPrefix name token kind).2 = [] ∨
    ∃ url, (resolution platform others st hostPrefix name token kind).2 =
      [⟨.get, url, none, token⟩]
  /-- Offering and plan are those of the instance that was looked up. -/
  described : ∀ kind p, (resolution platform others st hostPrefix name token kind).1 = .ok p →
    ∃ service, platform (.service name) = .ok service ∧
      p.offeringName = service.offeringName ∧ p.planName = service.planName
  /-- The broker of the dashboard manages the lifecycle of an offering whose name begins with `p-`
  too, and is not asked. -/
  embedded : ∀ service, platform (.service name) = .ok service →
    "p-".toList <+: service.offeringName.toList →
      resolution platform others st hostPrefix name token .lifecycle =
          resolution platform others st hostPrefix name token .management ∧
        (resolution platform others st hostPrefix name token .management).2 = []
  /-- For every other offering the central broker is asked whether it is there. -/
  central : ∀ service api broker, platform (.service name) = .ok service →
    ¬ "p-".toList <+: service.offeringName.toList → platform .apiEndpoint = .ok api →
      brokerBaseUrl api hostPrefix = .ok broker →
        (resolution platform others st hostPrefix name token .lifecycle).2 =
            [brokerProbe broker token] ∧
          FollowsBroker platform others st hostPrefix name token service broker
            (others (.send (brokerProbe broker token)) st).1

variable {platform hostPrefix name token} {service : Instance} {api broker : String}

theorem generation_of_isPrefix (h : "p-".toList <+: service.offeringName.toList) :
    service.generation = .embedded := if_pos (List.isPrefixOf_iff_prefix.2 h)

theorem generation_of_not_isPrefix (h : ¬ "p-".toList <+: service.offeringName.toList) :
    service.generation = .central := if_neg (mt List.isPrefixOf_iff_prefix.1 h)

theorem resolution_management (h : platform (.service name) = .ok service) :
    resolution platform others st hostPrefix name token .management =
      (((managementUrl service.dashboardUrl).mapError .resolve).map fun url =>
        ⟨url, service.offeringName, service.planName⟩, []) := by
  rw [resolution_of_found others st h, endpointUrl, ending_ofExcept]

theorem resolution_lifecycle_embedded (h : platform (.service name) = .ok service)
    (hg : service.generation = .embedded) :
    resolution platform others st hostPrefix name token .lifecycle =
      resolution platform others st hostPrefix name token .management := by
  rw [resolution_of_found others st h, resolution_of_found others st h, endpointUrl, endpointUrl,
    hg]

theorem resolution_lifecycle_central (h : platform (.service name) = .ok service)
    (hg : service.generation = .central) (hapi : platform .apiEndpoint = .ok api)
    (hbroker : brokerBaseUrl api hostPrefix = .ok broker) :
    resolution platform others st hostPrefix name token .lifecycle =
      ((verdict (brokerOrDashboard service broker (brokerProbe broker token).url)
        (others (.send (brokerProbe broker token)) st).1).map fun url =>
          ⟨url, service.offeringName, service.planName⟩, [brokerProbe broker token]) := by
  rw [resolution_of_found others st h, endpointUrl, hg]
  dsimp only
  rw [ending_lifecycleUrl others st hapi hbroker]

theorem followsBroker (h : platform (.service name) = .ok service)
    (hg : service.generation = .central) (hapi : platform .apiEndpoint = .ok api)
    (hbroker : brokerBaseUrl api hostPrefix = .ok broker) :
    FollowsBroker platform others st hostPrefix name token service broker
      (others (.send (brokerProbe broker token)) st).1 := by
  have hlifecycle : resolution platform others st hostPrefix name token .lifecycle = _ :=
    resolution_lifecycle_central others st h hg hapi hbroker
  have hok : ∀ response : Response, response.isOk = true ↔ response.status = 200 := fun response =>
    decide_eq_true_iff
  have habsent : ∀ response, (others (.send (brokerProbe broker token)) st).1 = .ok response →
      response.status = 404 → (resolution platform others st hostPrefix name token .lifecycle).1 =
        (resolution platform others st hostPrefix name token .management).1 := by
    intro response ha hs
    have hnot : ¬ response.isOk = true := by
      rw [hok, hs]
      decide
    rw [hlifecycle, resolution_management others st h, ha, verdict, brokerOrDashboard, if_neg hnot,
      if_pos hs]
  have hunclear : ∀ response, (others (.send (brokerProbe broker token)) st).1 = .ok response →
      response.status ≠ 404 → response.status ≠ 200 →
        (resolution platform others st hostPrefix name token .lifecycle).1 =
          .error (.resolve (.brokerProbe (brokerProbe broker token).url response.status)) := by
    intro response ha hs hs'
    rw [hlifecycle, ha, verdict, brokerOrDashboard, if_neg (mt (hok response).1 hs'), if_neg hs]
    rfl
  refine ⟨habsent, fun response ha hs => ?_, hunclear, fun e ha => ?_, fun p hp => ?_⟩
  · have hjudged (service : Instance) :
        brokerOrDashboard service broker (brokerProbe broker token).url response =
          .ok (broker ++ managementPath ++ "/" ++ service.guid) := by
      rw [brokerOrDashboard, if_pos ((hok response).2 hs)]
    refine ⟨?_, fun dashboard => ?_⟩
    · rw [hlifecycle, ha, verdict, hjudged]
      rfl
    · -- the same lookup, but for the dashboard
      have hother : withDashboard platform dashboard (.service name) =
          .ok { service with dashboardUrl := dashboard } := by
        rw [withDashboard, h]
        rfl
      rw [hlifecycle, resolution_lifecycle_central others st hother hg hapi hbroker, ha, verdict,
        verdict, hjudged, hjudged]
  · rw [hlifecycle, ha]
    rfl
  · cases ha : (others (.send (brokerProbe broker token)) st).1 with
    | error e =>
      rw [hlifecycle, ha] at hp
      cases hp
    | ok response =>
      by_cases hs : response.status = 200
      · exact .inl ⟨response, rfl, hs⟩
      by_cases hs' : response.status = 404
      · exact .inr ((habsent response ha hs').symm.trans hp)
      · rw [hunclear response ha hs' hs] at hp
        cases hp

variable (platform hostPrefix name token) in
/-- **The lifecycle of an instance is managed where its broker manages the instance, unless a
central broker is there.** -/
theorem kinds_agree : KindsAgree platform others st hostPrefix name token where
  requests := by
    intro kind
    cases h : platform (.service name) with
    | error e =>
      rw [resolution_of_missing others st h]
      exact .inl rfl
    | ok service =>
      rw [resolution_of_found others st h]
      exact requests_endpointUrl others st kind
  described := by
    intro kind p hp
    cases h : platform (.service name) with
    | error e =>
      rw [resolution_of_missing others st h] at hp
      cases hp
    | ok service =>
      rw [resolution_of_found others st h] at hp
      dsimp only at hp
      refine ⟨service, rfl, ?_⟩
      cases hurl :
        (ending platform others st (endpointUrl service hostPrefix token kind).run).1 with
      | error e =>
        rw [hurl] at hp
        cases hp
      | ok url =>
        rw [hurl] at hp
        cases hp
        exact ⟨rfl, rfl⟩
  embedded := by
    intro service h hp
    refine ⟨resolution_lifecycle_embedded others st h (generation_of_isPrefix hp), ?_⟩
    rw [resolution_management others st h]
  central := by
    intro service api broker h hp hapi hbroker
    have hg := generation_of_not_isPrefix hp
    refine ⟨?_, followsBroker others st h hg hapi hbroker⟩
    rw [resolution_lifecycle_central others st h hg hapi hbroker]

end Kinds

end ServiceAdmin.Service
