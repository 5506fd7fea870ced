import ServiceAdmin.Proofs.Service.Resolve
import ServiceAdmin.Service.Operation

/-!
# The order of an operation

`perform` keeps to an itinerary: it asks for the token and for the service instance, takes the
detour that the operation and the generation of the instance need, and sends the one request of the
operation.  `Orderly` says what that means for a history, and `perform_orderly` that every history
is so.
-/

namespace ServiceAdmin.Service

open Dialogue Http

/-! ## Itineraries -/

namespace Operation

/-- What is asked between the service instance and the request of the operation. -/
def detour (operation : Operation) (g : Generation) (probe : Request) : List Query :=
  match operation.endpointKind, g with
  | .lifecycle, .central => [.platform .apiEndpoint, .send probe]
  | .service, .embedded => [.send probe]
  | _, _ => []

/-- What is asked before the request of the operation. -/
def approach (operation : Operation) (name : String) (g : Generation) (probe : Request) :
    List Query :=
  .platform .token :: .platform (.service name) :: operation.detour g probe

/-- All that is asked, in its order. -/
def itinerary (operation : Operation) (name : String) (g : Generation) (probe own : Request) :
    List Query :=
  operation.approach name g probe ++ [.send own]

theorem request_token (operation : Operation) (p : Parameters) (token : String) :
    (operation.request p token).token = token := by
  cases operation <;> rfl

theorem mem_detour {operation : Operation} {g : Generation} {probe : Request} {q : Query}
    (hq : q ∈ operation.detour g probe) : q = .platform .apiEndpoint ∨ q = .send probe := by
  unfold detour at hq
  split at hq
  · rcases List.mem_cons.1 hq with hq | hq
    · exact .inl hq
    · exact .inr (List.mem_singleton.1 hq)
  · exact .inr (List.mem_singleton.1 hq)
  · cases hq

/-- An operation with a detour changes something: its request is no probe. -/
theorem request_method_ne_get {operation : Operation} {g : Generation} {probe : Request} {q : Query}
    (hq : q ∈ operation.detour g probe) (p : Parameters) (token : String) :
    (operation.request p token).method ≠ .get := by
  cases operation with
  | view | parameters => cases hq
  | _ => rintro ⟨⟩

/-- The only request before that of the operation is the probe. -/
theorem send_mem_approach {operation : Operation} {name : String} {g : Generation}
    {probe r : Request} (hr : .send r ∈ operation.approach name g probe) :
    r = probe ∧ .send r ∈ operation.detour g probe := by
  rcases List.mem_cons.1 hr with hr | hr
  · cases hr
  rcases List.mem_cons.1 hr with hr | hr
  · cases hr
  rcases mem_detour hr with hprobe | hprobe
  · cases hprobe
  · exact ⟨Query.send.inj hprobe, hr⟩

theorem ne_own_of_mem_approach {operation : Operation} {name : String} {g : Generation}
    {probe : Request} (hprobe : probe.method = .get) {q : Query}
    (hq : q ∈ operation.approach name g probe) (p : Parameters) (token : String) :
    q ≠ .send (operation.request p token) := by
  rintro rfl
  obtain ⟨hown, hdetour⟩ := send_mem_approach hq
  rw [← hown] at hprobe
  exact request_method_ne_get hdetour p token hprobe

end Operation

/-- Whether a step of an itinerary succeeded, so that there may be another. -/
def Succeeded (hostPrefix : String) (operation : Operation) : Exchange interface → Prop
  | ⟨.platform .token, a⟩ => ∃ token, tokenOf a = .ok token
  | ⟨.platform .apiEndpoint, a⟩ =>
    ∃ api broker, (a : Except PlatformError String) = .ok api ∧
      brokerBaseUrl api hostPrefix = .ok broker
  | ⟨.platform q, a⟩ => ∃ v, (a : Except PlatformError q.Value) = .ok v
  | ⟨.send _, a⟩ => ∃ response : Response, (a : Except TransportError Response) = .ok response ∧
      (response.isOk ∨ operation.isLifecycle ∧ response.status = 404)
  | ⟨.progress _, _⟩ => False

/-! ## Routes -/

/-- A history that goes along a route, from a step to the next after success only, and that has
come to the end of the route if the result is a value. -/
structure OnRoute {α : Type} (hostPrefix : String) (operation : Operation) (route : List Query)
    (h : History) (result : Except Error α) : Prop where
  along : h.map Exchange.question <+: route
  succeeded : ∀ x ∈ h.dropLast, Succeeded hostPrefix operation x
  arrived : ∀ a, result = .ok a →
    h.map Exchange.question = route ∧ ∀ x ∈ h, Succeeded hostPrefix operation x

section Routes

variable {α β : Type} {hostPrefix : String} {operation : Operation} {route : List Query}
  {h : History} {q : Query} {answer : q.Answer} {e : Error}

theorem onRoute_nil_error : OnRoute hostPrefix operation route [] (.error e : Except Error α) where
  along := List.nil_prefix
  succeeded := by simp
  arrived := by simp

theorem onRoute_nil {result : Except Error α} : OnRoute hostPrefix operation [] [] result where
  along := List.nil_prefix
  succeeded := by simp
  arrived := by simp

theorem onRoute_stop :
    OnRoute hostPrefix operation (q :: route) [⟨q, answer⟩] (.error e : Except Error α) where
  along := by
    rw [List.map_cons, List.prefix_cons_inj]
    exact List.nil_prefix
  succeeded := by simp
  arrived := by simp

theorem onRoute_singleton {result : Except Error α}
    (hx : ∀ a, result = .ok a → Succeeded hostPrefix operation ⟨q, answer⟩) :
    OnRoute hostPrefix operation [q] [⟨q, answer⟩] result where
  along := List.prefix_rfl
  succeeded := by simp
  arrived := fun a ha => ⟨rfl, fun y hy => List.mem_singleton.1 hy ▸ hx a ha⟩

theorem OnRoute.cons {result : Except Error α}
    (hr : OnRoute hostPrefix operation route h result)
    (hx : Succeeded hostPrefix operation ⟨q, answer⟩) :
    OnRoute hostPrefix operation (q :: route) (⟨q, answer⟩ :: h) result where
  along := by
    rw [List.map_cons, List.prefix_cons_inj]
    exact hr.along
  succeeded := by
    intro y hy
    cases h with
    | nil => simp at hy
    | cons z t =>
      rw [List.dropLast_cons_cons] at hy
      rcases List.mem_cons.1 hy with rfl | hy
      · exact hx
      · exact hr.succeeded y hy
  arrived := by
    intro a ha
    obtain ⟨hroute, hall⟩ := hr.arrived a ha
    refine ⟨by rw [List.map_cons, hroute], ?_⟩
    intro y hy
    rcases List.mem_cons.1 hy with rfl | hy
    · exact hx
    · exact hall y hy

/-- The value at the end of a route does not matter. -/
theorem OnRoute.of_ok {a : α} {result : Except Error β}
    (hr : OnRoute hostPrefix operation route h (.ok a : Except Error α)) :
    OnRoute hostPrefix operation route h result :=
  ⟨hr.along, hr.succeeded, fun _ _ => hr.arrived a rfl⟩

theorem OnRoute.of_error
    (hr : OnRoute hostPrefix operation route h (.error e : Except Error α)) :
    OnRoute hostPrefix operation route h (.error e : Except Error β) :=
  ⟨hr.along, hr.succeeded, by simp⟩

end Routes

/-! ## The detour -/

section Detour

variable {hostPrefix name token : String} {service : Instance} {operation : Operation}
  {h : History} {result : Except Error String}

theorem onRoute_discover {dashboard : String}
    (hc : (discover dashboard token).run.Course h result) :
    ∃ url, OnRoute hostPrefix operation [.send ⟨.get, url, none, token⟩] h result := by
  rcases course_discover hc with ⟨e, rfl, rfl⟩ | ⟨probe, a, rfl, rfl⟩
  · exact ⟨"", onRoute_nil_error⟩
  · refine ⟨probe, onRoute_singleton fun url hurl => ?_⟩
    cases a with
    | error e => cases hurl
    | ok response => exact ⟨response, rfl, .inl (isOk_of_discovered hurl)⟩

theorem onRoute_lifecycleUrl (hkind : operation.isLifecycle = true)
    (hc : (lifecycleUrl service hostPrefix token).run.Course h result) :
    ∃ url, OnRoute hostPrefix operation
      [.platform .apiEndpoint, .send ⟨.get, url, none, token⟩] h result := by
  rcases course_lifecycleUrl hc with ⟨a, e, rfl, rfl⟩ | ⟨api, broker, a, hb, rfl, rfl⟩
  · exact ⟨"", onRoute_stop⟩
  · have hapi : Succeeded hostPrefix operation (onPlatform .apiEndpoint (.ok api)) :=
      ⟨api, broker, rfl, hb⟩
    refine ⟨broker ++ "/actuator/info", (onRoute_singleton fun url hurl => ?_).cons hapi⟩
    cases a with
    | error e => cases hurl
    | ok response =>
      refine ⟨response, rfl, ?_⟩
      rcases cases_of_brokerOrDashboard hurl with ⟨hok, -⟩ | ⟨hs, -⟩
      · exact .inl hok
      · exact .inr ⟨hkind, hs⟩

/-- **The URL of an operation is found on its detour.** -/
theorem onRoute_endpointUrl
    (hc : (endpointUrl service hostPrefix token operation.endpointKind).run.Course h result) :
    ∃ url, OnRoute hostPrefix operation
      (operation.detour service.generation ⟨.get, url, none, token⟩) h result := by
  -- a URL that is derived without a question
  have hpure : ∀ x : Except ResolveError String, (ofExcept .resolve x).run.Course h result →
      OnRoute hostPrefix operation [] h result := by
    intro x hx
    obtain ⟨rfl, -⟩ := course_ofExcept.1 hx
    exact onRoute_nil
  simp only [Operation.detour]
  cases hkind : operation.endpointKind with
  | service =>
    rw [hkind] at hc
    cases hg : service.generation with
    | embedded =>
      simp only [endpointUrl, hg] at hc
      exact onRoute_discover hc
    | central =>
      simp only [endpointUrl, hg] at hc
      exact ⟨"", hpure _ hc⟩
  | management =>
    rw [hkind] at hc
    exact ⟨"", hpure _ hc⟩
  | lifecycle =>
    rw [hkind] at hc
    cases hg : service.generation with
    | embedded =>
      simp only [endpointUrl, hg] at hc
      exact ⟨"", hpure _ hc⟩
    | central =>
      simp only [endpointUrl, hg] at hc
      exact onRoute_lifecycleUrl (by simp [Operation.isLifecycle, hkind]) hc

/-- A resolution looks the instance up and takes the detour of its generation. -/
theorem onRoute_resolve {result : Except Error Parameters}
    (hc : (resolve hostPrefix name token operation.endpointKind).run.Course h result) :
    ∃ g url, OnRoute hostPrefix operation
        (.platform (.service name) :: operation.detour g ⟨.get, url, none, token⟩) h result ∧
      ∀ service, onPlatform (.service name) (.ok service) ∈ h → service.generation = g := by
  rcases course_resolve hc with ⟨e, rfl, rfl⟩ | ⟨service, t, found, rfl, hu, rfl⟩
  · refine ⟨.embedded, "", onRoute_stop, ?_⟩
    intro service hs
    cases List.mem_singleton.1 hs
  · have hlookup : Succeeded hostPrefix operation (onPlatform (.service name) (.ok service)) :=
      ⟨service, rfl⟩
    obtain ⟨url, hroute⟩ := onRoute_endpointUrl hu
    refine ⟨service.generation, url, ?_, ?_⟩
    · cases found with
      | error e => exact hroute.of_error.cons hlookup
      | ok url' => exact hroute.of_ok.cons hlookup
    · intro s hs
      rcases List.mem_cons.1 hs with hs | hs
      · cases hs
        rfl
      · have hquestion := hroute.along.subset (List.mem_map_of_mem hs)
        rcases Operation.mem_detour hquestion with hq | hq
        · cases hq
        · cases hq

end Detour

/-! ## The whole operation -/

/-- A history of an operation that keeps to its itinerary. -/
structure Orderly (zone : Report.Zone) (hostPrefix name : String) (operation : Operation)
    (token : String) (g : Generation) (probeUrl : String) (p : Parameters) (h : History)
    (result : Except Error String) : Prop where
  along : h.map Exchange.question <+:
    operation.itinerary name g ⟨.get, probeUrl, none, token⟩ (operation.request p token)
  /-- There is a next step only after success. -/
  succeeded : ∀ x ∈ h.dropLast, Succeeded hostPrefix operation x
  /-- The detour is that of the generation of the instance. -/
  generation : ∀ service, onPlatform (.service name) (.ok service) ∈ h → service.generation = g
  /-- Every request carries the token that the platform told, and nothing else. -/
  bare_token : ∀ r ∈ sent h, r.token = token ∧
    ∃ output, onPlatform .token (.ok output) ∈ h ∧ extractToken output = .ok token
  /-- The request of the operation is the last step, and goes to where the instance was found. -/
  own_last : ∀ before a after, h = before ++ onSend (operation.request p token) a :: after →
    after = [] ∧ result = verdict (operation.judge zone p) a ∧
      ∃ told mid, before = onPlatform .token told :: mid ∧ tokenOf told = .ok token ∧
        (resolve hostPrefix name token operation.endpointKind).run.Course mid (.ok p)
  /-- An operation that succeeds has gone all the way. -/
  complete : ∀ output, result = .ok output → h.map Exchange.question =
    operation.itinerary name g ⟨.get, probeUrl, none, token⟩ (operation.request p token)

section Whole

variable {zone : Report.Zone} {hostPrefix name token : String} {operation : Operation}
  {g : Generation} {probeUrl : String} {p : Parameters} {h rest mid : History} {e : Error}
  {told : Except PlatformError String}

theorem token_of_mem_itinerary {r : Request}
    (hr : .send r ∈ operation.itinerary name g ⟨.get, probeUrl, none, token⟩
      (operation.request p token)) : r.token = token := by
  rcases List.mem_append.1 hr with hr | hr
  · rw [(Operation.send_mem_approach hr).1]
  · rw [Query.send.inj (List.mem_singleton.1 hr)]
    exact Operation.request_token operation p token

/-- The request of an operation is not met before it is sent. -/
theorem eq_of_append_own {before after : History} {a b : Except TransportError Response}
    (hh : ∀ q ∈ h.map Exchange.question, q ≠ .send (operation.request p token))
    (heq : h ++ [onSend (operation.request p token) a] =
      before ++ onSend (operation.request p token) b :: after) :
    before = h ∧ b = a ∧ after = [] := by
  induction h generalizing before with
  | nil =>
    cases before with
    | nil =>
      cases heq
      exact ⟨rfl, rfl, rfl⟩
    | cons y before => simp at heq
  | cons x h ih =>
    cases before with
    | nil =>
      cases (List.cons.inj heq).1
      exact absurd rfl (hh _ List.mem_cons_self)
    | cons y before =>
      obtain ⟨rfl, htail⟩ := List.cons.inj heq
      obtain ⟨rfl, hrest⟩ := ih (fun q hq => hh q (List.mem_cons_of_mem _ hq)) htail
      exact ⟨rfl, hrest⟩

/-- An operation that ends before its request is sent. -/
theorem orderly_of_stopped
    (hroute : OnRoute hostPrefix operation (operation.approach name g ⟨.get, probeUrl, none, token⟩)
      (onPlatform .token told :: rest) (.error e : Except Error Parameters))
    (htold : rest = [] ∨ tokenOf told = .ok token)
    (hg : ∀ service, onPlatform (.service name) (.ok service) ∈ rest → service.generation = g) :
    Orderly zone hostPrefix name operation token g probeUrl p (onPlatform .token told :: rest)
      (.error e) := by
  have halong := hroute.along.trans (List.prefix_append _ [.send (operation.request p token)])
  refine ⟨halong, hroute.succeeded, ?_, ?_, ?_, by simp⟩
  · intro service hs
    rcases List.mem_cons.1 hs with hs | hs
    · cases hs
    · exact hg service hs
  · intro r hr
    refine ⟨token_of_mem_itinerary (halong.subset (mem_sent hr)), ?_⟩
    rcases htold with rfl | htold
    · cases hr
    · obtain ⟨output, rfl, hout⟩ := tokenOf_eq_ok htold
      exact ⟨output, List.mem_cons_self, hout⟩
  · intro before a after heq
    have hmem : Query.send (operation.request p token) ∈
        (onPlatform .token told :: rest).map Exchange.question := by
      rw [heq, List.map_append]
      exact List.mem_append_right _ List.mem_cons_self
    exact absurd rfl
      (Operation.ne_own_of_mem_approach rfl (hroute.along.subset hmem) p token)

/-- An operation whose request is sent. -/
theorem orderly_of_sent {a : Except TransportError Response}
    (hroute : OnRoute hostPrefix operation (operation.approach name g ⟨.get, probeUrl, none, token⟩)
      (onPlatform .token told :: mid) (.ok p))
    (htold : tokenOf told = .ok token)
    (hg : ∀ service, onPlatform (.service name) (.ok service) ∈ mid → service.generation = g)
    (hmid : (resolve hostPrefix name token operation.endpointKind).run.Course mid (.ok p)) :
    Orderly zone hostPrefix name operation token g probeUrl p
      (onPlatform .token told :: mid ++ [onSend (operation.request p token) a])
      (verdict (operation.judge zone p) a) := by
  obtain ⟨hquestions, hsucceeded⟩ := hroute.arrived p rfl
  have hall : (onPlatform .token told :: mid ++ [onSend (operation.request p token) a]).map
      Exchange.question =
      operation.itinerary name g ⟨.get, probeUrl, none, token⟩ (operation.request p token) := by
    rw [List.map_append]
    exact congrArg (· ++ _) hquestions
  refine ⟨hall ▸ List.prefix_rfl, ?_, ?_, ?_, ?_, fun _ _ => hall⟩
  · rw [List.dropLast_concat]
    exact hsucceeded
  · intro service hs
    rcases List.mem_append.1 hs with hs | hs
    · rcases List.mem_cons.1 hs with hs | hs
      · cases hs
      · exact hg service hs
    · cases List.mem_singleton.1 hs
  · intro r hr
    refine ⟨token_of_mem_itinerary (hall ▸ mem_sent hr), ?_⟩
    obtain ⟨output, rfl, hout⟩ := tokenOf_eq_ok htold
    exact ⟨output, List.mem_cons_self, hout⟩
  · intro before b after heq
    have hfresh : ∀ q ∈ (onPlatform .token told :: mid).map Exchange.question,
        q ≠ .send (operation.request p token) := by
      rw [hquestions]
      intro q hq
      exact Operation.ne_own_of_mem_approach rfl hq p token
    obtain ⟨rfl, rfl, rfl⟩ := eq_of_append_own hfresh heq
    exact ⟨rfl, rfl, told, mid, rfl, htold, hmid⟩

end Whole

/-- **An operation that fails its check asks nothing, and every other keeps to its itinerary.** -/
theorem perform_orderly {σ : Type} (answer : Handler interface σ) (st : σ)
    (zone : Report.Zone) (hostPrefix name : String) (operation : Operation) :
    let performing := (perform zone hostPrefix name operation).run
    match operation.validate with
    | .error e =>
      performing.history answer st = [] ∧ (performing.run answer st).1 = .error (.validation e)
    | .ok () => ∃ token g probeUrl p, Orderly zone hostPrefix name operation token g probeUrl p
        (performing.history answer st) (performing.run answer st).1 := by
  intro performing
  have hc := Dialogue.course_run answer performing st
  generalize performing.history answer st = h at hc ⊢
  generalize (performing.run answer st).1 = result at hc ⊢
  replace hc := course_ofExcept_bind.1 hc
  cases hvalidate : operation.validate with
  | error e =>
    rw [hvalidate] at hc
    exact course_done.1 hc
  | ok u =>
    rw [hvalidate] at hc
    replace hc : (accessToken >>= fun token =>
        resolve hostPrefix name token operation.endpointKind >>= fun p =>
          operation.run zone p token).run.Course h result := hc
    rw [run_bind_eq, run_accessToken] at hc
    obtain ⟨told, t, rfl, ht⟩ := course_ask.1 hc
    replace ht : (onward _ (tokenOf told)).Course t result := ht
    cases htold : tokenOf told with
    | error e =>
      rw [htold] at ht
      obtain ⟨rfl, rfl⟩ := course_done.1 ht
      exact ⟨"", .embedded, "", ⟨"", "", ""⟩,
        orderly_of_stopped onRoute_stop (.inl rfl) (fun _ hs => by cases hs)⟩
    | ok token =>
      rw [htold] at ht
      have hsucceeded : Succeeded hostPrefix operation (onPlatform .token told) := ⟨token, htold⟩
      rcases course_bind.1 ht with ⟨e, hr, rfl⟩ | ⟨p, mid, t, rfl, hr, hsend⟩
      · obtain ⟨g, url, hroute, hg⟩ := onRoute_resolve hr
        exact ⟨token, g, url, ⟨"", "", ""⟩,
          orderly_of_stopped (hroute.cons hsucceeded) (.inr htold) hg⟩
      · obtain ⟨g, url, hroute, hg⟩ := onRoute_resolve hr
        obtain ⟨a, rfl, rfl⟩ := course_submit.1 hsend
        exact ⟨token, g, url, p, orderly_of_sent (hroute.cons hsucceeded) htold hg hr⟩

end ServiceAdmin.Service
