import ServiceAdmin.Proofs.Registry.PlainJoin
import ServiceAdmin.Proofs.Service.Alike
import ServiceAdmin.Registry.View

/-!
# No step depends on the token

The access token is a secret: it goes into the requests, and nowhere else.  `Step.blind_to_token`
says so of every step: with another token, everything but the requests' tokens stays as it is.
-/

namespace ServiceAdmin

open Service

/-! ## Views -/

namespace Registry

variable {t₁ t₂ : Token}

theorem alike_locate (hostPrefix registry : String) :
    Alike t₁ t₂ (Agree fun a b => a.1 = b.1 ∧ a.2 = t₁.text ∧ b.2 = t₂.text)
      (locate hostPrefix registry).run (locate hostPrefix registry).run := by
  refine alike_action_bind alike_accessToken ?_
  rintro _ _ ⟨rfl, rfl⟩
  refine alike_action_bind (alike_resolve hostPrefix registry .service) ?_
  rintro p _ rfl
  exact alike_pure ⟨rfl, rfl, rfl⟩

theorem alike_records (base : String) :
    Alike t₁ t₂ (Agree (· = ·)) (records base t₁.text).run (records base t₂.text).run := by
  refine alike_action_bind (alike_submit _ _ _ _) ?_
  rintro applications _ rfl
  exact alike_action_self (asks_recordsOf (by rintro ⟨⟩) (fun _ => by rintro ⟨⟩) applications)

theorem alike_info (hostPrefix registry : String) :
    Alike t₁ t₂ (Agree (· = ·)) (info hostPrefix registry).run (info hostPrefix registry).run := by
  refine alike_action_bind (alike_locate hostPrefix registry) ?_
  rintro ⟨base, _⟩ ⟨_, _⟩ ⟨rfl, rfl, rfl⟩
  refine alike_action_bind (alike_submit _ _ _ _) ?_
  rintro info _ rfl
  exact alike_pure rfl

theorem alike_list (hostPrefix registry : String) :
    Alike t₁ t₂ (Agree (· = ·)) (list hostPrefix registry).run (list hostPrefix registry).run := by
  refine alike_action_bind (alike_locate hostPrefix registry) ?_
  rintro ⟨base, _⟩ ⟨_, _⟩ ⟨rfl, rfl, rfl⟩
  refine alike_action_bind (alike_records base) ?_
  rintro records _ rfl
  exact alike_pure rfl

theorem alike_apply (action : InstanceAction) (base : String) (record : Record) :
    Alike t₁ t₂ (Agree (· = ·)) (action.apply base t₁.text record).run
      (action.apply base t₂.text record).run := by
  cases action <;> exact alike_submit _ _ _ _

theorem alike_applyAll (action : InstanceAction) (base registry : String) (records : List Record) :
    Alike t₁ t₂ (Agree (· = ·)) (action.applyAll base t₁.text registry records).run
      (action.applyAll base t₂.text registry records).run := by
  have htell : ∀ line, Alike t₁ t₂ (Agree (· = ·)) (tell line).run (tell line).run := by
    intro line
    refine alike_action_self ?_
    rw [run_tell]
    exact ⟨trivial, fun _ => trivial⟩
  induction records with
  | nil => exact alike_pure rfl
  | cons record rest ih =>
    refine alike_action_bind (htell _) fun _ _ _ => ?_
    exact alike_action_bind (alike_apply action base record) fun _ _ _ => ih

theorem alike_operate (hostPrefix registry appName : String) (index : Option Nat)
    (action : InstanceAction) :
    Alike t₁ t₂ (Agree (· = ·)) (operate hostPrefix registry appName index action).run
      (operate hostPrefix registry appName index action).run := by
  refine alike_action_bind (alike_locate hostPrefix registry) ?_
  rintro ⟨base, _⟩ ⟨_, _⟩ ⟨rfl, rfl, rfl⟩
  refine alike_action_bind (alike_records base) ?_
  rintro records _ rfl
  refine alike_action_bind alike_ofExcept ?_
  rintro selected _ rfl
  exact alike_applyAll action base registry selected

end Registry

/-! ## Steps -/

/-- What can be done with the service instance of a name. -/
inductive Step
  | run (operation : Operation)
  | info
  | list
  | operate (appName : String) (index : Option Nat) (action : Registry.InstanceAction)

namespace Step

/-- The action of a step; it ends with what is printed. -/
def action (zone : Report.Zone) (hostPrefix name : String) : Step → Action String
  | run operation => perform zone hostPrefix name operation
  | info => Registry.info hostPrefix name
  | list => Registry.list hostPrefix name
  | operate appName index action => do
    Registry.operate hostPrefix name appName index action
    return ""

theorem alike_action {t₁ t₂ : Token} (zone : Report.Zone) (hostPrefix name : String)
    (step : Step) :
    Alike t₁ t₂ (Agree (· = ·)) (step.action zone hostPrefix name).run
      (step.action zone hostPrefix name).run := by
  cases step with
  | run operation => exact alike_perform zone hostPrefix name operation
  | info => exact Registry.alike_info hostPrefix name
  | list => exact Registry.alike_list hostPrefix name
  | operate appName index action =>
    refine alike_action_bind (Registry.alike_operate hostPrefix name appName index action) ?_
    intro _ _ _
    exact alike_pure rfl

/-- **No step depends on the token.**  In surroundings that do not look at the tokens of requests,
a step ends with the same result whatever the token is, has asked the same and shown the same lines,
and leaves the same state.  Every request carries the token that the platform printed. -/
theorem blind_to_token {σ : Type} (w : Surroundings σ) (st : σ) (t₁ t₂ : Token)
    (zone : Report.Zone) (hostPrefix name : String) (step : Step) :
    let action := (step.action zone hostPrefix name).run
    let history t := action.history (w.handler t) st
    (action.run (w.handler t₁) st).1 = (action.run (w.handler t₂) st).1 ∧
      (action.run (w.handler t₁) st).2.2 = (action.run (w.handler t₂) st).2.2 ∧
      shown (history t₁) = shown (history t₂) ∧
      history t₂ = (history t₁).map (retold t₂) ∧
      (∀ r ∈ sent (history t₁), r.token = t₁.text) ∧
      ∀ r ∈ sent (history t₂), r.token = t₂.text := by
  intro action history
  obtain ⟨hresult, hstate, (hhistory : history t₂ = _), (hown : history t₁ = _)⟩ :=
    (step.alike_action zone hostPrefix name).run w st
  refine ⟨agree_eq.1 hresult, hstate, ?_, hhistory, ?_, ?_⟩
  · rw [hhistory]
    exact (shown_map_retold t₂ _).symm
  · intro r hr
    rw [hown] at hr
    exact token_of_mem_sent_map_retold hr
  · intro r hr
    rw [hhistory] at hr
    exact token_of_mem_sent_map_retold hr

end Step

end ServiceAdmin
