import ServiceAdmin.Proofs.Service.Action
import ServiceAdmin.Service.Operation

/-!
# Judging responses

An operation sends one request, to its base URL and with its token, and what comes back decides what
it ends with (`run_judged`).  A lifecycle command is granted with every status of success, and all
else with one status only.
-/

namespace ServiceAdmin.Service

open Dialogue Http

namespace Operation

variable {zone : Report.Zone} {operation : Operation} {p : Parameters} {r : Response}

/-! ## Granted operations -/

/-- The statuses with which an operation is granted. -/
def Grants : Operation → Nat → Prop
  | lifecycle _, status => status / 100 = 2
  | _, status => status = 200

/-- The body tells backing applications. -/
def TellsApps (body : String) (apps : List Report.BackingApp) : Prop :=
  body ≠ "" ∧ Json.decodeText Report.backingAppsShape body = .ok apps

/-- What an operation prints of the body of the response that grants it. -/
inductive Prints (zone : Report.Zone) : Operation → String → String → Prop
  | report {body : String} {apps : List Report.BackingApp} (told : TellsApps body apps) :
      Prints zone view body (Report.view zone apps)
  | parameters (body : String) : Prints zone parameters body body
  | ciphertext (plaintext body : String) : Prints zone (encrypt plaintext) body body
  | nothing {operation : Operation} (body : String) (not_view : operation ≠ view)
      (not_parameters : operation ≠ Operation.parameters)
      (not_encrypt : ∀ plaintext, operation ≠ encrypt plaintext) : Prints zone operation body ""

theorem accepts_iff : operation.accepts r = true ↔ operation.Grants r.status := by
  cases operation with
  | lifecycle command =>
    simp only [accepts, Grants, Response.isSuccess, Bool.and_eq_true, decide_eq_true_eq]
    omega
  | _ => exact decide_eq_true_iff

theorem decodeBody_eq_ok_iff {α : Type} {shape : Json.Shape α} {what body : String} {a : α} :
    decodeBody shape what body = .ok a ↔ Json.decodeText shape body = .ok a := by
  rw [decodeBody]
  cases Json.decodeText shape body with
  | ok b =>
    show Except.ok b = Except.ok a ↔ Except.ok b = Except.ok a
    rw [Except.ok.injEq, Except.ok.injEq]
  | error reason => exact ⟨nofun, nofun⟩

/-- A report needs a body that tells backing applications. -/
theorem output_view :
    view.output zone p r =
      if r.body = "" then .error (.transport (.missingBody p.url))
      else ((decodeBody Report.backingAppsShape "service instance view" r.body).mapError
        .protocol).map (Report.view zone) := by
  simp only [output, Response.requireBody]
  split
  · rfl
  · show (decodeBody Report.backingAppsShape "service instance view" r.body).mapError _ >>= _ = _
    cases decodeBody Report.backingAppsShape "service instance view" r.body with
    | ok apps => rfl
    | error e => rfl

theorem output_view_eq_ok_iff {output : String} :
    view.output zone p r = .ok output ↔
      ∃ apps, TellsApps r.body apps ∧ output = Report.view zone apps := by
  rw [output_view]
  constructor
  · intro h
    split at h
    · cases h
    next hbody =>
    cases hdecode : decodeBody Report.backingAppsShape "service instance view" r.body with
    | ok apps =>
      rw [hdecode] at h
      cases h
      exact ⟨apps, ⟨hbody, decodeBody_eq_ok_iff.1 hdecode⟩, rfl⟩
    | error e =>
      rw [hdecode] at h
      cases h
  · rintro ⟨apps, ⟨hbody, hdecode⟩, rfl⟩
    rw [if_neg hbody, decodeBody_eq_ok_iff.2 hdecode]
    rfl

theorem output_eq_ok_iff {output : String} :
    operation.output zone p r = .ok output ↔ operation.Prints zone r.body output := by
  constructor
  · intro h
    cases operation with
    | view =>
      obtain ⟨apps, htold, rfl⟩ := output_view_eq_ok_iff.1 h
      exact .report htold
    | parameters =>
      cases h
      exact .parameters r.body
    | encrypt plaintext =>
      cases h
      exact .ciphertext plaintext r.body
    | _ =>
      cases h
      exact .nothing r.body nofun nofun nofun
  · intro h
    cases h with
    | report htold => exact output_view_eq_ok_iff.2 ⟨_, htold, rfl⟩
    | parameters => rfl
    | ciphertext plaintext => rfl
    | nothing _ hview hparameters hencrypt =>
      cases operation with
      | view => exact absurd rfl hview
      | parameters => exact absurd rfl hparameters
      | encrypt plaintext => exact absurd rfl (hencrypt plaintext)
      | _ => rfl

/-- Something is printed unless a report cannot be made. -/
theorem exists_prints_iff {body : String} :
    (∃ output, operation.Prints zone body output) ↔
      (operation = view → ∃ apps, TellsApps body apps) := by
  constructor
  · rintro ⟨output, h⟩ rfl
    cases h with
    | report htold => exact ⟨_, htold⟩
    | nothing _ hview _ _ => exact absurd rfl hview
  · intro h
    cases operation with
    | view =>
      obtain ⟨apps, htold⟩ := h rfl
      exact ⟨_, .report htold⟩
    | parameters => exact ⟨body, .parameters body⟩
    | encrypt plaintext => exact ⟨body, .ciphertext plaintext body⟩
    | _ => exact ⟨"", .nothing body nofun nofun nofun⟩

/-! ## Refused operations -/

/-- What the error of a refused operation carries: the body in which an encryption is refused, or
the status. -/
inductive Tells : Operation → Response → OperationError → Prop
  | body {plaintext : String} {r : Response} (told : r.body ≠ "") :
      Tells (encrypt plaintext) r (.encryption r.body)
  | status {operation : Operation} {r : Response} (action : String)
      (untold : ∀ plaintext, operation = encrypt plaintext → r.body = "") :
      Tells operation r (.unexpectedStatus action r.status)

theorem tells_refused (operation : Operation) (r : Response) :
    operation.Tells r (operation.refused r) := by
  cases operation with
  | encrypt plaintext =>
    rw [refused]
    split
    · next hbody => exact .status _ fun _ _ => hbody
    · next hbody => exact .body hbody
  | _ => exact .status _ nofun

/-! ## Judgements -/

/-- The request carries the token to a place below the base URL, and with it what is to be encrypted
or kept, as it is. -/
structure IsSentFor (operation : Operation) (p : Parameters) (token : String) (r : Request) :
    Prop where
  token : r.token = token
  base : ∃ place, r.url = p.url ++ place
  plaintext : ∀ text, operation = encrypt text →
    r.method = .post ∧ ∃ type, r.payload = some ⟨type, text⟩
  secret : ∀ path text, operation = addSecret path text →
    r.method = .put ∧ ∃ type, r.payload = some ⟨type, text⟩

theorem isSentFor_request (operation : Operation) (p : Parameters) (token : String) :
    operation.IsSentFor p token (operation.request p token) where
  token := by cases operation <;> rfl
  base := by
    cases operation with
    | lifecycle command => exact ⟨"/command?" ++ command.text ++ "=", by
        simp only [request, String.append_assoc]⟩
    | parameters => exact ⟨"/parameters", rfl⟩
    | encrypt text => exact ⟨"encrypt", rfl⟩
    | refreshMirrors => exact ⟨"actuator/refreshmirrors", rfl⟩
    | addSecret path text => exact ⟨"secrets/" ++ path, String.append_assoc⟩
    | removeSecret path => exact ⟨"secrets/" ++ path, String.append_assoc⟩
    | view => exact ⟨"", String.append_empty.symm⟩
    | deleteRepository uri => exact ⟨"", String.append_empty.symm⟩
  plaintext := by
    rintro text rfl
    exact ⟨rfl, _, rfl⟩
  secret := by
    rintro path text rfl
    exact ⟨rfl, _, rfl⟩

/-- What an operation ends with, by what came back for its request. -/
structure Judged (operation : Operation) (zone : Report.Zone) (p : Parameters)
    (outcome : Except TransportError Response) (result : Except Error String) : Prop where
  /-- An error of the transport stays as it is. -/
  failed : ∀ e, outcome = .error e → result = .error (.transport e)
  /-- The operation succeeds if it is granted; a report also needs a body that can be read. -/
  succeeds_iff : ∀ r, outcome = .ok r → ((∃ output, result = .ok output) ↔
    operation.Grants r.status ∧ (operation = view → ∃ apps, TellsApps r.body apps))
  prints : ∀ r output, outcome = .ok r → result = .ok output →
    operation.Prints zone r.body output
  refused : ∀ r, outcome = .ok r → ¬ operation.Grants r.status →
    ∃ e, result = .error (.operation e) ∧ operation.Tells r e
  /-- A report that is granted but cannot be made is an error of its body. -/
  unread : ∀ r e, outcome = .ok r → operation.Grants r.status → result = .error e →
    r.body = "" ∧ e = .transport (.missingBody p.url) ∨
      ∃ reason preview, e = .protocol (.decode "service instance view" reason preview)

theorem judge_of_grants (h : operation.Grants r.status) :
    operation.judge zone p r = operation.output zone p r := if_pos (accepts_iff.2 h)

theorem judge_of_not_grants (h : ¬ operation.Grants r.status) :
    operation.judge zone p r = .error (.operation (operation.refused r)) :=
  if_neg (mt accepts_iff.1 h)

theorem judge_eq_ok_iff {output : String} :
    operation.judge zone p r = .ok output ↔
      operation.Grants r.status ∧ operation.Prints zone r.body output := by
  by_cases h : operation.Grants r.status
  · rw [judge_of_grants h, output_eq_ok_iff, and_iff_right h]
  · rw [judge_of_not_grants h]
    exact ⟨nofun, fun hprints => absurd hprints.1 h⟩

theorem error_of_output {e : Error} (h : operation.output zone p r = .error e) :
    r.body = "" ∧ e = .transport (.missingBody p.url) ∨
      ∃ reason preview, e = .protocol (.decode "service instance view" reason preview) := by
  cases operation with
  | view =>
    rw [output_view] at h
    split at h
    · next hbody =>
      cases h
      exact .inl ⟨hbody, rfl⟩
    · unfold decodeBody at h
      split at h
      · cases h
      · cases h
        exact .inr ⟨_, _, rfl⟩
  | _ => cases h

theorem judged_verdict (operation : Operation) (zone : Report.Zone) (p : Parameters)
    (outcome : Except TransportError Response) :
    operation.Judged zone p outcome (verdict (operation.judge zone p) outcome) where
  failed := by
    rintro e rfl
    rfl
  succeeds_iff := by
    rintro r rfl
    simp only [verdict, judge_eq_ok_iff, exists_and_left, exists_prints_iff]
  prints := by
    rintro r output rfl h
    exact (judge_eq_ok_iff.1 h).2
  refused := by
    rintro r rfl h
    exact ⟨_, judge_of_not_grants h, tells_refused operation r⟩
  unread := by
    rintro r e rfl hgrants h
    rw [verdict, judge_of_grants hgrants] at h
    exact error_of_output h

/-- **An operation sends one request, and what comes back decides what it ends with.** -/
theorem run_judged {σ : Type} (answer : Handler interface σ) (st : σ) (operation : Operation)
    (zone : Report.Zone) (p : Parameters) (token : String) :
    ∃ r, operation.IsSentFor p token r ∧
      (operation.run zone p token).run.history answer st = [onSend r (answer (.send r) st).1] ∧
      operation.Judged zone p (answer (.send r) st).1
        ((operation.run zone p token).run.run answer st).1 := by
  refine ⟨operation.request p token, isSentFor_request operation p token, ?_, ?_⟩
  · rw [run, run_submit]
    rfl
  · rw [run, run_submit]
    exact judged_verdict operation zone p _

end Operation

end ServiceAdmin.Service
