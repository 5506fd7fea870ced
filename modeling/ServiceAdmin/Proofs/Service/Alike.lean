import ServiceAdmin.Proofs.Service.Resolve
import ServiceAdmin.Proofs.Service.Token
import ServiceAdmin.Service.Operation

/-!
# Actions that differ in the token

`Alike` relates two dialogues that ask the same in the same order, but that one sends one token and
the other another.  In surroundings that do not look at the tokens of requests, alike dialogues go
the same way (`Alike.run`).  What `perform` does with one token is alike to what it does with
another.
-/

namespace ServiceAdmin.Service

open Dialogue Http

variable {α β γ δ σ : Type}

/-! ## Surroundings -/

/-- Surroundings that do not look at the token of a request. -/
structure Surroundings (σ : Type) where
  platform : (q : Platform.Query) → σ → Except PlatformError q.Value × σ
  reply : Method → String → Option Payload → σ → Except TransportError Response × σ
  display : String → σ → Except String Unit × σ

/-- The answers of surroundings whose platform prints the token. -/
def Surroundings.handler (w : Surroundings σ) (t : Token) : Handler interface σ
  | .platform .token, st => (.ok t.output, (w.platform .token st).2)
  | .platform q, st => w.platform q st
  | .send r, st => w.reply r.method r.url r.payload st
  | .progress line, st => w.display line st

theorem Surroundings.handler_platform (w : Surroundings σ) (t : Token) {q : Platform.Query}
    (hq : q ≠ .token) (st : σ) : w.handler t (.platform q) st = w.platform q st := by
  cases q with
  | token => exact absurd rfl hq
  | _ => rfl

/-- The exchange with another token. -/
def retold (t : Token) : Exchange interface → Exchange interface
  | ⟨.platform .token, _⟩ => onPlatform .token (.ok t.output)
  | ⟨.send r, a⟩ => onSend { r with token := t.text } a
  | x => x

theorem retold_onPlatform (t : Token) {q : Platform.Query} (hq : q ≠ .token)
    (a : Except PlatformError q.Value) : retold t (onPlatform q a) = onPlatform q a := by
  cases q with
  | token => exact absurd rfl hq
  | _ => rfl

theorem shown_map_retold (t : Token) (h : History) : shown (h.map (retold t)) = shown h := by
  induction h with
  | nil => rfl
  | cons x h ih =>
    obtain ⟨q, a⟩ := x
    cases q with
    | platform q =>
      cases q with
      | _ => exact ih
    | send r => exact ih
    | progress line =>
      cases (a : Except String Unit) with
      | ok u => exact congrArg (line :: ·) ih
      | error reason => exact ih

theorem token_of_mem_sent_map_retold {t : Token} {h : History} {r : Request}
    (hr : r ∈ sent (h.map (retold t))) : r.token = t.text := by
  induction h with
  | nil => cases hr
  | cons x h ih =>
    obtain ⟨q, a⟩ := x
    cases q with
    | platform q =>
      cases q with
      | _ => exact ih hr
    | send r' =>
      rcases List.mem_cons.1 hr with rfl | hr
      · rfl
      · exact ih hr
    | progress line => exact ih hr

/-! ## Alike dialogues -/

section Alike

variable (t₁ t₂ : Token)

/-- Dialogues that ask the same but for the tokens, and end with related results. -/
inductive Alike (R : α → β → Prop) : Dialogue interface α → Dialogue interface β → Prop
  | done {a : α} {b : β} : R a b → Alike R (.done a) (.done b)
  | token {d : Except PlatformError String → Dialogue interface α}
      {e : Except PlatformError String → Dialogue interface β} :
      Alike R (d (.ok t₁.output)) (e (.ok t₂.output)) →
      Alike R (.ask (.platform .token) d) (.ask (.platform .token) e)
  | platform {q : Platform.Query} {d : Except PlatformError q.Value → Dialogue interface α}
      {e : Except PlatformError q.Value → Dialogue interface β} :
      q ≠ .token → (∀ a, Alike R (d a) (e a)) →
      Alike R (.ask (.platform q) d) (.ask (.platform q) e)
  | send {method : Method} {url : String} {payload : Option Payload}
      {d : Except TransportError Response → Dialogue interface α}
      {e : Except TransportError Response → Dialogue interface β} :
      (∀ a, Alike R (d a) (e a)) →
      Alike R (.ask (.send ⟨method, url, payload, t₁.text⟩) d)
        (.ask (.send ⟨method, url, payload, t₂.text⟩) e)
  | progress {line : String} {d : Except String Unit → Dialogue interface α}
      {e : Except String Unit → Dialogue interface β} :
      (∀ a, Alike R (d a) (e a)) → Alike R (.ask (.progress line) d) (.ask (.progress line) e)

end Alike

variable {t₁ t₂ : Token}

theorem alike_bind {R : α → β → Prop} {S : γ → δ → Prop} {d : Dialogue interface α}
    {e : Dialogue interface β} {f : α → Dialogue interface γ} {g : β → Dialogue interface δ}
    (hde : Alike t₁ t₂ R d e) (hfg : ∀ a b, R a b → Alike t₁ t₂ S (f a) (g b)) :
    Alike t₁ t₂ S (d.bind f) (e.bind g) := by
  induction hde with
  | done hab => exact hfg _ _ hab
  | token _ ih => exact .token ih
  | platform hq _ ih => exact .platform hq ih
  | send _ ih => exact .send ih
  | progress _ ih => exact .progress ih

/-- A question that has nothing to do with the token. -/
def Tokenless : Query → Prop
  | .platform q => q ≠ .token
  | .send _ => False
  | .progress _ => True

theorem alike_self {R : α → α → Prop} (hR : ∀ a, R a a) {d : Dialogue interface α}
    (hd : d.Asks Tokenless) : Alike t₁ t₂ R d d := by
  induction d with
  | done a => exact .done (hR a)
  | ask q next ih =>
    cases q with
    | platform q => exact .platform hd.1 fun a => ih a (hd.2 a)
    | send r => exact hd.1.elim
    | progress line => exact .progress fun a => ih a (hd.2 a)

/-- **Alike dialogues go the same way.** -/
theorem Alike.run {R : α → β → Prop} {d : Dialogue interface α} {e : Dialogue interface β}
    (hde : Alike t₁ t₂ R d e) (w : Surroundings σ) (st : σ) :
    R (d.run (w.handler t₁) st).1 (e.run (w.handler t₂) st).1 ∧
      (d.run (w.handler t₁) st).2.2 = (e.run (w.handler t₂) st).2.2 ∧
      e.history (w.handler t₂) st = (d.history (w.handler t₁) st).map (retold t₂) ∧
      d.history (w.handler t₁) st = (d.history (w.handler t₁) st).map (retold t₁) := by
  induction hde generalizing st with
  | done hab => exact ⟨hab, rfl, rfl, rfl⟩
  | token _ ih =>
    obtain ⟨hresult, hstate, hhistory, hown⟩ := ih (w.platform .token st).2
    exact ⟨hresult, hstate, congrArg (_ :: ·) hhistory, congrArg (_ :: ·) hown⟩
  | @platform q d e hq _ ih =>
    obtain ⟨hresult, hstate, hhistory, hown⟩ := ih (w.platform q st).1 (w.platform q st).2
    simp only [Dialogue.run, Dialogue.history, w.handler_platform _ hq, List.map_cons]
    refine ⟨hresult, hstate, ?_, ?_⟩
    · rw [hhistory]
      exact congrArg (· :: _) (retold_onPlatform t₂ hq _).symm
    · rw [← hown]
      exact congrArg (· :: _) (retold_onPlatform t₁ hq _).symm
  | @send method url payload d e _ ih =>
    obtain ⟨hresult, hstate, hhistory, hown⟩ :=
      ih (w.reply method url payload st).1 (w.reply method url payload st).2
    exact ⟨hresult, hstate, congrArg (_ :: ·) hhistory, congrArg (_ :: ·) hown⟩
  | @progress line d e _ ih =>
    obtain ⟨hresult, hstate, hhistory, hown⟩ := ih (w.display line st).1 (w.display line st).2
    exact ⟨hresult, hstate, congrArg (_ :: ·) hhistory, congrArg (_ :: ·) hown⟩

/-! ## Alike actions -/

/-- Results with the same error, or with related values. -/
def Agree (R : α → β → Prop) : Except Error α → Except Error β → Prop
  | .ok a, .ok b => R a b
  | .error e, .error e' => e = e'
  | .ok _, .error _ | .error _, .ok _ => False

theorem agree_eq {x y : Except Error α} : Agree (· = ·) x y ↔ x = y := by
  cases x <;> cases y <;> simp [Agree]

theorem alike_action_bind {R : α → β → Prop} {S : γ → δ → Prop} {x : Action α} {y : Action β}
    {f : α → Action γ} {g : β → Action δ} (hxy : Alike t₁ t₂ (Agree R) x.run y.run)
    (hfg : ∀ a b, R a b → Alike t₁ t₂ (Agree S) (f a).run (g b).run) :
    Alike t₁ t₂ (Agree S) (x >>= f).run (y >>= g).run := by
  rw [run_bind_eq, run_bind_eq]
  refine alike_bind hxy fun a b hab => ?_
  cases a with
  | ok a =>
    cases b with
    | ok b => exact hfg a b hab
    | error e => exact hab.elim
  | error e =>
    cases b with
    | ok b => exact hab.elim
    | error e' => exact .done hab

theorem alike_action_self {x : Action α} (hx : x.run.Asks Tokenless) :
    Alike t₁ t₂ (Agree (· = ·)) x.run x.run :=
  alike_self (fun _ => agree_eq.2 rfl) hx

theorem alike_pure {R : α → β → Prop} {a : α} {b : β} (hab : R a b) :
    Alike t₁ t₂ (Agree R) (pure a : Action α).run (pure b : Action β).run := .done hab

theorem alike_submit (method : Method) (url : String) (payload : Option Payload)
    (judge : Response → Except Error α) :
    Alike t₁ t₂ (Agree (· = ·)) (submit ⟨method, url, payload, t₁.text⟩ judge).run
      (submit ⟨method, url, payload, t₂.text⟩ judge).run := by
  rw [run_submit, run_submit]
  exact .send fun a => .done (agree_eq.2 rfl)

theorem alike_accessToken :
    Alike t₁ t₂ (Agree fun a b => a = t₁.text ∧ b = t₂.text) accessToken.run accessToken.run := by
  have htold : ∀ t : Token, tokenOf (.ok t.output) = .ok t.text := by
    intro t
    rw [tokenOf, extractToken_output]
    rfl
  rw [run_accessToken]
  refine .token ?_
  rw [htold, htold]
  exact .done ⟨rfl, rfl⟩

/-! ## Operations -/

theorem alike_ofExcept {ε : Type} {kind : ε → Error} {x : Except ε α} :
    Alike t₁ t₂ (Agree (· = ·)) (ofExcept kind x).run (ofExcept kind x).run :=
  alike_action_self asks_ofExcept

/-- A question to the platform, and alike actions on each answer. -/
theorem alike_askPlatform_bind {R : α → β → Prop} {q : Platform.Query} (hq : q ≠ .token)
    {f : Except PlatformError q.Value → Action α} {g : Except PlatformError q.Value → Action β}
    (hfg : ∀ a, Alike t₁ t₂ (Agree R) (f a).run (g a).run) :
    Alike t₁ t₂ (Agree R) (liftM (askPlatform q) >>= f : Action α).run
      (liftM (askPlatform q) >>= g : Action β).run := by
  rw [run_liftM_bind, run_liftM_bind]
  exact .platform hq hfg

theorem alike_endpointUrl (service : Instance) (hostPrefix : String) (kind : EndpointKind) :
    Alike t₁ t₂ (Agree (· = ·)) (endpointUrl service hostPrefix t₁.text kind).run
      (endpointUrl service hostPrefix t₂.text kind).run := by
  have hdiscover : ∀ dashboard, Alike t₁ t₂ (Agree (· = ·)) (discover dashboard t₁.text).run
      (discover dashboard t₂.text).run := by
    intro dashboard
    refine alike_action_bind alike_ofExcept ?_
    rintro p _ rfl
    exact alike_submit _ _ _ _
  have hlifecycle : Alike t₁ t₂ (Agree (· = ·)) (lifecycleUrl service hostPrefix t₁.text).run
      (lifecycleUrl service hostPrefix t₂.text).run := by
    refine alike_askPlatform_bind (by rintro ⟨⟩) fun api => ?_
    refine alike_action_bind alike_ofExcept ?_
    rintro api _ rfl
    refine alike_action_bind alike_ofExcept ?_
    rintro broker _ rfl
    exact alike_submit _ _ _ _
  cases kind with
  | service =>
    simp only [endpointUrl]
    cases service.generation with
    | embedded => exact hdiscover _
    | central => exact alike_ofExcept
  | management => exact alike_ofExcept
  | lifecycle =>
    simp only [endpointUrl]
    cases service.generation with
    | embedded => exact alike_ofExcept
    | central => exact hlifecycle

theorem alike_resolve (hostPrefix name : String) (kind : EndpointKind) :
    Alike t₁ t₂ (Agree (· = ·)) (resolve hostPrefix name t₁.text kind).run
      (resolve hostPrefix name t₂.text kind).run := by
  refine alike_askPlatform_bind (by rintro ⟨⟩) fun a => ?_
  cases a with
  | error e => exact .done rfl
  | ok service =>
    refine alike_action_bind (alike_endpointUrl service hostPrefix kind) ?_
    rintro url _ rfl
    exact alike_pure rfl

theorem Operation.request_eq (operation : Operation) (p : Parameters) (token : String) :
    operation.request p token = ⟨(operation.request p "").method, (operation.request p "").url,
      (operation.request p "").payload, token⟩ := by
  cases operation <;> rfl

theorem alike_perform (zone : Report.Zone) (hostPrefix name : String) (operation : Operation) :
    Alike t₁ t₂ (Agree (· = ·)) (perform zone hostPrefix name operation).run
      (perform zone hostPrefix name operation).run := by
  refine alike_action_bind alike_ofExcept fun _ _ _ => ?_
  refine alike_action_bind alike_accessToken ?_
  rintro _ _ ⟨rfl, rfl⟩
  refine alike_action_bind (alike_resolve hostPrefix name operation.endpointKind) ?_
  rintro p _ rfl
  rw [Operation.run, Operation.run, Operation.request_eq operation p t₁.text,
    Operation.request_eq operation p t₂.text]
  exact alike_submit _ _ _ _

end ServiceAdmin.Service
