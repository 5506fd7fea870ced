import ServiceAdmin.Proofs.Dialogue
import ServiceAdmin.Service.Action

/-!
# Courses of actions

An action is a dialogue that ends with a value or with an error, and goes on only after a value.
The lemmas take a do block of actions apart: what it asks first, and what it does with the answer.
-/

namespace ServiceAdmin.Service

open Dialogue Http

variable {α β ε σ : Type}

/-! ## Histories of actions -/

/-- What an action asked and was answered. -/
abbrev History := List (Exchange interface)

/-- A question to the platform, with its answer. -/
abbrev onPlatform (q : Platform.Query) (a : Except PlatformError q.Value) : Exchange interface :=
  ⟨.platform q, a⟩

/-- A request, with what came back. -/
abbrev onSend (r : Request) (a : Except TransportError Response) : Exchange interface :=
  ⟨.send r, a⟩

/-- A line, with whether it was shown. -/
abbrev onLine (line : String) (a : Except String Unit) : Exchange interface := ⟨.progress line, a⟩

/-- The lines that were shown. -/
def shown : History → List String
  | [] => []
  | ⟨.progress line, a⟩ :: h =>
    match (a : Except String Unit) with
    | .ok () => line :: shown h
    | .error _ => shown h
  | ⟨.platform _, _⟩ :: h | ⟨.send _, _⟩ :: h => shown h

/-- The requests that were sent. -/
def sent : History → List Request
  | [] => []
  | ⟨.send r, _⟩ :: h => r :: sent h
  | ⟨.platform _, _⟩ :: h | ⟨.progress _, _⟩ :: h => sent h

theorem mem_sent {r : Request} : ∀ {h : History}, r ∈ sent h → .send r ∈ h.map Exchange.question
  | ⟨.send r', a⟩ :: h, hr => by
    rcases List.mem_cons.1 hr with rfl | hr
    · exact List.mem_cons_self
    · exact List.mem_cons_of_mem _ (mem_sent hr)
  | ⟨.platform q, a⟩ :: h, hr => List.mem_cons_of_mem _ (mem_sent (h := h) hr)
  | ⟨.progress line, a⟩ :: h, hr => List.mem_cons_of_mem _ (mem_sent (h := h) hr)

/-- Nothing was sent if no question was a request. -/
theorem sent_eq_nil {h : History} (hh : ∀ x ∈ h, ∀ r, x.question ≠ .send r) : sent h = [] := by
  refine List.eq_nil_iff_forall_not_mem.2 fun r hr => ?_
  obtain ⟨x, hx, hsend⟩ := List.mem_map.1 (mem_sent hr)
  exact hh x hx r hsend

theorem sent_append : ∀ h h' : History, sent (h ++ h') = sent h ++ sent h'
  | [], _ => rfl
  | ⟨.send r, _⟩ :: h, h' => congrArg (r :: ·) (sent_append h h')
  | ⟨.platform _, _⟩ :: h, h' => sent_append h h'
  | ⟨.progress _, _⟩ :: h, h' => sent_append h h'

theorem shown_append : ∀ h h' : History, shown (h ++ h') = shown h ++ shown h'
  | [], _ => rfl
  | ⟨.progress line, .ok ()⟩ :: h, h' => congrArg (line :: ·) (shown_append h h')
  | ⟨.progress _, .error _⟩ :: h, h' => shown_append h h'
  | ⟨.platform _, _⟩ :: h, h' => shown_append h h'
  | ⟨.send _, _⟩ :: h, h' => shown_append h h'

/-- The question shows no line. -/
def ShowsNothing : Query → Prop
  | .progress _ => False
  | .platform _ | .send _ => True

theorem shown_eq_nil : ∀ {h : History}, (∀ x ∈ h, ShowsNothing x.question) → shown h = []
  | [], _ => rfl
  | ⟨.progress _, _⟩ :: _, hh => (hh _ List.mem_cons_self).elim
  | ⟨.platform _, _⟩ :: h, hh => shown_eq_nil (h := h) (List.forall_mem_cons.1 hh).2
  | ⟨.send _, _⟩ :: h, hh => shown_eq_nil (h := h) (List.forall_mem_cons.1 hh).2

/-- The requests that were answered with a status of success, which has the form 2xx. -/
def granted : History → List Request
  | [] => []
  | ⟨.send r, a⟩ :: h =>
    match (a : Except TransportError Response) with
    | .ok response =>
      if 200 ≤ response.status ∧ response.status < 300 then r :: granted h else granted h
    | .error _ => granted h
  | ⟨.platform _, _⟩ :: h | ⟨.progress _, _⟩ :: h => granted h

@[simp] theorem shown_nil : shown [] = [] := rfl

@[simp] theorem shown_onLine_ok (line : String) (h : History) :
    shown (onLine line (.ok ()) :: h) = line :: shown h := rfl

@[simp] theorem shown_onLine_error (line reason : String) (h : History) :
    shown (onLine line (.error reason) :: h) = shown h := rfl

@[simp] theorem shown_onSend (r : Request) (a : Except TransportError Response) (h : History) :
    shown (onSend r a :: h) = shown h := rfl

@[simp] theorem sent_nil : sent [] = [] := rfl

@[simp] theorem sent_onLine (line : String) (a : Except String Unit) (h : History) :
    sent (onLine line a :: h) = sent h := rfl

@[simp] theorem sent_onSend (r : Request) (a : Except TransportError Response) (h : History) :
    sent (onSend r a :: h) = r :: sent h := rfl

@[simp] theorem granted_nil : granted [] = [] := rfl

@[simp] theorem granted_onLine (line : String) (a : Except String Unit) (h : History) :
    granted (onLine line a :: h) = granted h := rfl

/-! ## Sequences -/

/-- How an action goes on after another: after a value only. -/
def onward (f : α → Action β) : Except Error α → Dialogue interface (Except Error β)
  | .ok a => (f a).run
  | .error e => .done (.error e)

theorem run_bind_eq (x : Action α) (f : α → Action β) :
    (x >>= f).run = x.run.bind (onward f) := by
  refine congrArg x.run.bind (funext fun a => ?_)
  cases a with
  | ok a => rfl
  | error e => rfl

theorem run_bind_of_ok {x : Action α} {f : α → Action β} {answer : Handler interface σ} {a : α}
    {asked : List Query} {st st' : σ} (hx : x.run.run answer st = (.ok a, asked, st')) :
    (x >>= f).run.run answer st =
      let (r, asked', st) := (f a).run.run answer st'
      (r, asked ++ asked', st) := run_exceptT_bind_of_ok hx

theorem run_bind_of_error {x : Action α} {f : α → Action β} {answer : Handler interface σ}
    {e : Error} {asked : List Query} {st st' : σ}
    (hx : x.run.run answer st = (.error e, asked, st')) :
    (x >>= f).run.run answer st = (.error e, asked, st') := by
  rw [run_bind_eq, Dialogue.run_bind, hx]
  show (Except.error e, asked ++ [], st') = (Except.error e, asked, st')
  rw [List.append_nil]

/-- A sequence that ends with a value has a first part that does. -/
theorem exists_of_run_bind_ok {x : Action α} {f : α → Action β} {answer : Handler interface σ}
    {b : β} {st : σ} (h : ((x >>= f).run.run answer st).1 = .ok b) :
    ∃ a asked st', x.run.run answer st = (.ok a, asked, st') ∧
      ((f a).run.run answer st').1 = .ok b := by
  rcases hx : x.run.run answer st with ⟨result, asked, st'⟩
  cases result with
  | error e =>
    rw [run_bind_of_error hx] at h
    cases h
  | ok a =>
    rw [run_bind_of_ok hx] at h
    exact ⟨a, asked, st', rfl, h⟩

theorem history_bind_of_ok {x : Action α} {f : α → Action β} {answer : Handler interface σ} {a : α}
    {asked : List Query} {st st' : σ} (hx : x.run.run answer st = (.ok a, asked, st')) :
    (x >>= f).run.history answer st =
      x.run.history answer st ++ (f a).run.history answer st' := by
  rw [run_bind_eq, Dialogue.history_bind, hx]
  rfl

theorem history_bind_of_error {x : Action α} {f : α → Action β} {answer : Handler interface σ}
    {e : Error} {asked : List Query} {st st' : σ}
    (hx : x.run.run answer st = (.error e, asked, st')) :
    (x >>= f).run.history answer st = x.run.history answer st := by
  rw [run_bind_eq, Dialogue.history_bind, hx]
  exact List.append_nil _

/-- What comes after an action may only change its value. -/
theorem run_bind_pure {x : Action α} {answer : Handler interface σ} {r : Except Error α}
    {asked : List Query} {st st' : σ} (hx : x.run.run answer st = (r, asked, st')) (f : α → β) :
    (x >>= fun a => pure (f a)).run.run answer st = (r.map f, asked, st') := by
  cases r with
  | ok a =>
    rw [run_bind_of_ok hx]
    show (Except.ok (f a), asked ++ [], st') = (Except.ok (f a), asked, st')
    rw [List.append_nil]
  | error e => exact run_bind_of_error hx

theorem run_liftM_bind (d : Dialogue interface α) (f : α → Action β) :
    (liftM d >>= f : Action β).run = d.bind fun a => (f a).run := by
  rw [run_bind_eq]
  exact Dialogue.bind_assoc d (fun a => .done (.ok a)) (onward f)

theorem course_bind {x : Action α} {f : α → Action β} {h : History} {r : Except Error β} :
    (x >>= f).run.Course h r ↔
      (∃ e, x.run.Course h (.error e) ∧ r = .error e) ∨
        ∃ a h₁ h₂, h = h₁ ++ h₂ ∧ x.run.Course h₁ (.ok a) ∧ (f a).run.Course h₂ r :=
  course_exceptT_bind

/-- The action begins with another, and if that ends with a value, then the requests that are sent
after it are such. -/
def SendsAfter (first : Action α) (P : History → α → List Request → Prop) (x : Action β) : Prop :=
  ∀ h result, x.run.Course h result →
    (∃ e, first.run.Course h (.error e) ∧ result = .error e) ∨
      ∃ a before after, h = before ++ after ∧ first.run.Course before (.ok a) ∧
        P before a (sent after)

theorem sendsAfter_bind {first : Action α} {P : History → α → List Request → Prop}
    {f : α → Action β}
    (hf : ∀ a before after result, first.run.Course before (.ok a) →
      (f a).run.Course after result → P before a (sent after)) :
    SendsAfter first P (first >>= f) := by
  intro h result hc
  rcases course_bind.1 hc with hfirst | ⟨a, before, after, rfl, hfirst, hafter⟩
  · exact .inl hfirst
  · exact .inr ⟨a, before, after, rfl, hfirst, hf a before after result hfirst hafter⟩

theorem asks_bind {P : Query → Prop} {x : Action α} {f : α → Action β} (hx : x.run.Asks P)
    (hf : ∀ a, (f a).run.Asks P) : (x >>= f).run.Asks P := Dialogue.asks_exceptT_bind hx hf

/-- What a platform answers that does not change. -/
abbrev Script := (q : Platform.Query) → Except PlatformError q.Value

/-- Answers from a script of the platform; `others` answers all else. -/
def withPlatform (platform : Script) (others : Handler interface σ) : Handler interface σ
  | .platform q, st => (platform q, st)
  | .send r, st => others (.send r) st
  | .progress line, st => others (.progress line) st

theorem run_askPlatform_bind (platform : Script) (others : Handler interface σ)
    (q : Platform.Query) (f : Except PlatformError q.Value → Action α) (st : σ) :
    (liftM (askPlatform q) >>= f : Action α).run.run (withPlatform platform others) st =
      let (r, asked, st) := (f (platform q)).run.run (withPlatform platform others) st
      (r, .platform q :: asked, st) := by
  rw [run_liftM_bind]
  rfl

/-! ## Single steps -/

@[simp] theorem course_pure {a : α} {h : History} {r : Except Error α} :
    (pure a : Action α).run.Course h r ↔ h = [] ∧ r = .ok a := course_done

@[simp] theorem course_throw {e : Error} {h : History} {r : Except Error α} :
    (throw e : Action α).run.Course h r ↔ h = [] ∧ r = .error e := course_done

theorem ok_of_mapError_eq_ok {ε' : Type} {f : ε → ε'} {x : Except ε α} {a : α}
    (h : x.mapError f = .ok a) : x = .ok a := by
  cases x with
  | error e => cases h
  | ok b =>
    cases h
    rfl

/-- What a request ends with, by what came back; `judge` decides on a response. -/
def verdict (judge : Response → Except Error α) : Except TransportError Response → Except Error α
  | .ok response => judge response
  | .error e => .error (.transport e)

theorem run_ofExcept (kind : ε → Error) (x : Except ε α) :
    (ofExcept kind x).run = .done (x.mapError kind) := by
  cases x with
  | ok a => rfl
  | error e => rfl

theorem run_ofExcept_id (x : Except Error α) : (ofExcept id x).run = .done x := by
  cases x with
  | ok a => rfl
  | error e => rfl

theorem run_submit (r : Request) (judge : Response → Except Error α) :
    (submit r judge).run = .ask (.send r) fun a => .done (verdict judge a) := by
  refine congrArg (Dialogue.ask (I := interface) (.send r)) (funext fun a => ?_)
  cases a with
  | error e => rfl
  | ok response =>
    exact run_ofExcept_id (judge response)

theorem run_submit_bind (r : Request) (judge : Response → Except Error α) (f : α → Action β) :
    (submit r judge >>= f).run = .ask (.send r) fun a => onward f (verdict judge a) := by
  rw [run_bind_eq, run_submit]
  rfl

theorem run_tell (line : String) :
    (tell line).run =
      .ask (.progress line) fun a => .done (a.mapError fun e => .operation (.progress e)) := by
  refine congrArg (Dialogue.ask (I := interface) (.progress line)) (funext fun a => ?_)
  cases a with
  | ok u => rfl
  | error reason => rfl

theorem course_submit {r : Request} {judge : Response → Except Error α} {h : History}
    {result : Except Error α} :
    (submit r judge).run.Course h result ↔ ∃ a, h = [onSend r a] ∧ result = verdict judge a := by
  rw [run_submit, course_ask]
  constructor
  · rintro ⟨a, t, rfl, ht⟩
    obtain ⟨rfl, rfl⟩ := course_done.1 ht
    exact ⟨a, rfl, rfl⟩
  · rintro ⟨a, rfl, rfl⟩
    exact ⟨a, [], rfl, .done _⟩

theorem course_submit_bind {r : Request} {judge : Response → Except Error α} {f : α → Action β}
    {h : History} {result : Except Error β} :
    (submit r judge >>= f).run.Course h result ↔
      ∃ a t, h = onSend r a :: t ∧ (onward f (verdict judge a)).Course t result := by
  rw [run_submit_bind]
  exact course_ask

theorem sent_of_course_submit_bind {r : Request} {judge : Response → Except Error α}
    {f : α → Action β} {h : History} {result : Except Error β}
    (hc : (submit r judge >>= f).run.Course h result) :
    sent h = [r] ∨ ∃ a t, (f a).run.Course t result ∧ sent h = r :: sent t := by
  obtain ⟨answered, t, rfl, ht⟩ := course_submit_bind.1 hc
  cases hv : verdict judge answered with
  | error e =>
    rw [hv] at ht
    obtain ⟨rfl, -⟩ := course_done.1 ht
    exact .inl rfl
  | ok a =>
    rw [hv] at ht
    exact .inr ⟨a, t, ht, rfl⟩

theorem course_tell_bind {line : String} {f : Unit → Action α} {h : History}
    {result : Except Error α} :
    (tell line >>= f).run.Course h result ↔ ∃ a t, h = onLine line a :: t ∧
      (onward f (a.mapError fun e => .operation (.progress e))).Course t result := by
  rw [run_bind_eq, run_tell]
  exact course_ask

theorem course_askPlatform_bind {q : Platform.Query} {f : Except PlatformError q.Value → Action α}
    {h : History} {result : Except Error α} :
    (liftM (askPlatform q) >>= f : Action α).run.Course h result ↔
      ∃ a t, h = onPlatform q a :: t ∧ (f a).run.Course t result := by
  rw [run_liftM_bind]
  exact course_ask

theorem course_ofExcept {kind : ε → Error} {x : Except ε α} {h : History}
    {result : Except Error α} :
    (ofExcept kind x).run.Course h result ↔ h = [] ∧ result = x.mapError kind := by
  rw [run_ofExcept]
  exact course_done

theorem ok_of_course_ofExcept {kind : ε → Error} {x : Except ε α} {h : History} {a : α}
    (hc : (ofExcept kind x).run.Course h (.ok a)) : x = .ok a :=
  ok_of_mapError_eq_ok (course_ofExcept.1 hc).2.symm

theorem course_ofExcept_bind {kind : ε → Error} {x : Except ε α} {f : α → Action β} {h : History}
    {result : Except Error β} :
    (ofExcept kind x >>= f).run.Course h result ↔ (onward f (x.mapError kind)).Course h result := by
  rw [run_bind_eq, run_ofExcept]
  rfl

/-- What comes after an action may only change its value. -/
theorem course_bind_pure {x : Action α} {f : α → β} {h : History} {result : Except Error β} :
    (x >>= fun a => pure (f a)).run.Course h result ↔
      ∃ r, x.run.Course h r ∧ result = r.map f := by
  rw [course_bind]
  constructor
  · rintro (⟨e, hx, rfl⟩ | ⟨a, h₁, h₂, rfl, hx, hf⟩)
    · exact ⟨.error e, hx, rfl⟩
    · obtain ⟨rfl, rfl⟩ := course_pure.1 hf
      exact ⟨.ok a, by rwa [List.append_nil], rfl⟩
  · rintro ⟨r, hx, rfl⟩
    cases r with
    | error e => exact .inl ⟨e, hx, rfl⟩
    | ok a => exact .inr ⟨a, h, [], (List.append_nil h).symm, hx, course_pure.2 ⟨rfl, rfl⟩⟩

/-! ## What actions may ask -/

section Asks

variable {P : Query → Prop}

theorem asks_submit {r : Request} {judge : Response → Except Error α} (hr : P (.send r)) :
    (submit r judge).run.Asks P := by
  rw [run_submit]
  exact ⟨hr, fun _ => trivial⟩

theorem asks_liftM_bind {d : Dialogue interface α} {f : α → Action β} (hd : d.Asks P)
    (hf : ∀ a, (f a).run.Asks P) : (liftM d >>= f : Action β).run.Asks P := by
  rw [run_liftM_bind]
  exact Dialogue.asks_bind hd hf

theorem asks_askPlatform {q : Platform.Query} (hq : P (.platform q)) :
    (askPlatform q).Asks P := ⟨hq, fun _ => trivial⟩

theorem asks_ofExcept {kind : ε → Error} {x : Except ε α} : (ofExcept kind x).run.Asks P := by
  rw [run_ofExcept]
  trivial

end Asks

end ServiceAdmin.Service
