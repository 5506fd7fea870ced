import ServiceAdmin.Proofs.Platform.Complaint

/-!
# Questions one after the other

Questions to one platform share the target that is known.  The answers do not tell that, and of the
runs of `cf` only those of `cf target` do: each question runs what it would run alone, without
`cf target` once that has succeeded (`session_unobservable`).  What is known is then what the first
success told, whatever `cf` does later.
-/

namespace ServiceAdmin.Platform

open Dialogue

/-- What becomes of each run of `cf`. -/
abbrev Script := List String → Outcome

/-- The run of `cf` that tells the target. -/
abbrev targetRun : List String := ["target"]

/-- A question, and what `cf` does while it is answered. -/
structure Step where
  script : Script
  query : Query

/-- What a question is answered, and what was run for it. -/
structure Reply where
  query : Query
  result : Except PlatformError query.Value
  runs : Runs

/-- The exit status is 0, and what was printed is UTF-8. -/
def Outcome.succeeded : Outcome → Bool
  | .exited 0 stdout _ => (Text.Utf8.decode? stdout).isOk
  | _ => false

/-- The target that a run of `cf target` tells. -/
def Outcome.target? (outcome : Outcome) : Option Target :=
  (outcome.printed "target").toOption.map .ofOutput

def argsOf (x : Exchange commandInterface) : List String := x.question

def outcomeOf (x : Exchange commandInterface) : Outcome := x.answer

/-- The run is one of `cf target`. -/
def isTargetRun (x : Exchange commandInterface) : Bool := argsOf x = targetRun

/-- A success of `cf target`. -/
def tellsTarget (x : Exchange commandInterface) : Bool :=
  isTargetRun x && (outcomeOf x).succeeded

/-- What the first success of `cf target` among the runs was. -/
def heard (runs : Runs) : Option Outcome := (runs.find? tellsTarget).map outcomeOf

/-- The runs for some questions. -/
def runsOf (replies : List Reply) : Runs := replies.flatMap (·.runs)

/-- The same answer, without the run that tells the target. -/
def Reply.withoutTarget (r : Reply) : Reply :=
  { r with runs := r.runs.filter fun x => !isTargetRun x }

def Script.handler (script : Script) : Handler commandInterface Unit :=
  fun args st => (script args, st)

/-- `cf target` tells what it told before. -/
def Script.telling (script : Script) (outcome : Outcome) : Script :=
  fun args => if args = targetRun then outcome else script args

namespace Step

def reply (known : Option Target) (step : Step) : Reply where
  query := step.query
  result := ((answer step.query known).run step.script.handler ()).1.1
  runs := (answer step.query known).history step.script.handler ()

def knownAfter (known : Option Target) (step : Step) : Option Target :=
  ((answer step.query known).run step.script.handler ()).1.2

/-- The reply to a question that is asked alone. -/
def fresh (step : Step) : Reply := step.reply none

/-- The reply to a question that is asked alone, but for what was heard. -/
def replyAfter (step : Step) : Option Outcome → Reply
  | none => step.fresh
  | some outcome => ({ step with script := step.script.telling outcome } : Step).fresh.withoutTarget

end Step

/-- The replies to questions that are asked one after the other. -/
def session : Option Target → List Step → List Reply
  | _, [] => []
  | known, step :: steps => step.reply known :: session (step.knownAfter known) steps

/-- The label of the value of the target that a question needs. -/
def Query.label? : Query → Option String
  | apps | space => some "space"
  | apiEndpoint => some "API endpoint"
  | username => some "user"
  | org => some "org"
  | service _ | token | curl _ => none

/-- The error of a question that needs a value which `cf target` did not print. -/
def missingError (label : String) : PlatformError :=
  .output "target" ("no '" ++ label ++ "' in cf target output")

/-- What the reply to a question tells of the questions before. -/
structure Unobservable (before : List Step) (step : Step) (r : Reply) : Prop where
  /-- Where `cf` is the same throughout, the reply is that of the question alone, without the run
  of `cf target` if one has succeeded before. -/
  same : ∀ script, (∀ s ∈ step :: before, s.script = script) →
    r = if (heard (runsOf (session none before))).isSome then step.fresh.withoutTarget
      else step.fresh
  /-- Where it is not, the same holds with what the first success told. -/
  changing : r = step.replyAfter (heard (runsOf (session none before)))
  /-- What failed is run again. -/
  failed : (∀ s ∈ before, (s.script targetRun).succeeded = false) → r = step.fresh
  /-- Every question that needs what was not printed says so. -/
  missing : ∀ outcome output label, heard (runsOf (session none before ++ [r])) = some outcome →
    outcome.printed "target" = .ok output → labelled? output label = none →
    step.query.label? = some label → r.result = .error (missingError label)

/-! ## One question -/

section One

variable {step : Step} {known : Option Target} {outcome : Outcome} {t : Target}

theorem isTargetRun_iff {e : Exchange commandInterface} :
    isTargetRun e = true ↔ argsOf e = targetRun := decide_eq_true_iff

theorem succeeded_eq_isSome (outcome : Outcome) : outcome.succeeded = outcome.target?.isSome := by
  cases outcome with
  | notStarted message => rfl
  | exited status stdout stderr =>
    rw [Outcome.target?, Outcome.printed]
    cases status with
    | succ n => rfl
    | zero =>
      rw [if_pos rfl, Outcome.succeeded]
      cases Text.Utf8.decode? stdout <;> rfl

theorem printed_map_of_target? (h : outcome.target? = some t) :
    (outcome.printed "target").map Target.ofOutput = .ok t := by
  rw [Outcome.target?] at h
  cases hprinted : outcome.printed "target" with
  | error e =>
    rw [hprinted] at h
    cases h
  | ok output =>
    rw [hprinted] at h
    exact congrArg _ (Option.some.inj h)

theorem telling_self (script : Script) : script.telling (script targetRun) = script := by
  funext args
  rw [Script.telling]
  split
  · next h => rw [h]
  · rfl

/-- The command does not run `cf target`. -/
structure Avoids {α : Type} (x : Command α) : Prop where
  asks : x.run.Asks (· ≠ targetRun)

theorem avoids_cf {args : List String} (h : args ≠ targetRun) : Avoids (cf args) :=
  ⟨asks_cf h⟩

theorem avoids_mk {α : Type} (r : Except PlatformError α) : Avoids (ExceptT.mk (return r)) :=
  ⟨trivial⟩

theorem Avoids.bind {α β : Type} {x : Command α} {f : α → Command β} (hx : Avoids x)
    (hf : ∀ a, Avoids (f a)) : Avoids (x >>= f) :=
  ⟨asks_exceptT_bind hx.asks fun a => (hf a).asks⟩

theorem avoids_curlAs {α : Type} (shape : Json.Shape α) (path : String) :
    Avoids (curlAs shape path) :=
  (avoids_cf (by simp)).bind fun _ => avoids_mk _

theorem avoids_findInstance (name : String) : Avoids (findInstance name) :=
  (avoids_cf (by simp)).bind fun _ => (avoids_curlAs _ _).bind fun _ => avoids_mk _

theorem avoids_appsOf (space : String) : Avoids (appsOf space) :=
  (avoids_cf (by simp)).bind fun _ => avoids_curlAs _ _

/-- A question runs `cf target` never, or at the very beginning if no target is known. -/
theorem answer_cases (q : Query) :
    (∃ x : Command q.Value, Avoids x ∧
      ∀ known, answer q known = x.run.bind fun r => .done (r, known)) ∨
    ∃ f : Except PlatformError Target → Command q.Value, (∀ found, Avoids (f found)) ∧
      ∀ known, answer q known =
        (target known).bind fun p => (f p.1).run.bind fun r => .done (r, p.2) := by
  cases q with
  | service name => exact .inl ⟨findInstance name, avoids_findInstance name, fun _ => rfl⟩
  | token => exact .inl ⟨cf ["oauth-token"], avoids_cf (by simp), fun _ => rfl⟩
  | curl path => exact .inl ⟨cf ["curl", path], avoids_cf (by simp), fun _ => rfl⟩
  | apps =>
    refine .inr ⟨fun found =>
        .mk (return found.bind fun t => required "space" t.space) >>= appsOf,
      fun _ => (avoids_mk _).bind avoids_appsOf, fun known => ?_⟩
    refine congrArg (target known).bind (funext fun p => ?_)
    dsimp only
    cases p.1.bind fun t => required "space" t.space <;> rfl
  | apiEndpoint =>
    exact .inr ⟨fun found => .mk (return found.bind fun t => required "API endpoint" t.apiEndpoint),
      fun _ => avoids_mk _, fun _ => rfl⟩
  | username =>
    exact .inr ⟨fun found => .mk (return found.bind fun t => required "user" t.user),
      fun _ => avoids_mk _, fun _ => rfl⟩
  | org =>
    exact .inr ⟨fun found => .mk (return found.bind fun t => required "org" t.org),
      fun _ => avoids_mk _, fun _ => rfl⟩
  | space =>
    exact .inr ⟨fun found => .mk (return found.bind fun t => required "space" t.space),
      fun _ => avoids_mk _, fun _ => rfl⟩

/-! ### What a question runs -/

/-- Everything that is run is what the script says. -/
theorem outcomeOf_of_mem_history {α : Type} (script : Script) (d : Dialogue commandInterface α) :
    ∀ x ∈ d.history script.handler (), outcomeOf x = script (argsOf x) := by
  induction d with
  | done a => simp [history]
  | ask args next ih =>
    rw [history, List.forall_mem_cons]
    exact ⟨rfl, ih _⟩

/-- The result of a command. -/
def Script.result {α : Type} (script : Script) (x : Command α) : Except PlatformError α :=
  (x.run.run script.handler ()).1

/-- The runs of a command. -/
def Script.runs {α : Type} (script : Script) (x : Command α) : Runs :=
  x.run.history script.handler ()

/-- What `cf target` tells. -/
def Script.found (script : Script) : Except PlatformError Target :=
  ((script targetRun).printed "target").map .ofOutput

theorem Avoids.isTargetRun_eq_false {α : Type} {x : Command α} (hx : Avoids x) (script : Script) :
    ∀ e ∈ script.runs x, isTargetRun e = false := by
  intro e he
  rw [← Bool.not_eq_true, isTargetRun_iff]
  exact (course_run script.handler x.run ()).asks hx.asks e he

theorem Avoids.telling {α : Type} {x : Command α} (hx : Avoids x) (script : Script)
    (outcome : Outcome) : (script.telling outcome).runs x = script.runs x ∧
      (script.telling outcome).result x = script.result x := by
  have hsame : ∀ args : List String, args ≠ targetRun → ∀ st,
      (script.telling outcome).handler args st = script.handler args st :=
    fun _ hargs st => congrArg (·, st) (if_neg hargs)
  obtain ⟨hruns, hresult⟩ := history_congr hsame hx.asks ()
  exact ⟨hruns, congrArg Prod.fst hresult⟩

theorem target_none (script : Script) :
    (target none).run script.handler () =
        ((script.found, (script targetRun).target?), [targetRun], ()) ∧
      (target none).history script.handler () = [onRun targetRun (script targetRun)] := by
  have hrun : (cf targetRun).run = .ask (I := commandInterface) targetRun fun outcome =>
      .done (Outcome.printed "target" outcome) := cf_of_not_hasNul (by decide)
  have htarget : target none = (cf targetRun).run.bind fun r =>
      .done (r.map .ofOutput, r.toOption.map .ofOutput) := by
    refine congrArg (cf targetRun).run.bind (funext fun r => ?_)
    cases r <;> rfl
  rw [htarget, hrun]
  exact ⟨rfl, rfl⟩

/-- The reply to a question is that of a command which does not run `cf target`, or `cf target` is
run first if no target is known. -/
theorem reply_cases (q : Query) :
    (∃ x : Command q.Value, Avoids x ∧ ∀ script known,
      (⟨script, q⟩ : Step).reply known = ⟨q, script.result x, script.runs x⟩ ∧
        (⟨script, q⟩ : Step).knownAfter known = known) ∨
    ∃ f : Except PlatformError Target → Command q.Value, (∀ found, Avoids (f found)) ∧
      ∀ script : Script,
        ((⟨script, q⟩ : Step).fresh = ⟨q, script.result (f script.found),
            onRun targetRun (script targetRun) :: script.runs (f script.found)⟩ ∧
          (⟨script, q⟩ : Step).knownAfter none = (script targetRun).target?) ∧
        ∀ t, (⟨script, q⟩ : Step).reply (some t) =
            ⟨q, script.result (f (.ok t)), script.runs (f (.ok t))⟩ ∧
          (⟨script, q⟩ : Step).knownAfter (some t) = some t := by
  rcases answer_cases q with ⟨x, hx, hanswer⟩ | ⟨f, hf, hanswer⟩
  · refine .inl ⟨x, hx, fun script known => ?_⟩
    simp only [Step.reply, Step.knownAfter, hanswer, run_bind, history_bind]
    exact ⟨congrArg (Reply.mk q _) (List.append_nil _), rfl⟩
  · refine .inr ⟨f, hf, fun script => ⟨?_, fun t => ?_⟩⟩
    · obtain ⟨hrun, hhistory⟩ := target_none script
      simp only [Step.fresh, Step.reply, Step.knownAfter, hanswer, run_bind, history_bind, hrun,
        hhistory]
      exact ⟨congrArg (Reply.mk q _) (congrArg (_ :: ·) (List.append_nil _)), rfl⟩
    · simp only [Step.reply, Step.knownAfter, hanswer, run_bind, history_bind]
      exact ⟨congrArg (Reply.mk q _) (List.append_nil _), rfl⟩

theorem knownAfter_some (step : Step) (t : Target) : step.knownAfter (some t) = some t := by
  obtain ⟨script, q⟩ := step
  rcases reply_cases q with ⟨x, -, hreply⟩ | ⟨f, -, hreply⟩
  · exact (hreply script (some t)).2
  · exact ((hreply script).2 t).2

/-- With a target that is known `cf target` is not run. -/
theorem isTargetRun_of_known (step : Step) (t : Target) :
    ∀ e ∈ (step.reply (some t)).runs, isTargetRun e = false := by
  obtain ⟨script, q⟩ := step
  rcases reply_cases q with ⟨x, hx, hreply⟩ | ⟨f, hf, hreply⟩
  · rw [(hreply script (some t)).1]
    exact hx.isTargetRun_eq_false script
  · rw [((hreply script).2 t).1]
    exact (hf _).isTargetRun_eq_false script

theorem heard_of_not_isTargetRun {runs : Runs} (h : ∀ e ∈ runs, isTargetRun e = false) :
    heard runs = none := by
  rw [heard, List.find?_eq_none.2 fun e he => by simp [tellsTarget, h e he]]
  rfl

theorem countP_of_not_isTargetRun {runs : Runs} (h : ∀ e ∈ runs, isTargetRun e = false) :
    runs.countP tellsTarget = 0 :=
  List.countP_eq_zero.2 fun e he => by simp [tellsTarget, h e he]

theorem heard_append (runs runs' : Runs) :
    heard (runs ++ runs') = (heard runs).or (heard runs') := by
  rw [heard, List.find?_append, Option.map_or]
  rfl

theorem heard_cons (outcome : Outcome) (runs : Runs) :
    heard (onRun targetRun outcome :: runs) =
      if outcome.succeeded then some outcome else heard runs := by
  have htells : tellsTarget (onRun targetRun outcome) = outcome.succeeded := rfl
  rw [heard, List.find?_cons, htells]
  cases outcome.succeeded <;> rfl

theorem succeeded_of_heard {runs : Runs} {outcome : Outcome} (h : heard runs = some outcome) :
    ∃ e ∈ runs, tellsTarget e = true ∧ outcomeOf e = outcome := by
  obtain ⟨e, he, rfl⟩ := Option.map_eq_some_iff.1 h
  exact ⟨e, List.mem_of_find?_eq_some he, List.find?_some he, rfl⟩

theorem exists_target_of_heard {runs : Runs} {outcome : Outcome} (h : heard runs = some outcome) :
    ∃ t, outcome.target? = some t := by
  obtain ⟨e, -, htells, rfl⟩ := succeeded_of_heard h
  exact Option.isSome_iff_exists.1
    ((succeeded_eq_isSome _).symm.trans (Bool.and_eq_true_iff.1 htells).2)

theorem countP_of_heard_eq_none {runs : Runs} (h : heard runs = none) :
    runs.countP tellsTarget = 0 :=
  List.countP_eq_zero.2 (List.find?_eq_none.1 (Option.map_eq_none_iff.1 h))

/-- What is known after a question is what was heard. -/
theorem knownAfter_none (step : Step) :
    step.knownAfter none = (heard step.fresh.runs).bind Outcome.target? := by
  obtain ⟨script, q⟩ := step
  rcases reply_cases q with ⟨x, hx, hreply⟩ | ⟨f, hf, hreply⟩
  · rw [(hreply script none).2, Step.fresh, (hreply script none).1,
      heard_of_not_isTargetRun (hx.isTargetRun_eq_false script)]
    rfl
  · rw [(hreply script).1.2, (hreply script).1.1, heard_cons,
      heard_of_not_isTargetRun ((hf _).isTargetRun_eq_false script), succeeded_eq_isSome]
    cases h : (script targetRun).target? with
    | none => rfl
    | some t => exact h.symm

/-- A question hears no success, or it hears one and the target is known from then on. -/
theorem fresh_cases (step : Step) :
    (heard step.fresh.runs = none ∧ step.knownAfter none = none) ∨
      ∃ outcome t, heard step.fresh.runs = some outcome ∧ outcome.target? = some t ∧
        step.knownAfter none = some t := by
  rw [knownAfter_none]
  cases hheard : heard step.fresh.runs with
  | none => exact .inl ⟨rfl, rfl⟩
  | some outcome =>
    obtain ⟨t, ht⟩ := exists_target_of_heard hheard
    exact .inr ⟨outcome, t, rfl, ht, ht⟩

/-- A target that is known is used like one that `cf target` tells, but for its run. -/
theorem reply_of_target? (step : Step) {outcome : Outcome} {t : Target}
    (h : outcome.target? = some t) : step.reply (some t) = step.replyAfter (some outcome) := by
  obtain ⟨script, q⟩ := step
  rw [Step.replyAfter]
  rcases reply_cases q with ⟨x, hx, hreply⟩ | ⟨f, hf, hreply⟩
  · obtain ⟨hruns, hresult⟩ := hx.telling script outcome
    rw [Step.fresh, (hreply _ none).1, (hreply script (some t)).1, Reply.withoutTarget, hruns,
      hresult, List.filter_eq_self.2 fun e he => by simp [hx.isTargetRun_eq_false script e he]]
  · have hfound : (script.telling outcome).found = .ok t := by
      have htold : (script.telling outcome) targetRun = outcome := if_pos rfl
      rw [Script.found, htold]
      exact printed_map_of_target? h
    obtain ⟨hruns, hresult⟩ := (hf (.ok t)).telling script outcome
    rw [((hreply _).1).1, ((hreply script).2 t).1, Reply.withoutTarget, hfound, hruns, hresult]
    have hfilter : (script.runs (f (.ok t))).filter (fun e => !isTargetRun e) =
        script.runs (f (.ok t)) :=
      List.filter_eq_self.2 fun e he => by simp [(hf _).isTargetRun_eq_false script e he]
    exact congrArg (Reply.mk q _) hfilter.symm

/-- What was heard is what the script says. -/
theorem script_of_heard {step : Step} {known : Option Target} {outcome : Outcome}
    (h : heard (step.reply known).runs = some outcome) : step.script targetRun = outcome := by
  obtain ⟨e, he, htells, rfl⟩ := succeeded_of_heard h
  have hscript := outcomeOf_of_mem_history step.script (answer step.query known) e he
  rw [hscript, isTargetRun_iff.1 (Bool.and_eq_true_iff.1 htells).1]

/-- A question hears at most one success of `cf target`. -/
theorem countP_fresh_le (step : Step) : step.fresh.runs.countP tellsTarget ≤ 1 := by
  obtain ⟨script, q⟩ := step
  rcases reply_cases q with ⟨x, hx, hreply⟩ | ⟨f, hf, hreply⟩
  · rw [Step.fresh, (hreply script none).1,
      countP_of_not_isTargetRun (hx.isTargetRun_eq_false script)]
    exact Nat.zero_le 1
  · rw [((hreply script).1).1, List.countP_cons,
      countP_of_not_isTargetRun ((hf _).isTargetRun_eq_false script)]
    split <;> decide

end One

/-! ## Sessions -/

section Sessions

/-- What is known after some questions. -/
def knownThen : Option Target → List Step → Option Target :=
  List.foldl fun known step => step.knownAfter known

theorem session_append (known : Option Target) (before after : List Step) :
    session known (before ++ after) =
      session known before ++ session (knownThen known before) after := by
  induction before generalizing known with
  | nil => rfl
  | cons step before ih =>
    rw [List.cons_append, session, session, ih]
    rfl

theorem knownThen_some (t : Target) (steps : List Step) : knownThen (some t) steps = some t := by
  induction steps with
  | nil => rfl
  | cons step steps ih => rw [knownThen, List.foldl_cons, knownAfter_some, ← knownThen, ih]

theorem isTargetRun_of_session (t : Target) (steps : List Step) :
    ∀ e ∈ runsOf (session (some t) steps), isTargetRun e = false := by
  induction steps with
  | nil => simp [session, runsOf]
  | cons step steps ih =>
    rw [session, runsOf, List.flatMap_cons, List.forall_mem_append, knownAfter_some]
    exact ⟨isTargetRun_of_known step t, ih⟩

/-- What is known after some questions is what was heard first. -/
theorem knownThen_none (steps : List Step) :
    knownThen none steps = (heard (runsOf (session none steps))).bind Outcome.target? := by
  induction steps with
  | nil => rfl
  | cons step steps ih =>
    rw [knownThen, List.foldl_cons, ← knownThen, session, ← Step.fresh, runsOf, List.flatMap_cons,
      heard_append]
    rcases fresh_cases step with ⟨hheard, hknown⟩ | ⟨outcome, t, hheard, ht, hknown⟩
    · rw [hheard, hknown]
      exact ih
    · rw [hheard, hknown, knownThen_some]
      exact ht.symm

/-- `cf target` succeeds at most once. -/
theorem countP_session_le (steps : List Step) :
    (runsOf (session none steps)).countP tellsTarget ≤ 1 := by
  induction steps with
  | nil => decide
  | cons step steps ih =>
    rw [session, ← Step.fresh, runsOf, List.flatMap_cons, List.countP_append, ← runsOf]
    rcases fresh_cases step with ⟨hheard, hknown⟩ | ⟨outcome, t, -, -, hknown⟩
    · rw [countP_of_heard_eq_none hheard, hknown, Nat.zero_add]
      exact ih
    · rw [hknown, countP_of_not_isTargetRun (isTargetRun_of_session t steps)]
      exact countP_fresh_le step

/-- Each reply after others is the one to a question that is asked alone, but for what was heard. -/
theorem session_cons (before : List Step) (step : Step) (after : List Step) :
    ∃ later, session none (before ++ step :: after) = session none before ++
      step.replyAfter (heard (runsOf (session none before))) :: later := by
  refine ⟨session (step.knownAfter (knownThen none before)) after, ?_⟩
  rw [session_append, session, knownThen_none]
  cases hheard : heard (runsOf (session none before)) with
  | none => rfl
  | some outcome =>
    obtain ⟨t, ht⟩ := exists_target_of_heard hheard
    rw [Option.bind_some, ht, reply_of_target? step ht]

/-- What was heard is what `cf target` told in one of the steps. -/
theorem exists_of_heard_session {known : Option Target} {steps : List Step} {outcome : Outcome}
    (h : heard (runsOf (session known steps)) = some outcome) :
    ∃ step ∈ steps, step.script targetRun = outcome := by
  induction steps generalizing known with
  | nil => cases h
  | cons step steps ih =>
    rw [session, runsOf, List.flatMap_cons, heard_append, Option.or_eq_some_iff] at h
    rcases h with h | ⟨-, h⟩
    · exact ⟨step, List.mem_cons_self, script_of_heard h⟩
    · obtain ⟨step', hmem, hscript⟩ := ih h
      exact ⟨step', List.mem_cons_of_mem _ hmem, hscript⟩

theorem result_of_missing {step : Step} {r : Reply} {output label : String}
    (hr : r = step.reply (some (.ofOutput output))) (hnone : labelled? output label = none)
    (hlabel : step.query.label? = some label) : r.result = .error (missingError label) := by
  obtain ⟨script, q⟩ := step
  subst hr
  cases q <;> cases hlabel
  all_goals
    simp only [Step.reply, answer, target, Target.ofOutput, pure_bind, Except.bind, required, hnone]
    rfl

theorem unobservable_replyAfter (before : List Step) (step : Step) :
    Unobservable before step (step.replyAfter (heard (runsOf (session none before)))) where
  same script hscript := by
    cases hheard : heard (runsOf (session none before)) with
    | none => rfl
    | some outcome =>
      rw [List.forall_mem_cons] at hscript
      obtain ⟨s, hs, rfl⟩ := exists_of_heard_session hheard
      rw [Step.replyAfter, hscript.2 s hs, ← hscript.1, telling_self]
      rfl
  changing := rfl
  failed hfailed := by
    cases hheard : heard (runsOf (session none before)) with
    | none => rfl
    | some outcome =>
      obtain ⟨s, hs, rfl⟩ := exists_of_heard_session hheard
      obtain ⟨t, ht⟩ := exists_target_of_heard hheard
      have hsucceeded := hfailed s hs
      rw [succeeded_eq_isSome, ht] at hsucceeded
      cases hsucceeded
  missing outcome output label hheard hprinted hnone hlabel := by
    have ht : outcome.target? = some (.ofOutput output) := by
      rw [Outcome.target?, hprinted]
      rfl
    rw [runsOf, List.flatMap_append, heard_append, ← runsOf] at hheard
    cases hbefore : heard (runsOf (session none before)) with
    | none =>
      rw [hbefore, Option.none_or, List.flatMap_singleton] at hheard
      have hscript : step.script targetRun = outcome := script_of_heard hheard
      have hreply := reply_of_target? step ht
      rw [Step.replyAfter, ← hscript, telling_self] at hreply
      have hresult := result_of_missing hreply.symm hnone hlabel
      exact hresult
    | some outcome' =>
      rw [hbefore, Option.some_or, Option.some_inj] at hheard
      subst hheard
      exact result_of_missing (reply_of_target? step ht).symm hnone hlabel

end Sessions

/-- **What is known of the target is not noticed**: each of the replies to some questions, one after
the other, is that of the question alone but for the runs of `cf target`, which succeeds at most
once. -/
theorem session_unobservable (steps : List Step) :
    (∀ before step after, steps = before ++ step :: after → ∃ r later,
      session none steps = session none before ++ r :: later ∧ Unobservable before step r) ∧
    (runsOf (session none steps)).countP tellsTarget ≤ 1 := by
  refine ⟨?_, countP_session_le steps⟩
  rintro before step after rfl
  obtain ⟨later, hsession⟩ := session_cons before step after
  exact ⟨_, later, hsession, unobservable_replyAfter before step⟩

end ServiceAdmin.Platform
