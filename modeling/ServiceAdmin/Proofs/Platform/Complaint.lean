import ServiceAdmin.Platform.CommandLine
import ServiceAdmin.Proofs.Dialogue
import ServiceAdmin.Proofs.Json.WrittenRecord

/-!
# Complaints of the platform

An answer of the platform's API that tells errors is no data: whatever else it tells, the question
ends with the first error (`refused_of_complaints`).  That holds if every error can be read; where
one cannot, the errors are not noticed, and the answer may be taken for data
(`not_refused_of_errors`).
-/

namespace ServiceAdmin.Platform

open Dialogue Json

variable {α σ : Type} {t : List Char} {body : String}

/-! ## The texts of complaints -/

def Complaint.fields (c : Complaint) : List Field := [
  ⟨"title", IsStringOf c.title, c.title = ""⟩,
  ⟨"detail", IsStringOf c.detail, c.detail = ""⟩]

/-- The bodies of answers that tell these complaints, and anything else besides. -/
def TellsComplaints (complaints : List Complaint) (body : String) : Prop :=
  IsDocument (IsRecordOf
    [⟨"errors", IsListOf (fun c => IsRecordOf c.fields) complaints, complaints = []⟩]) body

/-- What is known of a complaint when these members have been read. -/
def Complaint.part (c : Complaint) (seen : List String) : Complaint where
  title := if "title" ∈ seen then c.title else ""
  detail := if "detail" ∈ seen then c.detail else ""

theorem Complaint.reads {c : Complaint} (h : IsRecordOf c.fields t) :
    Complaint.shape.Reads c t := by
  refine Layout.reads_record c.part rfl ?_ rfl (fun seen hseen => ?_) h
  · refine .cons (Member.fits_free (fun _ => Shape.reads_string) (fun seen => ?_) _)
      (.cons (Member.fits_free (fun _ => Shape.reads_string) (fun seen => ?_) _) .nil)
    all_goals simp [Complaint.part]
  · simp only [Complaint.fields, List.forall_mem_cons] at hseen
    obtain ⟨htitle, hdetail, -⟩ := hseen
    rw [Complaint.part, ite_eq_left_iff.2, ite_eq_left_iff.2]
    · exact fun h => (hdetail.resolve_left h).symm
    · exact fun h => (htitle.resolve_left h).symm

theorem decodeText_of_tellsComplaints {complaints : List Complaint}
    (h : TellsComplaints complaints body) : decodeText complaintsShape body = .ok complaints :=
  decodeText_of_isDocument (h.mono fun _ => Layout.reads_record_of_list fun _ ht =>
    Shape.reads_list (ht.mono fun _ _ => Complaint.reads))

/-- The error of a question that the platform answers with a complaint. -/
def Complaint.error (c : Complaint) : PlatformError := .command "curl" (c.title ++ ": " ++ c.detail)

/-- An answer is taken for data exactly if it can be read as data, and not as complaints. -/
theorem decodeAnswer_eq_ok_iff {shape : Shape α} {path : String} {a : α} :
    decodeAnswer shape path body = .ok a ↔
      (∀ first rest, decodeText complaintsShape body ≠ .ok (first :: rest)) ∧
        decodeText shape body = .ok a := by
  rw [decodeAnswer]
  split
  · next first rest hcomplaints =>
    constructor
    · intro h
      cases h
    · exact fun h => absurd hcomplaints (h.1 first rest)
  · next hnone =>
    cases decodeText shape body with
    | ok b =>
      exact ⟨fun h => ⟨hnone, congrArg _ (Except.ok.inj h)⟩,
        fun h => congrArg _ (Except.ok.inj h.2)⟩
    | error e => exact ⟨nofun, nofun⟩

theorem decodeAnswer_of_tellsComplaints {first : Complaint} {rest : List Complaint}
    (h : TellsComplaints (first :: rest) body) (shape : Shape α) (path : String) :
    decodeAnswer shape path body = .error first.error := by
  rw [decodeAnswer, decodeText_of_tellsComplaints h]
  rfl

/-! ## Courses of commands -/

/-- What was run, and what became of it. -/
abbrev Runs := List (Exchange commandInterface)

/-- A run of `cf` with these arguments. -/
abbrev onRun (args : List String) (outcome : Outcome) : Exchange commandInterface := ⟨args, outcome⟩

/-- Every answer of the API in these runs has this body. -/
def Curled (body : String) (h : Runs) : Prop :=
  ∀ path outcome, onRun ["curl", path] outcome ∈ h → outcome.printed "curl" = .ok body

/-- The runs end with an error, and with `e` if the API was asked. -/
def RefusedBy (e : PlatformError) (h : Runs) (r : Except PlatformError α) : Prop :=
  ∃ e', r = .error e' ∧ ∀ path outcome, onRun ["curl", path] outcome ∈ h → e' = e

/-- One of the arguments has a character that none can have. -/
def HasNul (args : List String) : Prop := args.any (·.toList.contains '\x00') = true

instance (args : List String) : Decidable (HasNul args) := inferInstanceAs (Decidable (_ = true))

theorem cf_of_hasNul {args : List String} (hnul : HasNul args) :
    ∃ e, (cf args).run = .done (.error e) := ⟨_, if_pos hnul⟩

theorem cf_of_not_hasNul {args : List String} (hnul : ¬HasNul args) :
    (cf args).run = .ask (I := commandInterface) args fun outcome =>
      .done (Outcome.printed (args.headD "") outcome) := if_neg hnul

theorem course_cf {args : List String} {h : Runs} {r : Except PlatformError String}
    (hc : (cf args).run.Course h r) :
    (h = [] ∧ ∃ e, r = .error e) ∨
      ∃ outcome, h = [onRun args outcome] ∧ r = outcome.printed (args.headD "") := by
  by_cases hnul : HasNul args
  · obtain ⟨e, hcf⟩ := cf_of_hasNul hnul
    rw [hcf] at hc
    obtain ⟨rfl, rfl⟩ := course_done.1 hc
    exact .inl ⟨rfl, _, rfl⟩
  · rw [cf_of_not_hasNul hnul] at hc
    obtain ⟨outcome, t, rfl, ht⟩ := course_ask.1 hc
    obtain ⟨rfl, rfl⟩ := course_done.1 ht
    exact .inr ⟨outcome, rfl, rfl⟩

/-- The arguments are not those of `cf curl`. -/
def NotCurl (args : List String) : Prop := ∀ path, args ≠ ["curl", path]

theorem asks_cf {P : List String → Prop} {args : List String} (h : P args) :
    (cf args).run.Asks P := by
  by_cases hnul : HasNul args
  · obtain ⟨e, hcf⟩ := cf_of_hasNul hnul
    rw [hcf]
    trivial
  · rw [cf_of_not_hasNul hnul]
    exact ⟨h, fun _ => trivial⟩

theorem asks_target (known : Option Target) : (target known).Asks NotCurl := by
  cases known with
  | some found => trivial
  | none =>
    refine asks_bind (asks_cf (by simp [NotCurl])) fun printed => ?_
    cases printed <;> trivial

theorem not_mem_of_asks {d : Dialogue commandInterface α} {h : Runs} {a : α} (hc : d.Course h a)
    (hd : d.Asks NotCurl) {path : String} {outcome : Outcome} : onRun ["curl", path] outcome ∉ h :=
  fun hmem => hc.asks hd _ hmem path rfl

theorem Curled.left {h h' : Runs} (hcurled : Curled body (h ++ h')) : Curled body h :=
  fun path outcome hmem => hcurled path outcome (List.mem_append_left _ hmem)

theorem Curled.right {h h' : Runs} (hcurled : Curled body (h ++ h')) : Curled body h' :=
  fun path outcome hmem => hcurled path outcome (List.mem_append_right _ hmem)

/-- A command is refused if all its runs are. -/
def Refuses (body : String) (e : PlatformError) (x : Command α) : Prop :=
  ∀ h r, x.run.Course h r → Curled body h → RefusedBy e h r

section Refuses

variable {β : Type} {e : PlatformError} {x : Command α} {f : α → Command β}

theorem refuses_bind (hx : Refuses body e x) : Refuses body e (x >>= f) := by
  intro h r hc hcurled
  rcases course_exceptT_bind.1 hc with ⟨e', hx', rfl⟩ | ⟨a, h₁, h₂, rfl, hx', -⟩
  · obtain ⟨e'', heq, hcurl⟩ := hx h _ hx' hcurled
    cases heq
    exact ⟨e', rfl, hcurl⟩
  · obtain ⟨e', heq, -⟩ := hx h₁ _ hx' hcurled.left
    cases heq

theorem refuses_bind_of_asks (hx : x.run.Asks NotCurl) (hf : ∀ a, Refuses body e (f a)) :
    Refuses body e (x >>= f) := by
  intro h r hc hcurled
  rcases course_exceptT_bind.1 hc with ⟨e', hx', rfl⟩ | ⟨a, h₁, h₂, rfl, hx', hf'⟩
  · exact ⟨e', rfl, fun path outcome hmem => absurd hmem (not_mem_of_asks hx' hx)⟩
  · obtain ⟨e', rfl, hcurl⟩ := hf a h₂ r hf' hcurled.right
    refine ⟨e', rfl, fun path outcome hmem => ?_⟩
    rcases List.mem_append.1 hmem with hmem | hmem
    · exact absurd hmem (not_mem_of_asks hx' hx)
    · exact hcurl path outcome hmem

end Refuses

/-! ## Complaints are errors -/

section Complaints

variable {first : Complaint} {rest : List Complaint}

theorem refuses_curlAs (h : TellsComplaints (first :: rest) body) (shape : Shape α)
    (path : String) : Refuses body first.error (curlAs shape path) := by
  intro runs r hc hcurled
  rcases course_exceptT_bind.1 hc with ⟨e, hcf, rfl⟩ | ⟨printed, h₁, h₂, rfl, hcf, hdecode⟩
  · rcases course_cf hcf with ⟨rfl, -⟩ | ⟨outcome, rfl, heq⟩
    · exact ⟨e, rfl, fun _ _ hmem => absurd hmem List.not_mem_nil⟩
    · have hprinted := hcurled path outcome List.mem_cons_self
      cases heq.trans hprinted
  · obtain ⟨rfl, rfl⟩ := course_done.1 hdecode
    rcases course_cf hcf with ⟨rfl, e, heq⟩ | ⟨outcome, rfl, heq⟩
    · cases heq
    · have hprinted := hcurled path outcome List.mem_cons_self
      cases heq.trans hprinted
      rw [decodeAnswer_of_tellsComplaints h]
      exact ⟨_, rfl, fun _ _ _ => rfl⟩

theorem refuses_findInstance (h : TellsComplaints (first :: rest) body) (name : String) :
    Refuses body first.error (findInstance name) :=
  refuses_bind_of_asks (asks_cf (by simp [NotCurl])) fun _ => refuses_bind (refuses_curlAs h _ _)

theorem refuses_appsOf (h : TellsComplaints (first :: rest) body) (space : String) :
    Refuses body first.error (appsOf space) :=
  refuses_bind_of_asks (asks_cf (by simp [NotCurl])) fun _ => refuses_curlAs h _ _

/-- **Complaints are never taken for a service instance.** -/
theorem refusedBy_of_service (h : TellsComplaints (first :: rest) body) {name : String}
    {known known' : Option Target} {runs : Runs} {r : Except PlatformError Service.Instance}
    (hc : (answer (.service name) known).Course runs (r, known')) (hcurled : Curled body runs) :
    RefusedBy first.error runs r := by
  obtain ⟨found, h₁, h₂, rfl, hfound, hend⟩ := course_bind.1 hc
  obtain ⟨rfl, heq⟩ := course_done.1 hend
  cases heq
  rw [List.append_nil] at hcurled ⊢
  exact refuses_findInstance h name _ _ hfound hcurled

/-- **Complaints are never taken for applications.** -/
theorem refusedBy_of_apps (h : TellsComplaints (first :: rest) body)
    {known known' : Option Target} {runs : Runs} {r : Except PlatformError (List Service.App)}
    (hc : (answer .apps known).Course runs (r, known')) (hcurled : Curled body runs) :
    RefusedBy first.error runs r := by
  obtain ⟨⟨found, known⟩, h₁, h₂, rfl, htarget, hc⟩ := course_bind.1 hc
  have hnone {path : String} {outcome : Outcome} : onRun ["curl", path] outcome ∉ h₁ :=
    not_mem_of_asks htarget (asks_target _)
  dsimp only at hc
  split at hc
  · next e he =>
    obtain ⟨rfl, heq⟩ := course_done.1 hc
    cases heq
    refine ⟨e, rfl, fun path outcome hmem => ?_⟩
    rw [List.append_nil] at hmem
    exact absurd hmem hnone
  · next space hspace =>
    obtain ⟨apps, h₃, h₄, rfl, happs, hend⟩ := course_bind.1 hc
    obtain ⟨rfl, heq⟩ := course_done.1 hend
    cases heq
    rw [List.append_nil] at hcurled ⊢
    obtain ⟨e, rfl, hcurl⟩ := refuses_appsOf h space _ _ happs hcurled.right
    refine ⟨e, rfl, fun path outcome hmem => ?_⟩
    rcases List.mem_append.1 hmem with hmem | hmem
    · exact absurd hmem hnone
    · exact hcurl path outcome hmem

end Complaints

/-- A platform whose API answers every path with this body. -/
def Answers (body : String) (cf : Handler commandInterface σ) : Prop :=
  ∀ path st, (cf ["curl", path] st).1.printed "curl" = .ok body

theorem curled_history {cf : Handler commandInterface σ} (hcf : Answers body cf) {γ : Type}
    (d : Dialogue commandInterface γ) (st : σ) : Curled body (d.history cf st) := by
  induction d generalizing st with
  | done a => exact fun _ _ hmem => absurd hmem List.not_mem_nil
  | ask q next ih =>
    intro path outcome hmem
    rcases List.mem_cons.1 hmem with heq | hmem
    · cases heq
      exact hcf path st
    · exact ih _ _ path outcome hmem

/-- **A platform that complains is never taken to answer**: the questions for a service instance
and for the applications end with an error, which is the first complaint if the API was asked. -/
theorem refused_of_complaints (first : Complaint) (rest : List Complaint) (body : String)
    (h : TellsComplaints (first :: rest) body) (cf : Handler commandInterface σ)
    (hcf : Answers body cf) (name : String) (known : Option Target) (st : σ) :
    let service := answer (.service name) known
    let apps := answer .apps known
    RefusedBy first.error (service.history cf st) (service.run cf st).1.1 ∧
      RefusedBy first.error (apps.history cf st) (apps.run cf st).1.1 := by
  intro service apps
  exact ⟨refusedBy_of_service h (course_run cf service st) (curled_history hcf service st),
    refusedBy_of_apps h (course_run cf apps st) (curled_history hcf apps st)⟩

/-- A platform whose API answers with this body, and that prints a GUID whatever else it is
asked. -/
def printing (body : String) : Handler commandInterface Unit := fun args st =>
  (.exited 0 (Text.Utf8.encode (if args.headD "" = "curl" then body else "g1")) [], st)

theorem printed_encode (body : String)
    (h : Text.Utf8.decode? (Text.Utf8.encode body) = .ok body) (verb : String) :
    (Outcome.exited 0 (Text.Utf8.encode body) []).printed verb = .ok body := by
  rw [Outcome.printed, if_pos rfl, h]
  rfl

def notFound : Complaint := ⟨"CF-NotFound", "not found"⟩

/-- A complaint with a code, beside what would be data. -/
def notFoundBody : String :=
  "\x7b\"errors\":[\x7b\"code\":10010,\"title\":\"CF-NotFound\",\"detail\":\"not found\"\x7d]," ++
    "\"guid\":\"g1\"\x7d"

theorem tellsComplaints_notFoundBody : TellsComplaints [notFound] notFoundBody := by
  let entry : List (String × List Char) := [("code", ['1', '0', '0', '1', '0']),
    ("title", writeString notFound.title), ("detail", writeString notFound.detail)]
  have hcode : IsValue ['1', '0', '0', '1', '0'] :=
    isValue_of_isWhole (.digits (by decide) ⟨by decide, by decide⟩)
  have hentry : IsRecordOf notFound.fields (plainObject entry) := by
    refine ⟨entry, isObjectOf_plainObject _, ?_, by simp [entry, Complaint.fields, hcode]⟩
    simp only [Complaint.fields, List.forall_mem_cons, List.not_mem_nil, false_imp_iff,
      implies_true, and_true]
    exact ⟨.once (isStringOf_writeString _), .once (isStringOf_writeString _)⟩
  refine ⟨[], _, [], blank_nil, ⟨[("errors", plainList [plainObject entry]),
    ("guid", writeString "g1")], isObjectOf_plainObject _, List.forall_mem_singleton.2 ?_, ?_⟩,
    blank_nil, by decide +kernel⟩
  · exact .once (isListOf_plainList (.cons hentry .nil))
  · simp [isValue_writeString]

theorem refused_of_not_found :
    TellsComplaints [notFound] notFoundBody ∧ Answers notFoundBody (printing notFoundBody) ∧
      let service := answer (.service "config") none
      let apps := answer .apps none
      RefusedBy notFound.error (service.history (printing notFoundBody) ())
          (service.run (printing notFoundBody) ()).1.1 ∧
        RefusedBy notFound.error (apps.history (printing notFoundBody) ())
          (apps.run (printing notFoundBody) ()).1.1 := by
  have hcf : Answers notFoundBody (printing notFoundBody) :=
    fun _ _ => printed_encode notFoundBody (by decide +kernel) "curl"
  exact ⟨tellsComplaints_notFoundBody, hcf,
    refused_of_complaints notFound [] _ tellsComplaints_notFoundBody _ hcf "config" none ()⟩

/-! ### Errors that cannot be read -/

/-- The texts of a list of any values, but not of none. -/
def IsNonemptyList (t : List Char) : Prop :=
  ∃ items, items ≠ [] ∧ (∀ i ∈ items, IsValue i) ∧ Enclosed '[' ']' items t

/-- The bodies of answers that tell errors of any kind, and anything else besides. -/
def TellsErrors (body : String) : Prop :=
  IsDocument (IsRecordOf [⟨"errors", IsNonemptyList, False⟩]) body

/-- An error whose detail is `null`. -/
def untoldBody : String := "\x7b\"errors\":[\x7b\"title\":\"CF-X\",\"detail\":null\x7d]\x7d"

def untoldError : List Char :=
  plainObject [("title", writeString "CF-X"), ("detail", ['n', 'u', 'l', 'l'])]

theorem isDocument_untoldBody {written : List Char → Prop}
    (h : written (plainObject [("errors", plainList [untoldError])])) :
    IsDocument written untoldBody :=
  ⟨[], _, [], blank_nil, h, blank_nil, by decide +kernel⟩

theorem isValue_untoldError : IsValue untoldError := by
  refine isValue_plainObject ?_
  rw [List.forall_mem_cons, List.forall_mem_singleton]
  exact ⟨isValue_writeString "CF-X", .scalar (.word (by decide))⟩

theorem tellsErrors_untoldBody : TellsErrors untoldBody := by
  refine isDocument_untoldBody
    ⟨_, isObjectOf_plainObject _, List.forall_mem_singleton.2 ?_, by simp⟩
  exact .once ⟨[untoldError], List.cons_ne_nil _ _, List.forall_mem_singleton.2 isValue_untoldError,
    enclosed_intercalate _ _ _⟩

/-- The body is read as a list of no applications. -/
theorem decodeText_untoldBody : decodeText appsShape untoldBody = .ok [] := by
  have htext : IsRecordOf [⟨"resources", fun _ => False, ([] : List Service.App) = []⟩]
      (plainObject [("errors", plainList [untoldError])]) := by
    have hvalue := isValue_plainList (List.forall_mem_singleton.2 isValue_untoldError)
    exact ⟨_, isObjectOf_plainObject _, List.forall_mem_singleton.2 (.leftOut rfl),
      List.forall_mem_singleton.2 fun _ => hvalue⟩
  exact decodeText_of_isDocument
    (isDocument_untoldBody (Layout.reads_record_of_list (fun _ => False.elim) htext))

theorem decodeAnswer_untoldBody (path : String) :
    decodeAnswer appsShape path untoldBody = .ok [] := by
  refine decodeAnswer_eq_ok_iff.2 ⟨fun first rest hcomplaints => ?_, decodeText_untoldBody⟩
  have hnone : (decodeText complaintsShape untoldBody).toOption = none := by decide +kernel
  rw [hcomplaints] at hnone
  cases hnone

theorem run_cf {args : List String} (hnul : ¬HasNul args) (handler : Handler commandInterface σ)
    (st : σ) : (cf args).run.run handler st =
      ((handler args st).1.printed (args.headD ""), [args], (handler args st).2) := by
  rw [cf_of_not_hasNul hnul]
  rfl

/-- The target of a user in the space `dev`. -/
def inDev : Target := ⟨none, none, none, some "dev"⟩

theorem apps_untoldBody :
    ((answer .apps (some inDev)).run (printing untoldBody) ()).1.1 = .ok [] := by
  have hguid : (cf ["space", "dev", "--guid"]).run.run (printing untoldBody) () =
      (.ok "g1", [["space", "dev", "--guid"]], ()) := by
    rw [run_cf (by decide +kernel)]
    exact congrArg (·, _) (printed_encode "g1" (by decide +kernel) _)
  have hbody : (cf ["curl", appsPath (Text.trim "g1")]).run.run (printing untoldBody) () =
      (.ok untoldBody, [["curl", appsPath (Text.trim "g1")]], ()) := by
    rw [run_cf (by decide +kernel)]
    exact congrArg (·, _) (printed_encode untoldBody (by decide +kernel) _)
  have happs : (appsOf "dev").run.run (printing untoldBody) () =
      (.ok [], [["space", "dev", "--guid"], ["curl", appsPath (Text.trim "g1")]], ()) := by
    rw [appsOf, run_exceptT_bind_of_ok hguid, curlAs, run_exceptT_bind_of_ok hbody,
      decodeAnswer_untoldBody]
    rfl
  have hanswer : answer .apps (some inDev) =
      (appsOf "dev").run.bind fun found => .done (found, some inDev) := rfl
  rw [hanswer, run_bind, happs]
  rfl

/-- An answer whose errors cannot be read is taken for a list of no applications. -/
theorem not_refused_of_errors : ¬ ∀ body, TellsErrors body →
    ∀ cf : Handler commandInterface Unit, Answers body cf → ∀ name known,
      (∃ e, ((answer (.service name) known).run cf ()).1.1 = .error e) ∧
        ∃ e, ((answer .apps known).run cf ()).1.1 = .error e := by
  intro h
  have hcf : Answers untoldBody (printing untoldBody) :=
    fun _ _ => printed_encode untoldBody (by decide +kernel) "curl"
  obtain ⟨-, e, he⟩ := h _ tellsErrors_untoldBody _ hcf "config" (some inDev)
  rw [apps_untoldBody] at he
  cases he

end ServiceAdmin.Platform
