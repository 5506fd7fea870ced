import ServiceAdmin.Program.Run
import ServiceAdmin.Proofs.Program.Announced

/-!
# The conduct of the program

What every run of the program keeps to (`run_conduct`): what cannot be carried out is refused before
`cf` is run or a message is sent, the exit status tells whether a failure stands behind the log, a
failed run has printed nothing but what it announced, and a command that announces nothing prints
its output.  What the log has is up to its filter; unless one is set, it has the warnings, so that
also a run that succeeds may print errors (`not_success_iff_no_errors`).

`Follows` says how what a command line asks for can go, and `Runs` how the whole program can; each
of the statements is read off their cases.
-/

namespace ServiceAdmin.Program

open Dialogue Service

variable {env : Environment} {tree : FileTree} {words : List String} {h : Session}

/-! ## Output -/

/-- A text with a line end, unless it is empty or has one. -/
def lineEnded (output : String) : String :=
  if output = "" ∨ output.toList.getLast? = some '\n' then output else output ++ "\n"

theorem course_print {text : String} {u : Unit} :
    (print text).Course h u ↔ h = [onPrint text] := course_query

theorem stdout_onPrint (text : String) : stdout [onPrint text] = text := String.append_empty

theorem stdout_of_printOutput {output : String} {u : Unit} (hc : (printOutput output).Course h u) :
    stdout h = lineEnded output := by
  rw [printOutput] at hc
  rw [lineEnded]
  split at hc
  · next hlast =>
    obtain ⟨rfl, -⟩ := course_done.1 hc
    obtain rfl : output = "" := String.toList_eq_nil_iff.1 (List.getLast?_eq_none_iff.1 hlast)
    rfl
  · next hlast =>
    rw [course_print.1 hc, stdout_onPrint, if_pos (.inr hlast)]
  · next c hother hlast =>
    have hne : ¬(output = "" ∨ output.toList.getLast? = some '\n') := by
      rintro (rfl | hline)
      · cases hlast
      · exact hother (Option.some.inj (hlast.symm.trans hline))
    rw [course_print.1 hc, stdout_onPrint, if_neg hne]

theorem calm_of_printOutput {output : String} {u : Unit} (hc : (printOutput output).Course h u) :
    Offline h ∧ warnings h = [] := by
  rw [printOutput] at hc
  split at hc
  · obtain ⟨rfl, -⟩ := course_done.1 hc
    exact ⟨offline_nil, rfl⟩
  all_goals
    rw [course_print.1 hc]
    exact ⟨List.forall_mem_singleton.2 trivial, rfl⟩

/-! ## Invocations that are refused -/

/-- The text to encrypt is not given or cannot be read, or the operation does not pass its check. -/
inductive Invocation.Unfit (tree : FileTree) (i : Invocation) : Prop
  | nothingToEncrypt (htask : i.task = .encrypt none none)
  | unreadableFile {value : Option String} {path : String} {fault : ReadFault}
    (htask : i.task = .encrypt value (some path)) (hfile : tree.read path = .error fault)
  | invalid {operation : Operation} {e : ValidationError} (hasked : i.asked tree = .ok operation)
    (hcheck : operation.validate = .error e)

section Unfit

variable {i : Invocation} {zone : Report.Zone} {hostPrefix : String} {operation : Operation}

theorem isOperation_of_asked (hasked : i.asked tree = .ok operation) : i.task.IsOperation := by
  obtain ⟨command, service, skips, task⟩ := i
  cases task with
  | operation _ | encrypt _ _ => trivial
  | registryInfo | registryList | registryAction _ _ _ => cases hasked

/-- Only operations are unfit. -/
theorem Invocation.Unfit.isOperation (hunfit : i.Unfit tree) : i.task.IsOperation := by
  cases hunfit with
  | nothingToEncrypt htask => rw [htask]; trivial
  | unreadableFile htask hfile => rw [htask]; trivial
  | invalid hasked hcheck => exact isOperation_of_asked hasked

/-- An operation that is asked for by an unfit invocation does not pass its check. -/
theorem Invocation.Unfit.not_valid (hunfit : i.Unfit tree) (hasked : i.asked tree = .ok operation) :
    ∃ e, operation.validate = .error e := by
  cases hunfit with
  | nothingToEncrypt htask =>
    rw [Invocation.asked, htask] at hasked
    cases hasked
  | unreadableFile htask hfile =>
    simp only [Invocation.asked, htask, sourceOf, hfile] at hasked
    cases hasked
  | invalid hasked' hcheck =>
    obtain rfl := Except.ok.inj (hasked.symm.trans hasked')
    exact ⟨_, hcheck⟩

/-- An operation that does not pass its check fails at once. -/
theorem course_operate_of_invalid {service : String} {asked : History} {r : Except Error String}
    {e : ValidationError} (hcheck : operation.validate = .error e)
    (hc : (operate zone hostPrefix service operation).run.Course asked r) :
    asked = [] ∧ r = .error (.validation e) := by
  have hview : operation ≠ .view := by
    rintro rfl
    cases hcheck
  rw [operate_of_ne_view hview, Service.perform, hcheck, course_ofExcept_bind] at hc
  exact course_done.1 hc

/-- **An unfit invocation fails, and has only read files.** -/
theorem onlyReads_of_unfit {r : Except Failure String}
    (hc : (i.perform zone hostPrefix).run.Course h r) (hreads : ReadsFrom tree h)
    (hunfit : i.Unfit tree) : OnlyReads h ∧ ∃ failure, r = .error failure := by
  rcases course_perform hc hreads hunfit.isOperation with ⟨honly, e, -, rfl⟩ |
    ⟨operation, before, during, found, hasked, rfl, honly, hduring, rfl⟩
  · exact ⟨honly, _, rfl⟩
  · obtain ⟨e, hcheck⟩ := hunfit.not_valid hasked
    obtain ⟨asked, known, hcourse, hcarried, -⟩ := exists_of_course_carryOut hduring
    obtain ⟨rfl, rfl⟩ := course_operate_of_invalid hcheck hcourse
    obtain ⟨rfl, -⟩ := carried_nil.1 hcarried
    exact ⟨by rwa [List.append_nil], _, rfl⟩

end Unfit

/-! ## How a run goes -/

/-- How what a command line asks for goes. -/
inductive Follows (env : Environment) (tree : FileTree) (m : Arguments.Match) :
    Session → Except Failure Unit → Prop
  | unknown {e : CommandError} : Invocation.ofMatch m = .error e →
    Follows env tree m [] (.error (.command e))
  | unconfigured {i : Invocation} {h : Session} {e : ConfigError} :
    Invocation.ofMatch m = .ok i → Config.load env tree = .error e → OnlyReads h →
    Follows env tree m h (.error (.config e))
  | failed {i : Invocation} {config : Config} {before during : Session} {failure : Failure} :
    Invocation.ofMatch m = .ok i → Config.load env tree = .ok config → OnlyReads before →
    ReadsFrom tree during →
    (i.perform env.zone config.brokerHostPrefix).run.Course during (.error failure) →
    Follows env tree m (before ++ (onWarn i.warning? ++ during)) (.error failure)
  | finished {i : Invocation} {config : Config} {before during after : Session} {output : String} :
    Invocation.ofMatch m = .ok i → Config.load env tree = .ok config → OnlyReads before →
    ReadsFrom tree during →
    (i.perform env.zone config.brokerHostPrefix).run.Course during (.ok output) →
    Offline after → warnings after = [] → stdout after = lineEnded output →
    Follows env tree m (before ++ (onWarn i.warning? ++ (during ++ after))) (.ok ())

theorem follows_of_course {m : Arguments.Match} {r : Except Failure Unit}
    (hc : (follow env m).run.Course h r) (hreads : ReadsFrom tree h) : Follows env tree m h r := by
  rcases course_failWith_bind.1 hc with ⟨e, hfound, rfl⟩ | ⟨i, h₁, h₂, rfl, hfound, hrun⟩
  · obtain ⟨rfl, hi⟩ := course_done.1 hfound
    exact .unknown hi.symm
  obtain ⟨rfl, hi⟩ := course_done.1 hfound
  rw [List.nil_append] at hreads ⊢
  rcases course_failWith_bind.1 hrun with ⟨e, hconfig, rfl⟩ |
    ⟨config, before, h₃, rfl, hconfig, hwarned⟩
  · obtain ⟨honly, hload⟩ := course_loadConfig hconfig hreads
    exact .unconfigured hi.symm hload.symm honly
  obtain ⟨honly, hload⟩ := course_loadConfig hconfig hreads.left
  obtain ⟨u, noted, h₆, rfl, hwarn, hperform⟩ := course_lift_bind.1 hwarned
  obtain rfl := course_warn.1 hwarn
  replace hreads := hreads.right.right
  rcases course_exceptT_bind.1 hperform with ⟨failure, hfailed, rfl⟩ |
    ⟨output, during, after, rfl, hperformed, hlast⟩
  · exact .failed hi.symm hload.symm honly hreads hfailed
  · obtain ⟨u, h₄, h₅, rfl, hprint, hend⟩ := Dialogue.course_bind.1 hlast
    obtain ⟨rfl, rfl⟩ := course_done.1 hend
    rw [List.append_nil]
    obtain ⟨hoffline, hcalm⟩ := calm_of_printOutput hprint
    exact .finished hi.symm hload.symm honly hreads.left hperformed hoffline hcalm
      (stdout_of_printOutput hprint)

/-- A run fails with the failure. -/
inductive FailsWith (env : Environment) (words : List String) : Session → Failure → Prop
  | misread {halt : Arguments.Halt} : grammar.read words = .error halt → halt.isWanted = false →
    FailsWith env words [] (.arguments halt)
  | followed {m : Arguments.Match} {h : Session} {failure : Failure} :
    grammar.read words = .ok m → (follow env m).run.Course h (.error failure) →
    FailsWith env words h failure

/-- How a run of the program goes. -/
inductive Runs (env : Environment) (words : List String) : Session → Ending → Prop
  | answered {halt : Arguments.Halt} : grammar.read words = .error halt → halt.isWanted = true →
    Runs env words [onPrint (halt.text grammar ++ "\n")] .success
  | followed {m : Arguments.Match} {h : Session} : grammar.read words = .ok m →
    (follow env m).run.Course h (.ok ()) → Runs env words h .success
  | failed {h : Session} {failure : Failure} : FailsWith env words h failure →
    Runs env words h (.failure failure.message)

theorem runs_of_course {ending : Ending} (hc : (run env words).Course h ending) :
    Runs env words h ending := by
  rw [run] at hc
  split at hc
  · next halt hread =>
    split at hc
    · next hwanted =>
      obtain ⟨u, h₁, h₂, rfl, hprint, hend⟩ := Dialogue.course_bind.1 hc
      obtain ⟨rfl, rfl⟩ := course_done.1 hend
      obtain rfl := course_print.1 hprint
      exact .answered hread hwanted
    · next hwanted =>
      obtain ⟨rfl, rfl⟩ := course_done.1 hc
      exact .failed (.misread hread (Bool.eq_false_iff.2 hwanted))
  · next m hread =>
    obtain ⟨r, h₁, h₂, rfl, hfollow, hend⟩ := Dialogue.course_bind.1 hc
    cases r with
    | ok u =>
      obtain ⟨rfl, rfl⟩ := course_done.1 hend
      rw [List.append_nil]
      exact .followed hread hfollow
    | error failure =>
      obtain ⟨rfl, rfl⟩ := course_done.1 hend
      rw [List.append_nil]
      exact .failed (.followed hread hfollow)

/-! ## Errors -/

/-- The line that says that the program failed, in bold, and in red unless colours are turned off.
-/
inductive IsFailedLine (env : Environment) : String → Prop
  | plain {value : String} (hvalue : env.lookup "NO_COLOR" = some value) (hne : value ≠ "") :
      IsFailedLine env "\x1b[m\x1b[1mFAILED\x1b[0m\n"
  | red (hnone : ∀ value, env.lookup "NO_COLOR" = some value → value = "") :
      IsFailedLine env "\x1b[38;5;9m\x1b[1mFAILED\x1b[0m\n"

theorem isFailedLine (env : Environment) : IsFailedLine env (Ending.failedLine env) := by
  rw [Ending.failedLine]
  cases hlookup : env.lookup "NO_COLOR" with
  | none => exact .red fun value hvalue => by cases hlookup.symm.trans hvalue
  | some value =>
    by_cases hempty : value = ""
    · subst hempty
      exact .red fun value hvalue => (Option.some.inj (hlookup.symm.trans hvalue)).symm
    · have hplain : (some value).any (· ≠ "") = true := by simpa using hempty
      rw [hplain]
      exact .plain hlookup hempty

/-- What the message of a failure says. -/
inductive Failure.Says : Failure → String → Prop
  | arguments (halt : Arguments.Halt) : Says (.arguments halt) (halt.text grammar)
  | unknownCommand (name : String) :
    Says (.command (.unknownCommand name)) ("unknown command: " ++ name)
  | unreadableFile (path : String) (fault : ReadFault) :
    Says (.command (.unreadableFile path fault))
      ("Error reading file " ++ path ++ ": " ++ fault.message)
  | nothingToEncrypt :
    Says (.command .nothingToEncrypt) "Either a value or --file-to-encrypt must be given"
  | unreadableConfig (path : String) (fault : ReadFault) :
    Says (.config (.unreadable path fault))
      ("configuration I/O error for " ++ path ++ ": " ++ fault.message)
  | invalidConfig (path reason : String) :
    Says (.config (.invalid path reason))
      ("configuration file " ++ path ++ " is invalid: " ++ reason)
  | action (e : Error) : Says (.action e) e.message

theorem Failure.says_message (failure : Failure) : failure.Says failure.message := by
  cases failure with
  | arguments halt => exact .arguments halt
  | command e =>
    cases e with
    | unknownCommand name => exact .unknownCommand name
    | unreadableFile path fault => exact .unreadableFile path fault
    | nothingToEncrypt => exact .nothingToEncrypt
  | config e =>
    cases e with
    | unreadable path fault =>
      have hmessage : (ConfigError.unreadable path fault).message =
          "configuration I/O error for " ++ path ++ ": " ++ fault.message := by
        unfold ConfigError.message
        simp only [toString]
      rw [message, hmessage]
      exact .unreadableConfig path fault
    | invalid path reason =>
      have hmessage : (ConfigError.invalid path reason).message =
          "configuration file " ++ path ++ " is invalid: " ++ reason := by
        unfold ConfigError.message
        simp only [toString]
      rw [message, hmessage]
      exact .invalidConfig path reason
  | action e => exact .action e

theorem errors_failure (env : Environment) (message : String) :
    (Ending.failure message).errors env = Ending.failedLine env ++ message ++ "\n" ++
      match Diagnostics.hint? message with
      | some hint => hint ++ "\n"
      | none => "" := rfl

theorem errors_failure_ne_empty (env : Environment) (message : String) :
    (Ending.failure message).errors env ≠ "" := by
  rw [errors_failure]
  simp only [ne_eq, String.append_eq_empty_iff, not_and]
  exact fun h => absurd h.2 (by decide)

section Log

variable {log : Log} {asked : List Query}

/-- The text has an entry for each warning, with what it says, and nothing else. -/
inductive Logs : List Warning → String → Prop
  | nil : Logs [] ""
  | cons {w : Warning} {ws : List Warning} {entry text : String}
      (hentry : w.message.toList <:+: entry.toList) (hrest : Logs ws text) :
      Logs (w :: ws) (entry ++ text)

/-- The log of a program for which no filter is set; what else the program uses warns of nothing. -/
def Log.IsDefault (log : Log) : Prop :=
  ∀ h : Session, Logs (warnings h) (log (h.map Exchange.question))

theorem Warning.message_ne_empty (w : Warning) : w.message ≠ "" := by
  cases w <;> simp [message]

theorem stderr_success : stderr log env asked .success = log asked := String.append_empty

theorem stderr_eq_log_iff {ending : Ending} :
    stderr log env asked ending = log asked ↔ ending.errors env = "" := by
  rw [stderr, ← String.toList_inj, String.toList_append, List.append_right_eq_self,
    String.toList_eq_nil_iff]

theorem Log.IsDefault.eq_empty_iff (hlog : log.IsDefault) (h : Session) :
    log (h.map Exchange.question) = "" ↔ warnings h = [] := by
  have hlogs := hlog h
  generalize log (h.map Exchange.question) = text at hlogs ⊢
  generalize warnings h = ws at hlogs ⊢
  cases hlogs with
  | nil => exact iff_of_true rfl rfl
  | @cons w ws entry text hentry _ =>
    refine iff_of_false (fun hempty => ?_) (List.cons_ne_nil w ws)
    rw [(String.append_eq_empty_iff.1 hempty).1] at hentry
    exact w.message_ne_empty (String.toList_eq_nil_iff.1 (List.infix_nil.1 hentry))

end Log

/-! ## The conduct of a run -/

/-- The command line asks for the invocation. -/
def Requests (words : List String) (i : Invocation) : Prop :=
  ∃ m, grammar.read words = .ok m ∧ Invocation.ofMatch m = .ok i

/-- Nothing can be carried out, whatever the platform and the network would answer. -/
inductive Refused (env : Environment) (tree : FileTree) (words : List String) : Prop
  | misread {halt : Arguments.Halt} (hread : grammar.read words = .error halt)
  | unconfigured {e : ConfigError} (hload : Config.load env tree = .error e)
  | unfit {i : Invocation} (hi : Requests words i) (hunfit : i.Unfit tree)

/-- The lines are what the command line's task announces, as far as it was come to. -/
def Announced (words : List String) (lines : List String) : Prop :=
  lines = [] ∨ ∃ i, Requests words i ∧ i.task.Announces i.service lines

/-- The output is what the operation of the invocation gives, as it is carried out in the session
after files were read. -/
def Outputs (env : Environment) (tree : FileTree) (i : Invocation) (h : Session)
    (output : String) : Prop :=
  ∃ config operation first second during after,
    h = first ++ (onWarn i.warning? ++ (second ++ (during ++ after))) ∧ OnlyReads first ∧
    OnlyReads second ∧ Config.load env tree = .ok config ∧ i.asked tree = .ok operation ∧
    (carryOut (Service.perform env.zone config.brokerHostPrefix i.service operation)).Course during
      (.ok output)

/-- The certificates of peers are not verified, and the run comes so far that this counts. -/
def Unverified (env : Environment) (tree : FileTree) (words : List String) : Prop :=
  ∃ i config, Requests words i ∧ i.skipSslValidation = true ∧ Config.load env tree = .ok config

/-- The run warns that certificates are not verified, and then of each request and of a listing of
applications that fails, and of nothing else. -/
def Warned (env : Environment) (tree : FileTree) (words : List String) (h : Session) : Prop :=
  ∃ asked, CarriesOut h asked ∧
    (Unverified env tree words →
      warnings h = .validationDisabled :: asked.flatMap warningsOf) ∧
    (¬ Unverified env tree words → warnings h = asked.flatMap warningsOf)

section Parts

variable {m : Arguments.Match} {i : Invocation} {ending : Ending}

theorem Requests.eq (hi : Requests words i) (hread : grammar.read words = .ok m) {j : Invocation}
    (hj : Invocation.ofMatch m = .ok j) : i = j := by
  obtain ⟨m', hread', hi⟩ := hi
  obtain rfl := Except.ok.inj (hread.symm.trans hread')
  exact Except.ok.inj (hi.symm.trans hj)

/-- What is refused with a configuration is unfit. -/
theorem Refused.unfit_of_load {config : Config} (hrefused : Refused env tree words)
    (hread : grammar.read words = .ok m) (hi : Invocation.ofMatch m = .ok i)
    (hload : Config.load env tree = .ok config) : i.Unfit tree := by
  cases hrefused with
  | misread hread' => cases hread.symm.trans hread'
  | unconfigured hload' => cases hload.symm.trans hload'
  | unfit hj hunfit => rwa [← hj.eq hread hi]

theorem offline_of_follows {r : Except Failure Unit} (hrefused : Refused env tree words)
    (hread : grammar.read words = .ok m) (hf : Follows env tree m h r) : Offline h := by
  cases hf with
  | unknown hi => exact offline_nil
  | unconfigured hi hload honly => exact honly.offline
  | failed hi hload honly hreads hperform =>
    have hunfit := hrefused.unfit_of_load hread hi hload
    exact honly.offline.append
      ((offline_onWarn _).append (onlyReads_of_unfit hperform hreads hunfit).1.offline)
  | finished hi hload honly hreads hperform =>
    have hunfit := hrefused.unfit_of_load hread hi hload
    obtain ⟨-, failure, heq⟩ := onlyReads_of_unfit hperform hreads hunfit
    cases heq

theorem offline_of_runs (hruns : Runs env words h ending) (hreads : ReadsFrom tree h)
    (hrefused : Refused env tree words) : Offline h := by
  cases hruns with
  | answered hread hwanted =>
    intro x hx
    rw [List.mem_singleton.1 hx]
    trivial
  | followed hread hc => exact offline_of_follows hrefused hread (follows_of_course hc hreads)
  | failed hfails =>
    cases hfails with
    | misread hread hwanted => exact offline_nil
    | followed hread hc => exact offline_of_follows hrefused hread (follows_of_course hc hreads)

theorem announced_of_follows {failure : Failure} (hread : grammar.read words = .ok m)
    (hf : Follows env tree m h (.error failure)) :
    ∃ lines, Announced words lines ∧ stdout h = lineText lines := by
  cases hf with
  | unknown hi => exact ⟨[], .inl rfl, rfl⟩
  | unconfigured hi hload honly => exact ⟨[], .inl rfl, honly.stdout⟩
  | @failed i _ _ _ _ hi hload honly hreads hperform =>
    obtain ⟨asked, hreports, hlines⟩ := reports_of_perform hperform hreads
    refine ⟨shown asked, .inr ⟨i, ⟨m, hread, hi⟩, hlines⟩, ?_⟩
    rw [stdout_append, stdout_append, honly.stdout, stdout_onWarn, hreports.stdout,
      String.empty_append, String.empty_append]

theorem FailsWith.announced {failure : Failure} (hfails : FailsWith env words h failure)
    (hreads : ReadsFrom tree h) : ∃ lines, Announced words lines ∧ stdout h = lineText lines := by
  cases hfails with
  | misread hread hwanted => exact ⟨[], .inl rfl, rfl⟩
  | followed hread hc => exact announced_of_follows hread (follows_of_course hc hreads)

/-- A quiet invocation that is carried out has printed nothing yet. -/
theorem stdout_of_quiet {zone : Report.Zone} {hostPrefix output : String}
    (hc : (i.perform zone hostPrefix).run.Course h (.ok output)) (hreads : ReadsFrom tree h)
    (hquiet : i.task.IsQuiet) :
    ∃ operation before during, h = before ++ during ∧ OnlyReads before ∧
      i.asked tree = .ok operation ∧ stdout during = "" ∧
        (carryOut (Service.perform zone hostPrefix i.service operation)).Course during
          (.ok output) := by
  rcases course_perform hc hreads hquiet.isOperation with ⟨-, e, -, heq⟩ |
    ⟨operation, before, during, found, hasked, rfl, honly, hduring, heq⟩
  · cases heq
  obtain rfl := ok_of_mapError_eq_ok heq.symm
  rw [operate_of_ne_view (ne_view_of_isQuiet hasked hquiet)] at hduring
  obtain ⟨asked, hcourse, hreports⟩ := reports_of_carryOut hduring
  have hstdout := hreports.stdout
  rw [shown_of_asks hcourse (asks_perform _ _)] at hstdout
  exact ⟨operation, before, during, rfl, honly, hasked, hstdout, hduring⟩

theorem outputs_of_runs (hruns : Runs env words h .success) (hreads : ReadsFrom tree h)
    (hi : Requests words i) (hquiet : i.task.IsQuiet) :
    ∃ output, Outputs env tree i h output ∧ stdout h = lineEnded output := by
  cases hruns with
  | answered hread hwanted =>
    obtain ⟨m, hread', -⟩ := hi
    cases hread'.symm.trans hread
  | followed hread hc =>
    cases follows_of_course hc hreads with
    | @finished _ config first performed printed output hj hload honly htree hperform _ _ hout =>
      obtain rfl := hi.eq hread hj
      obtain ⟨operation, second, during, rfl, hsecond, hasked, hsilent, hduring⟩ :=
        stdout_of_quiet hperform htree hquiet
      refine ⟨output, ⟨config, operation, first, second, during, printed, ?_, honly, hsecond,
        hload, hasked, hduring⟩, ?_⟩
      · rw [List.append_assoc second]
      · rw [stdout_append, stdout_append, stdout_append, stdout_append, honly.stdout,
          stdout_onWarn, hsecond.stdout, hsilent, hout]
        simp only [String.empty_append]

/-- What a run warns of, if it has come to an invocation. -/
theorem warned_of_parts {config : Config} {before during after : Session} {asked : History}
    (hi : Requests words i) (hload : Config.load env tree = .ok config) (honly : OnlyReads before)
    (hreports : Reports during asked) (hafter : Offline after) (hcalm : warnings after = []) :
    Warned env tree words (before ++ (onWarn i.warning? ++ (during ++ after))) := by
  have hwarnings : warnings (before ++ (onWarn i.warning? ++ (during ++ after))) =
      i.warning?.toList ++ asked.flatMap warningsOf := by
    simp only [warnings_append, honly.warnings, warnings_onWarn, hreports.warnings, hcalm,
      List.nil_append, List.append_nil]
  have hbefore := honly.offline.append (offline_onWarn i.warning?)
  have hextended := hreports.carries.extend hbefore hafter
  rw [List.append_assoc] at hextended
  refine ⟨asked, hextended, ?_, ?_⟩
  · rintro ⟨j, -, ⟨m, hread, hj⟩, hskips, -⟩
    obtain rfl := hi.eq hread hj
    rw [hwarnings, Invocation.warning?, if_pos hskips]
    rfl
  · intro hverified
    have hskips : ¬ i.skipSslValidation = true := fun hskips =>
      hverified ⟨i, config, hi, hskips, hload⟩
    rw [hwarnings, Invocation.warning?, if_neg hskips]
    rfl

/-- A run that does not come to an invocation warns of nothing. -/
theorem warned_of_none (honly : Offline h) (hcalm : warnings h = [])
    (hverified : ¬ Unverified env tree words) : Warned env tree words h :=
  ⟨[], ⟨h, [], [], none, (List.append_nil h).symm, honly, offline_nil, .nil⟩,
    fun hskips => absurd hskips hverified, fun _ => hcalm⟩

theorem warned_of_follows {r : Except Failure Unit} (hread : grammar.read words = .ok m)
    (hf : Follows env tree m h r) : Warned env tree words h := by
  cases hf with
  | unknown hi =>
    refine warned_of_none offline_nil rfl ?_
    rintro ⟨i, -, ⟨m', hread', hi'⟩, -, -⟩
    obtain rfl := Except.ok.inj (hread.symm.trans hread')
    cases hi.symm.trans hi'
  | unconfigured hi hload honly =>
    refine warned_of_none honly.offline honly.warnings ?_
    rintro ⟨i, config, -, -, hload'⟩
    cases hload.symm.trans hload'
  | @failed i config before during _ hi hload honly hreads hperform =>
    obtain ⟨asked, hreports, -⟩ := reports_of_perform hperform hreads
    have hwarned := warned_of_parts ⟨m, hread, hi⟩ hload honly hreports offline_nil rfl
    rwa [List.append_nil] at hwarned
  | finished hi hload honly hreads hperform hoffline hcalm =>
    obtain ⟨asked, hreports, -⟩ := reports_of_perform hperform hreads
    exact warned_of_parts ⟨m, hread, hi⟩ hload honly hreports hoffline hcalm

theorem warned_of_runs (hruns : Runs env words h ending) (hreads : ReadsFrom tree h) :
    Warned env tree words h := by
  have hmisread {halt : Arguments.Halt} (hread : grammar.read words = .error halt) :
      ¬ Unverified env tree words := by
    rintro ⟨i, -, ⟨m, hread', -⟩, -, -⟩
    cases hread.symm.trans hread'
  cases hruns with
  | answered hread hwanted =>
    exact warned_of_none (List.forall_mem_singleton.2 trivial) rfl (hmisread hread)
  | followed hread hc => exact warned_of_follows hread (follows_of_course hc hreads)
  | failed hfails =>
    cases hfails with
    | misread hread hwanted => exact warned_of_none offline_nil rfl (hmisread hread)
    | followed hread hc => exact warned_of_follows hread (follows_of_course hc hreads)

end Parts

/-- What a run of the program keeps to, by what it asked and how it ended, and whatever its log has.
-/
structure Conduct (log : Log) (env : Environment) (tree : FileTree) (words : List String)
    (h : Session) (ending : Ending) : Prop where
  /-- What cannot be carried out is refused before `cf` is run or a message is sent. -/
  offline : Refused env tree words → Offline h
  /-- The run succeeds if and only if no error is printed behind the log. -/
  succeeds_iff : ending.status = 0 ↔
    stderr log env (h.map Exchange.question) ending = log (h.map Exchange.question)
  /-- Any other run has status 1 and prints the failure, with a hint if there is one for it. -/
  report : ending.status ≠ 0 → ending.status = 1 ∧ ∃ line failure message,
    IsFailedLine env line ∧ FailsWith env words h failure ∧ failure.Says message ∧
      stderr log env (h.map Exchange.question) ending =
        log (h.map Exchange.question) ++ (line ++ message ++ "\n" ++
          match Diagnostics.hint? message with
          | some hint => hint ++ "\n"
          | none => "")
  /-- If no filter is set, no error is printed if and only if the run succeeds and warns of nothing.
  -/
  quiet_iff : log.IsDefault → (stderr log env (h.map Exchange.question) ending = "" ↔
    ending.status = 0 ∧ warnings h = [])
  warned : Warned env tree words h
  /-- A run that fails has printed nothing but what it announced. -/
  announced : ending.status = 1 → ∃ lines, Announced words lines ∧ stdout h = lineText lines
  /-- A run of a quiet command that succeeds prints its output. -/
  output : ending.status = 0 → ∀ i, Requests words i → i.task.IsQuiet →
    ∃ output, Outputs env tree i h output ∧ stdout h = lineEnded output

/-- **Whatever the platform and the network answer, the program keeps to its conduct.** -/
theorem run_conduct {σ : Type} (log : Log) (env : Environment) (tree : FileTree)
    (words : List String) (others : Handler world σ) (st : σ) :
    Conduct log env tree words ((run env words).history (withFiles tree others) st)
      ((run env words).run (withFiles tree others) st).1 := by
  have hreads := readsFrom_history tree others (run env words) st
  have hruns := runs_of_course (course_run (withFiles tree others) (run env words) st)
  generalize ((run env words).history (withFiles tree others) st) = h at hreads hruns
  generalize ((run env words).run (withFiles tree others) st).1 = ending at hruns
  have hoffline := offline_of_runs hruns hreads
  have hwarned := warned_of_runs hruns hreads
  cases ending with
  | success =>
    refine ⟨hoffline, iff_of_true rfl stderr_success, fun hstatus => absurd rfl hstatus, ?_,
      hwarned, nofun, fun _ i hi hquiet => outputs_of_runs hruns hreads hi hquiet⟩
    intro hlog
    rw [stderr_success, hlog.eq_empty_iff]
    exact (and_iff_right rfl).symm
  | failure message =>
    cases hruns with
    | @failed _ failure hfails =>
      have hne := errors_failure_ne_empty env failure.message
      refine ⟨hoffline, iff_of_false nofun (mt stderr_eq_log_iff.1 hne),
        fun _ => ⟨rfl, _, failure, _, isFailedLine env, hfails, failure.says_message, ?_⟩,
        fun _ => ?_, hwarned,
        fun _ => hfails.announced hreads, nofun⟩
      · rw [stderr, errors_failure]
      · exact iff_of_false (fun hempty => hne (String.append_eq_empty_iff.1 hempty).2) nofun

/-! ## A run that succeeds and warns -/

/-- A log that has a line for each warning. -/
def plainLog : Log
  | [] => ""
  | .warn w :: asked => w.message ++ "\n" ++ plainLog asked
  | .cf _ :: asked | .send _ :: asked | .fileText _ :: asked | .print _ :: asked => plainLog asked

theorem isDefault_plainLog : plainLog.IsDefault
  | [] => .nil
  | ⟨.warn w, _⟩ :: h =>
    .cons (by rw [String.toList_append]; exact (List.prefix_append _ _).isInfix)
      (isDefault_plainLog h)
  | ⟨.cf _, _⟩ :: h => isDefault_plainLog h
  | ⟨.send _, _⟩ :: h => isDefault_plainLog h
  | ⟨.fileText _, _⟩ :: h => isDefault_plainLog h
  | ⟨.print _, _⟩ :: h => isDefault_plainLog h

/-- What `cf` prints for a user who is logged in and has one service instance.  The API answers it
without the names of its fields. -/
def stagedOutput : List String → String
  | ["oauth-token"] => "bearer tok\n"
  | ["service", _, "--guid"] => "g1\n"
  | _ => "[\"g1\",\"http://svc.example/dashboard/g1\",[[[\"standard\"]],[[\"scs-config\"]]]]"

/-- A command line that asks not to verify certificates. -/
def stagedWords : List String :=
  ["scs", "service-instance-parameters", "svc", "--skip-ssl-validation"]

/-- Every run of `cf` succeeds, and so does every request. -/
def staged : Handler world Unit
  | .cf args, st => (.exited 0 (Text.Utf8.encode (stagedOutput args)) [], st)
  | .send _, st => (.replied 200 [], st)
  | .fileText _, st => (.error .notFound, st)
  | .print _, st => ((), st)
  | .warn _, st => ((), st)

/-- **A run that succeeds may print errors**, although no filter is set for its log: it warns that
certificates are not verified, if it is asked not to verify them. -/
theorem not_success_iff_no_errors :
    ¬ ∀ (log : Log) (env : Environment) (tree : FileTree) (words : List String)
      (others : Handler world Unit), log.IsDefault →
        (((run env words).run (withFiles tree others) ()).1.status = 0 ↔
          stderr log env (((run env words).history (withFiles tree others) ()).map
            Exchange.question) ((run env words).run (withFiles tree others) ()).1 = "") := by
  intro hall
  have h := hall plainLog ⟨[], none, .utc⟩ ⟨[]⟩ stagedWords staged isDefault_plainLog
  have hsuccess : ((run ⟨[], none, .utc⟩ stagedWords).run (withFiles ⟨[]⟩ staged) ()).1 =
      .success := by decide +kernel
  have hwarned : warnings ((run ⟨[], none, .utc⟩ stagedWords).history (withFiles ⟨[]⟩ staged) ()) =
      [.validationDisabled] := by decide +kernel
  rw [hsuccess, stderr_success, isDefault_plainLog.eq_empty_iff, hwarned] at h
  exact List.cons_ne_nil _ _ (h.1 rfl)

end ServiceAdmin.Program
