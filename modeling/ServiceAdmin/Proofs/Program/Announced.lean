import ServiceAdmin.Program.Run
import ServiceAdmin.Proofs.Program.World
import ServiceAdmin.Proofs.Registry.FanOut

/-!
# What tasks announce

Some tasks tell what is done before they do it, and acting on registrations tells each of them.  A
task prints nothing else before its output, and warns of nothing but what fails in its action
(`reports_of_perform`).  What a task asks for is found by reading files only (`course_operation`).
-/

namespace ServiceAdmin.Program

open Dialogue Service

variable {zone : Report.Zone} {hostPrefix service : String}

/-! ## Announcements -/

/-- The line that tells what is done with a service instance, and as whom. -/
def preambleLine (doing service org space user : String) : String :=
  doing ++ " service instance " ++ bold service ++ " in org " ++ bold org ++ " / space " ++
    bold space ++ " as " ++ bold user ++ "...\n"

/-- The lines are a preamble, or none if it was not come to. -/
def IsPreamble (doing service : String) (lines : List String) : Prop :=
  lines = [] ∨ ∃ org space user, lines = [preambleLine doing service org space user]

/-- The lines that are told while a task is carried out, or as many as were come to. -/
def Task.Announces (service : String) : Task → List String → Prop
  | .registryInfo, lines => IsPreamble "Getting service registry info from" service lines
  | .registryList, lines => IsPreamble "Listing service registry applications of" service lines
  | .registryAction action _ _, lines =>
    ∃ records : List Registry.Record, lines = records.map (action.line · service)
  | .operation asked, lines =>
    lines = [] ∨ asked = .view ∧ IsPreamble "Getting backing applications of" service lines
  | .encrypt .., lines => lines = []

/-! ## What actions show -/

section Shown

variable {h : History}

theorem asks_perform (name : String) (operation : Operation) :
    (Service.perform zone hostPrefix name operation).run.Asks ShowsNothing :=
  asks_bind asks_ofExcept fun _ => asks_bind (asks_accessToken fun _ => trivial) fun _ =>
    asks_bind (asks_resolve (fun _ => trivial) (fun _ => trivial) _) fun _ => asks_submit trivial

theorem showsNothing_of_readsOnly {q : Service.Query} (hq : Registry.ReadsOnly q) :
    ShowsNothing q := by
  cases q with
  | platform q | send r => trivial
  | progress line => exact hq

theorem asks_locate (registry : String) :
    (Registry.locate hostPrefix registry).run.Asks ShowsNothing :=
  asks_bind (asks_accessToken fun _ => trivial) fun _ =>
    asks_bind (asks_resolve (fun _ => trivial) (fun _ => trivial) _) fun _ => trivial

theorem asks_info (registry : String) :
    (Registry.info hostPrefix registry).run.Asks ShowsNothing :=
  asks_bind (asks_locate registry) fun _ => asks_bind (asks_submit trivial) fun _ => trivial

theorem asks_list (registry : String) :
    (Registry.list hostPrefix registry).run.Asks ShowsNothing :=
  asks_bind (asks_locate registry) fun p =>
    asks_bind (asks_mono (fun _ => showsNothing_of_readsOnly) (Registry.asks_records p.1 p.2))
      fun _ => trivial

/-- An action that shows nothing. -/
theorem shown_of_asks {α : Type} {x : Action α} {r : Except Error α} (hc : x.run.Course h r)
    (hx : x.run.Asks ShowsNothing) : shown h = [] := shown_eq_nil (hc.asks hx)

/-- An action that begins with an answer of the platform shows what it does behind that. -/
theorem shown_ask {α : Type} {q : Platform.Query} {f : q.Value → Action α} {r : Except Error α}
    (hc : (liftM (askPlatform q) >>= fun a => ofExcept .platform a >>= f : Action α).run.Course
      h r) :
    shown h = [] ∨ ∃ a t, (f a).run.Course t r ∧ shown h = shown t := by
  obtain ⟨answered, t, rfl, ht⟩ := course_askPlatform_bind.1 hc
  rw [course_ofExcept_bind] at ht
  cases answered with
  | error e =>
    obtain ⟨rfl, -⟩ := course_done.1 ht
    exact .inl rfl
  | ok a => exact .inr ⟨a, t, ht, rfl⟩

theorem shown_preamble {doing : String} {r : Except Error Unit}
    (hc : (preamble doing service).run.Course h r) : IsPreamble doing service (shown h) := by
  rcases shown_ask hc with hnone | ⟨user, t, hc, hshown⟩
  · exact .inl hnone
  rw [hshown]
  rcases shown_ask hc with hnone | ⟨org, t, hc, hshown⟩
  · exact .inl hnone
  rw [hshown]
  rcases shown_ask hc with hnone | ⟨space, t, hc, hshown⟩
  · exact .inl hnone
  rw [hshown]
  rw [run_tell] at hc
  obtain ⟨a, t, rfl, ht⟩ := course_ask.1 hc
  obtain ⟨rfl, -⟩ := course_done.1 ht
  cases a with
  | ok u => exact .inr ⟨org, space, user, rfl⟩
  | error reason => exact .inl rfl

/-- An action behind a preamble shows only that. -/
theorem shown_preamble_bind {α : Type} {doing : String} {x : Action α} {r : Except Error α}
    (hc : (preamble doing service >>= fun _ => x).run.Course h r) (hx : x.run.Asks ShowsNothing) :
    IsPreamble doing service (shown h) := by
  rcases Service.course_bind.1 hc with ⟨e, hpreamble, -⟩ | ⟨a, h₁, h₂, rfl, hpreamble, hc⟩
  · exact shown_preamble hpreamble
  · rw [shown_append, shown_of_asks hc hx, List.append_nil]
    exact shown_preamble hpreamble

/-- An action on registrations shows the lines of the first of them. -/
theorem shown_operate {app : String} {index : Option Nat} {action : Registry.InstanceAction}
    {r : Except Error Unit}
    (hc : (Registry.operate hostPrefix service app index action).run.Course h r) :
    ∃ records : List Registry.Record, shown h = records.map (action.line · service) := by
  have hselection := asks_mono (fun _ => showsNothing_of_readsOnly)
    (Registry.asks_selection hostPrefix service app index)
  rw [Registry.operate_eq_selection_bind] at hc
  rcases Service.course_bind.1 hc with ⟨e, hc, -⟩ | ⟨p, h₁, h₂, rfl, hselected, hc⟩
  · exact ⟨[], shown_of_asks hc hselection⟩
  · have hrounds := Registry.rounds_of_course action p.1 p.2.1 service p.2.2 _ _ hc
    refine ⟨p.2.2.take (shown h₂).length, ?_⟩
    rw [shown_append, shown_of_asks hselected hselection, List.nil_append, List.map_take]
    exact List.prefix_iff_eq_take.1 hrounds.shown_prefix

end Shown

/-! ## The operation that is asked for -/

/-- The text to encrypt, by the tree. -/
def sourceOf (tree : FileTree) (value file : Option String) : Except CommandError String :=
  match file, value with
  | some path, _ => (tree.read path).mapError (.unreadableFile path)
  | none, some value => .ok value
  | none, none => .error .nothingToEncrypt

/-- The operation that an invocation asks for, by the tree. -/
def Invocation.asked (tree : FileTree) (i : Invocation) : Except CommandError Operation :=
  match i.task with
  | .operation operation => .ok operation
  | .encrypt value file => (sourceOf tree value file).map .encrypt
  | .registryInfo | .registryList | .registryAction .. => .error (.unknownCommand i.command)

section Stages

variable {tree : FileTree} {h : Session} {α : Type}

theorem course_failWith {ε : Type} {kind : ε → Failure} {d : Dialogue world (Except ε α)}
    {r : Except Failure α} :
    (failWith kind d).run.Course h r ↔ ∃ found, d.Course h found ∧ r = found.mapError kind := by
  have hrun : (failWith kind d).run = d.bind fun found => .done (found.mapError kind) := rfl
  rw [hrun, Dialogue.course_bind]
  constructor
  · rintro ⟨found, h₁, h₂, rfl, hd, hend⟩
    obtain ⟨rfl, rfl⟩ := course_done.1 hend
    exact ⟨found, by rwa [List.append_nil], rfl⟩
  · rintro ⟨found, hd, rfl⟩
    exact ⟨found, h, [], (List.append_nil h).symm, hd, .done _⟩

/-- A course of a sequence whose first part may fail in its own way. -/
theorem course_failWith_bind {ε β : Type} {kind : ε → Failure} {d : Dialogue world (Except ε α)}
    {f : α → Run β} {r : Except Failure β} :
    (failWith kind d >>= f).run.Course h r ↔
      (∃ e, d.Course h (.error e) ∧ r = .error (kind e)) ∨
        ∃ a h₁ h₂, h = h₁ ++ h₂ ∧ d.Course h₁ (.ok a) ∧ (f a).run.Course h₂ r := by
  simp only [course_exceptT_bind, course_failWith]
  constructor
  · rintro (⟨failure, ⟨found, hd, heq⟩, rfl⟩ | ⟨a, h₁, h₂, rfl, ⟨found, hd, heq⟩, hf⟩)
    · cases found with
      | ok a => cases heq
      | error e =>
        cases heq
        exact .inl ⟨e, hd, rfl⟩
    · obtain rfl := ok_of_mapError_eq_ok heq.symm
      exact .inr ⟨a, h₁, h₂, rfl, hd, hf⟩
  · rintro (⟨e, hd, rfl⟩ | ⟨a, h₁, h₂, rfl, hd, hf⟩)
    · exact .inl ⟨kind e, ⟨_, hd, rfl⟩, rfl⟩
    · exact .inr ⟨a, h₁, h₂, rfl, ⟨_, hd, rfl⟩, hf⟩

/-- A course of a sequence whose first part cannot fail. -/
theorem course_lift_bind {β : Type} {d : Dialogue world α} {f : α → Run β} {r : Except Failure β} :
    (ExceptT.lift d >>= f).run.Course h r ↔
      ∃ a h₁ h₂, h = h₁ ++ h₂ ∧ d.Course h₁ a ∧ (f a).run.Course h₂ r := by
  have hrun : (ExceptT.lift d >>= f).run = d.bind fun a => (f a).run := by
    rw [run_exceptT_bind]
    exact Dialogue.bind_assoc d _ _
  rw [hrun, Dialogue.course_bind]

theorem course_fileText {path : String} {content : Except ReadFault String} :
    (fileText path).Course h content ↔ h = [onFile path content] := course_query

/-- A history that only reads files. -/
def OnlyReads (h : Session) : Prop := ∀ x ∈ h, ∃ path, x.question = .fileText path

theorem OnlyReads.offline (hh : OnlyReads h) : Offline h := by
  intro x hx
  obtain ⟨path, hpath⟩ := hh x hx
  rw [hpath]
  trivial

theorem OnlyReads.stdout (hh : OnlyReads h) : stdout h = "" := by
  refine stdout_of_silent fun x hx => ?_
  obtain ⟨path, hpath⟩ := hh x hx
  rw [hpath]
  trivial

theorem OnlyReads.warnings (hh : OnlyReads h) : warnings h = [] := by
  refine warnings_of_calm fun x hx => ?_
  obtain ⟨path, hpath⟩ := hh x hx
  rw [hpath]
  trivial

theorem OnlyReads.append {h' : Session} (hh : OnlyReads h) (hh' : OnlyReads h') :
    OnlyReads (h ++ h') := fun x hx => (List.mem_append.1 hx).elim (hh x) (hh' x)

theorem onlyReads_nil : OnlyReads [] := fun _ hx => absurd hx List.not_mem_nil

theorem onlyReads_onFile (path : String) (content : Except ReadFault String) :
    OnlyReads [onFile path content] := by
  intro x hx
  rw [List.mem_singleton.1 hx]
  exact ⟨path, rfl⟩

theorem course_loadConfig {env : Environment} {r : Except ConfigError Config}
    (hc : (loadConfig env).Course h r) (hreads : ReadsFrom tree h) :
    OnlyReads h ∧ r = Config.load env tree := by
  obtain ⟨content, h₁, h₂, rfl, hfile, hend⟩ := Dialogue.course_bind.1 hc
  obtain ⟨rfl, rfl⟩ := course_done.1 hend
  obtain rfl := course_fileText.1 hfile
  refine ⟨by rw [List.append_nil]; exact onlyReads_onFile _ _, ?_⟩
  rw [hreads _ content (List.mem_append_left _ List.mem_cons_self), Config.load]

theorem course_plaintext {value file : Option String} {r : Except CommandError String}
    (hc : (plaintext value file).Course h r) (hreads : ReadsFrom tree h) :
    OnlyReads h ∧ r = sourceOf tree value file := by
  cases file with
  | some path =>
    obtain ⟨content, h₁, h₂, rfl, hfile, hend⟩ := Dialogue.course_bind.1 hc
    obtain ⟨rfl, rfl⟩ := course_done.1 hend
    obtain rfl := course_fileText.1 hfile
    refine ⟨by rw [List.append_nil]; exact onlyReads_onFile _ _, ?_⟩
    rw [hreads _ content (List.mem_append_left _ List.mem_cons_self), sourceOf]
  | none =>
    cases value with
    | some value =>
      obtain ⟨rfl, rfl⟩ := course_done.1 hc
      exact ⟨onlyReads_nil, rfl⟩
    | none =>
      obtain ⟨rfl, rfl⟩ := course_done.1 hc
      exact ⟨onlyReads_nil, rfl⟩

/-- What an invocation asks for is found by reading. -/
theorem course_operation {i : Invocation} {r : Except CommandError Operation}
    (hc : i.operation.Course h r) (hreads : ReadsFrom tree h) :
    OnlyReads h ∧ r = i.asked tree := by
  obtain ⟨command, service, skips, task⟩ := i
  cases task with
  | operation operation =>
    obtain ⟨rfl, rfl⟩ := course_done.1 hc
    exact ⟨onlyReads_nil, rfl⟩
  | encrypt value file =>
    obtain ⟨source, h₁, h₂, rfl, hsource, hend⟩ := Dialogue.course_bind.1 hc
    obtain ⟨rfl, rfl⟩ := course_done.1 hend
    obtain ⟨honly, rfl⟩ := course_plaintext hsource hreads.left
    exact ⟨by rwa [List.append_nil], rfl⟩
  | registryInfo | registryList | registryAction _ _ _ =>
    obtain ⟨rfl, rfl⟩ := course_done.1 hc
    exact ⟨onlyReads_nil, rfl⟩

end Stages

/-! ## Tasks -/

/-- The task is an operation on a service instance. -/
def Task.IsOperation : Task → Prop
  | .operation _ | .encrypt .. => True
  | .registryInfo | .registryList | .registryAction .. => False

/-- The task is an operation that is carried out without a word before. -/
def Task.IsQuiet : Task → Prop
  | .operation asked => asked ≠ .view
  | .encrypt .. => True
  | .registryInfo | .registryList | .registryAction .. => False

theorem Task.IsQuiet.isOperation {task : Task} (h : task.IsQuiet) : task.IsOperation := by
  cases task with
  | operation _ | encrypt value file => trivial
  | registryInfo | registryList | registryAction action app index => exact h

theorem operate_of_ne_view {operation : Operation} (h : operation ≠ .view) :
    operate zone hostPrefix service operation = Service.perform zone hostPrefix service operation :=
  if_neg h

theorem operate_view :
    operate zone hostPrefix service .view =
      preamble "Getting backing applications of" service >>= fun _ =>
        Service.perform zone hostPrefix service .view := rfl

section Tasks

variable {tree : FileTree} {h : Session} {i : Invocation}

/-- Only viewing is announced. -/
theorem shown_of_operate {asked : History} {operation : Operation} {r : Except Error String}
    (hc : (operate zone hostPrefix service operation).run.Course asked r) :
    shown asked = [] ∨
      operation = .view ∧ IsPreamble "Getting backing applications of" service (shown asked) := by
  by_cases hview : operation = .view
  · subst hview
    rw [operate_view] at hc
    exact .inr ⟨rfl, shown_preamble_bind hc (asks_perform _ _)⟩
  · rw [operate_of_ne_view hview] at hc
    exact .inl (shown_of_asks hc (asks_perform _ _))

theorem ne_view_of_isQuiet {operation : Operation} (hasked : i.asked tree = .ok operation)
    (hquiet : i.task.IsQuiet) : operation ≠ .view := by
  obtain ⟨command, service, skips, task⟩ := i
  cases task with
  | operation asked =>
    cases hasked
    exact hquiet
  | encrypt value file =>
    have hencrypt : (sourceOf tree value file).map Operation.encrypt = .ok operation := hasked
    rintro rfl
    cases hsource : sourceOf tree value file with
    | error e | ok text =>
      rw [hsource] at hencrypt
      cases hencrypt
  | registryInfo | registryList | registryAction _ _ _ => cases hasked

theorem perform_of_isOperation (htask : i.task.IsOperation) :
    i.perform zone hostPrefix = failWith .command i.operation >>= fun operation =>
      failWith .action (carryOut (operate zone hostPrefix i.service operation)) := by
  obtain ⟨command, service, skips, task⟩ := i
  cases task with
  | operation _ | encrypt _ _ => rfl
  | registryInfo | registryList | registryAction _ _ _ => exact htask.elim

/-- An operation is found by reading and then carried out. -/
theorem course_perform {r : Except Failure String}
    (hc : (i.perform zone hostPrefix).run.Course h r) (hreads : ReadsFrom tree h)
    (htask : i.task.IsOperation) :
    (OnlyReads h ∧ ∃ e, i.asked tree = .error e ∧ r = .error (.command e)) ∨
      ∃ operation before during found, i.asked tree = .ok operation ∧ h = before ++ during ∧
        OnlyReads before ∧
          (carryOut (operate zone hostPrefix i.service operation)).Course during found ∧
          r = found.mapError .action := by
  rw [perform_of_isOperation htask] at hc
  rcases course_failWith_bind.1 hc with ⟨e, hfound, rfl⟩ |
    ⟨operation, before, during, rfl, hfound, hcarried⟩
  · obtain ⟨honly, hasked⟩ := course_operation hfound hreads
    exact .inl ⟨honly, e, hasked.symm, rfl⟩
  · obtain ⟨honly, hasked⟩ := course_operation hfound hreads.left
    obtain ⟨ended, hended, rfl⟩ := course_failWith.1 hcarried
    exact .inr ⟨operation, before, during, ended, hasked.symm, rfl, honly, hended, rfl⟩

/-! ## What a task prints and warns of -/

/-- The session carries out what was asked in an action.  Before and behind that, it runs no `cf`
and sends nothing. -/
def CarriesOut (h : Session) (asked : History) : Prop :=
  ∃ before during after known, h = before ++ (during ++ after) ∧ Offline before ∧ Offline after ∧
    Carried answer none asked during known

theorem CarriesOut.extend {asked : History} {before after : Session} (hh : CarriesOut h asked)
    (hbefore : Offline before) (hafter : Offline after) :
    CarriesOut (before ++ (h ++ after)) asked := by
  obtain ⟨first, during, last, known, rfl, hfirst, hlast, hcarried⟩ := hh
  refine ⟨before ++ first, during, last ++ after, known, ?_, hbefore.append hfirst,
    hlast.append hafter, hcarried⟩
  simp only [List.append_assoc]

/-- The session carries out what was asked in an action, prints the lines that are shown there, and
warns of what fails there. -/
structure Reports (h : Session) (asked : History) : Prop where
  carries : CarriesOut h asked
  stdout : stdout h = lineText (shown asked)
  warnings : warnings h = asked.flatMap warningsOf

theorem OnlyReads.reports (hh : OnlyReads h) : Reports h [] where
  carries := ⟨h, [], [], none, (List.append_nil h).symm, hh.offline, offline_nil, .nil⟩
  stdout := hh.stdout
  warnings := hh.warnings

theorem Reports.behind {before : Session} {asked : History} (hh : Reports h asked)
    (honly : OnlyReads before) : Reports (before ++ h) asked where
  carries := by
    have hextended := hh.carries.extend honly.offline offline_nil
    rwa [List.append_nil] at hextended
  stdout := by rw [stdout_append, honly.stdout, hh.stdout, String.empty_append]
  warnings := by rw [warnings_append, honly.warnings, hh.warnings, List.nil_append]

theorem reports_of_carryOut {α : Type} {action : Action α} {r : Except Error α}
    (hc : (carryOut action).Course h r) : ∃ asked, action.run.Course asked r ∧ Reports h asked := by
  obtain ⟨asked, known, hcourse, hcarried, hstdout, hwarned⟩ := exists_of_course_carryOut hc
  exact ⟨asked, hcourse, ⟨[], h, [], known, (List.append_nil h).symm, offline_nil, offline_nil,
    hcarried⟩, hstdout, hwarned⟩

theorem reports_of_failWith {α : Type} {action : Action α} {r : Except Failure α}
    (hc : (failWith .action (carryOut action)).run.Course h r) :
    ∃ asked found, action.run.Course asked found ∧ Reports h asked := by
  obtain ⟨found, hc, -⟩ := course_failWith.1 hc
  obtain ⟨asked, hcourse, hreports⟩ := reports_of_carryOut hc
  exact ⟨asked, found, hcourse, hreports⟩

theorem reports_of_operation {r : Except Failure String}
    (hc : (i.perform zone hostPrefix).run.Course h r) (hreads : ReadsFrom tree h)
    (htask : i.task.IsOperation) :
    ∃ asked, Reports h asked ∧ (shown asked = [] ∨ i.asked tree = .ok .view ∧
      IsPreamble "Getting backing applications of" i.service (shown asked)) := by
  rcases course_perform hc hreads htask with ⟨honly, -⟩ |
    ⟨operation, before, during, found, hasked, rfl, honly, hc, -⟩
  · exact ⟨[], honly.reports, .inl rfl⟩
  · obtain ⟨asked, hcourse, hreports⟩ := reports_of_carryOut hc
    refine ⟨asked, hreports.behind honly, ?_⟩
    rcases shown_of_operate hcourse with hnone | ⟨rfl, hpreamble⟩
    · exact .inl hnone
    · exact .inr ⟨hasked, hpreamble⟩

/-- **A task prints nothing but what it announces, until it prints its output, and it warns of what
fails in its action.** -/
theorem reports_of_perform {r : Except Failure String}
    (hc : (i.perform zone hostPrefix).run.Course h r) (hreads : ReadsFrom tree h) :
    ∃ asked, Reports h asked ∧ i.task.Announces i.service (shown asked) := by
  obtain ⟨command, service, skips, task⟩ := i
  cases task with
  | registryInfo =>
    obtain ⟨asked, found, hcourse, hreports⟩ := reports_of_failWith hc
    exact ⟨asked, hreports, shown_preamble_bind hcourse (asks_info _)⟩
  | registryList =>
    obtain ⟨asked, found, hcourse, hreports⟩ := reports_of_failWith hc
    exact ⟨asked, hreports, shown_preamble_bind hcourse (asks_list _)⟩
  | registryAction action app index =>
    rcases course_exceptT_bind.1 hc with ⟨e, hacted, -⟩ | ⟨u, h₁, h₂, rfl, hacted, hend⟩
    · obtain ⟨asked, found, hcourse, hreports⟩ := reports_of_failWith hacted
      exact ⟨asked, hreports, shown_operate hcourse⟩
    · obtain ⟨rfl, -⟩ := course_done.1 hend
      obtain ⟨asked, found, hcourse, hreports⟩ := reports_of_failWith hacted
      rw [List.append_nil]
      exact ⟨asked, hreports, shown_operate hcourse⟩
  | operation operation =>
    obtain ⟨asked, hreports, hlines⟩ := reports_of_operation hc hreads trivial
    refine ⟨asked, hreports, hlines.imp_right fun hview => ⟨?_, hview.2⟩⟩
    exact Except.ok.inj hview.1
  | encrypt value file =>
    obtain ⟨asked, hreports, hlines⟩ := reports_of_operation hc hreads trivial
    refine ⟨asked, hreports, hlines.resolve_right fun hview => ?_⟩
    exact ne_view_of_isQuiet hview.1 trivial rfl

end Tasks

end ServiceAdmin.Program
