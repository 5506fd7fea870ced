import ServiceAdmin.Program.World
import ServiceAdmin.Proofs.Service.Action

/-!
# Sessions of the program

A session is what the program asked of its surroundings, with the answers.  `stdout` is what it
printed in it, `warnings` what it warned of, and `Offline` says that it neither ran `cf` nor sent a
message.  An action prints the lines that it shows, and warns of the requests and the listing that
failed (`exists_of_course_carryOut`).
-/

namespace ServiceAdmin.Program

open Dialogue Service

variable {α σ : Type} {h h' : List (Exchange world)}

/-- What the program asked, and was answered. -/
abbrev Session := List (Exchange world)

/-- A file that was read. -/
abbrev onFile (path : String) (content : Except ReadFault String) : Exchange world :=
  ⟨.fileText path, content⟩

/-- A text that was printed. -/
abbrev onPrint (text : String) : Exchange world := ⟨.print text, ()⟩

/-- The warning that was given, if there was one. -/
abbrev onWarn (w : Option Warning) : Session := w.toList.map fun w => ⟨.warn w, ()⟩

/-- All that was printed. -/
def stdout : Session → String
  | [] => ""
  | ⟨.print text, _⟩ :: h => text ++ stdout h
  | ⟨.cf _, _⟩ :: h | ⟨.send _, _⟩ :: h | ⟨.fileText _, _⟩ :: h | ⟨.warn _, _⟩ :: h => stdout h

/-- What is warned of in one exchange. -/
def warned : Exchange world → List Warning
  | ⟨.warn w, _⟩ => [w]
  | ⟨.cf _, _⟩ | ⟨.send _, _⟩ | ⟨.fileText _, _⟩ | ⟨.print _, _⟩ => []

/-- All that was warned of. -/
def warnings (h : Session) : List Warning := h.flatMap warned

/-- What is warned of when this happens in an action. -/
def warningsOf : Exchange Service.interface → List Warning
  | ⟨.platform .apps, .error e⟩ => [.appsUnlisted e]
  | ⟨.send r, .error (.failure url reason)⟩ => [.requestFailed r.method url reason]
  | _ => []

/-- Lines with their ends. -/
def lineText : List String → String
  | [] => ""
  | line :: lines => line ++ "\n" ++ lineText lines

/-- The question goes to the user or to the file system. -/
def IsLocal : Query → Prop
  | .cf _ | .send _ => False
  | .fileText _ | .print _ | .warn _ => True

/-- The question prints nothing. -/
def IsSilent : Query → Prop
  | .print _ => False
  | .cf _ | .send _ | .fileText _ | .warn _ => True

/-- The question warns of nothing. -/
def IsCalm : Query → Prop
  | .warn _ => False
  | .cf _ | .send _ | .fileText _ | .print _ => True

/-- No `cf` is run and nothing is sent. -/
def Offline (h : Session) : Prop := ∀ x ∈ h, IsLocal x.question

/-- Files are read as they are in the tree. -/
def ReadsFrom (tree : FileTree) (h : Session) : Prop :=
  ∀ path content, onFile path content ∈ h → content = tree.read path

theorem stdout_append : ∀ h h' : Session, stdout (h ++ h') = stdout h ++ stdout h'
  | [], _ => String.empty_append.symm
  | ⟨.print text, _⟩ :: h, h' => by
    rw [List.cons_append, stdout, stdout, stdout_append h h', String.append_assoc]
  | ⟨.cf _, _⟩ :: h, h' => stdout_append h h'
  | ⟨.send _, _⟩ :: h, h' => stdout_append h h'
  | ⟨.fileText _, _⟩ :: h, h' => stdout_append h h'
  | ⟨.warn _, _⟩ :: h, h' => stdout_append h h'

theorem stdout_of_silent : ∀ {h : Session}, (∀ x ∈ h, IsSilent x.question) → stdout h = ""
  | [], _ => rfl
  | ⟨.print _, _⟩ :: _, hh => (hh _ List.mem_cons_self).elim
  | ⟨.cf _, _⟩ :: h, hh => stdout_of_silent (h := h) (List.forall_mem_cons.1 hh).2
  | ⟨.send _, _⟩ :: h, hh => stdout_of_silent (h := h) (List.forall_mem_cons.1 hh).2
  | ⟨.fileText _, _⟩ :: h, hh => stdout_of_silent (h := h) (List.forall_mem_cons.1 hh).2
  | ⟨.warn _, _⟩ :: h, hh => stdout_of_silent (h := h) (List.forall_mem_cons.1 hh).2

theorem stdout_onWarn (w : Option Warning) : stdout (onWarn w) = "" := by
  cases w with
  | none => rfl
  | some w => rfl

theorem warnings_append (h h' : Session) : warnings (h ++ h') = warnings h ++ warnings h' :=
  List.flatMap_append

theorem warnings_of_calm (hh : ∀ x ∈ h, IsCalm x.question) : warnings h = [] := by
  apply List.flatMap_eq_nil_iff.2
  rintro ⟨q, a⟩ hx
  cases q with
  | warn w => exact (hh _ hx).elim
  | cf _ | send _ | fileText _ | print _ => rfl

theorem warnings_onWarn (w : Option Warning) : warnings (onWarn w) = w.toList := by
  cases w with
  | none => rfl
  | some w => rfl

theorem offline_onWarn (w : Option Warning) : Offline (onWarn w) := by
  intro x hx
  obtain ⟨w, -, rfl⟩ := List.mem_map.1 hx
  trivial

theorem offline_nil : Offline [] := fun _ hx => absurd hx List.not_mem_nil

theorem Offline.append (h₁ : Offline h) (h₂ : Offline h') : Offline (h ++ h') := fun x hx =>
  (List.mem_append.1 hx).elim (h₁ x) (h₂ x)

theorem ReadsFrom.left {tree : FileTree} (hr : ReadsFrom tree (h ++ h')) : ReadsFrom tree h :=
  fun path content hx => hr path content (List.mem_append_left _ hx)

theorem ReadsFrom.right {tree : FileTree} (hr : ReadsFrom tree (h ++ h')) : ReadsFrom tree h' :=
  fun path content hx => hr path content (List.mem_append_right _ hx)

/-! ## Surroundings with files -/

/-- Answers from a tree of files; `others` answers all else. -/
def withFiles (tree : FileTree) (others : Handler world σ) : Handler world σ
  | .fileText path, st => (tree.read path, st)
  | .cf args, st => others (.cf args) st
  | .send m, st => others (.send m) st
  | .print text, st => others (.print text) st
  | .warn w, st => others (.warn w) st

theorem readsFrom_history (tree : FileTree) (others : Handler world σ) (d : Dialogue world α)
    (st : σ) : ReadsFrom tree (d.history (withFiles tree others) st) := by
  induction d generalizing st with
  | done a => exact fun _ _ hx => absurd hx List.not_mem_nil
  | ask q next ih =>
    intro path content hx
    rcases List.mem_cons.1 hx with heq | hx
    · cases heq
      rfl
    · exact ih _ _ path content hx

/-! ## Actions -/

theorem asks_commands {P : Query → Prop} (hP : ∀ args, P (.cf args))
    (d : Dialogue Platform.commandInterface α) : (commands d).Asks P :=
  asks_embed (I := Platform.commandInterface) (fun args => asks_query (I := world) (hP args)) d

theorem asks_messages {P : Query → Prop} (hP : ∀ m, P (.send m)) (d : Dialogue Http.network α) :
    (messages d).Asks P :=
  asks_embed (I := Http.network) (fun m => asks_query (I := world) (hP m)) d

/-- A question of an action is served by `cf` and by messages, unless it shows a line. -/
theorem asks_serve {P : Query → Prop} {q : Service.Query} (hcf : ∀ args, P (.cf args))
    (hsend : ∀ m, P (.send m)) (hprint : ∀ line, q = .progress line → P (.print (line ++ "\n")))
    (known : Option Platform.Target) : (serve q known).Asks P := by
  cases q with
  | platform q => exact asks_commands hcf _
  | send r => exact asks_bind (asks_messages hsend _) fun _ => trivial
  | progress line => exact ⟨hprint line rfl, fun _ => trivial⟩

theorem course_warn {w : Option Warning} {u : Unit} : (warn w).Course h u ↔ h = onWarn w := by
  cases w with
  | none =>
    constructor
    · intro hc
      exact (course_done.1 hc).1
    · rintro rfl
      exact .done _
  | some w => exact course_query

/-- A question is served first, and then warned of. -/
theorem course_answer {q : Service.Query} {known known' : Option Platform.Target} {a : q.Answer} :
    (answer q known).Course h (a, known') ↔
      ∃ k, (serve q known).Course k (a, known') ∧ h = k ++ onWarn (warning? q a) := by
  constructor
  · intro hc
    obtain ⟨⟨a', known''⟩, k, rest, rfl, hserve, hrest⟩ := course_bind.1 hc
    obtain ⟨u, h₁, h₂, rfl, hwarn, hend⟩ := course_bind.1 hrest
    obtain ⟨rfl, heq⟩ := course_done.1 hend
    cases heq
    rw [course_warn.1 hwarn, List.append_nil]
    exact ⟨k, hserve, rfl⟩
  · rintro ⟨k, hserve, rfl⟩
    refine course_bind.2 ⟨(a, known'), k, _, rfl, hserve, ?_⟩
    exact course_bind.2 ⟨(), _, [], (List.append_nil _).symm, course_warn.2 rfl, .done _⟩

theorem toList_warning? (q : Service.Query) (a : q.Answer) :
    (warning? q a).toList = warningsOf ⟨q, a⟩ := by
  cases q with
  | progress line => rfl
  | send r =>
    cases a with
    | ok response => rfl
    | error e => cases e <;> rfl
  | platform q =>
    cases q with
    | apps => cases a <;> rfl
    | _ => rfl

theorem stdout_of_carried {known known' : Option Platform.Target} {asked : History}
    (hc : Carried answer known asked h known') : stdout h = lineText (shown asked) := by
  induction hc with
  | nil => rfl
  | @cons known known₁ known₂ q r asked k k' hq _ ih =>
    obtain ⟨k, hserve, rfl⟩ := course_answer.1 hq
    have hsilent (hne : ∀ line, q ≠ .progress line) : stdout k = "" :=
      stdout_of_silent (hserve.asks
        (asks_serve (fun _ => trivial) (fun _ => trivial) (fun line hq => absurd hq (hne line))
          known))
    rw [stdout_append, stdout_append, stdout_onWarn, String.append_empty, ih]
    cases q with
    | platform q =>
      rw [hsilent fun _ => nofun, String.empty_append]
      rfl
    | send r' =>
      rw [hsilent fun _ => nofun, String.empty_append]
      rfl
    | progress line =>
      obtain ⟨u, t, rfl, ht⟩ := course_ask.1 hserve
      obtain ⟨rfl, heq⟩ := course_done.1 ht
      cases heq
      rw [shown_onLine_ok, lineText]
      simp only [stdout, String.append_empty]

theorem warnings_of_carried {known known' : Option Platform.Target} {asked : History}
    (hc : Carried answer known asked h known') : warnings h = asked.flatMap warningsOf := by
  induction hc with
  | nil => rfl
  | @cons known known₁ known₂ q r asked k k' hq _ ih =>
    obtain ⟨k, hserve, rfl⟩ := course_answer.1 hq
    have hcalm : warnings k = [] := warnings_of_calm (hserve.asks
      (asks_serve (fun _ => trivial) (fun _ => trivial) (fun _ _ => trivial) known))
    rw [warnings_append, warnings_append, hcalm, warnings_onWarn, toList_warning?, ih]
    rfl

/-- **An action that is carried out prints the lines that it shows, and warns of what fails.** -/
theorem exists_of_course_carryOut {action : Action α} {r : Except Error α}
    (hc : (carryOut action).Course h r) :
    ∃ asked known, action.run.Course asked r ∧ Carried answer none asked h known ∧
      stdout h = lineText (shown asked) ∧ warnings h = asked.flatMap warningsOf := by
  obtain ⟨⟨r', known⟩, h₁, h₂, rfl, hc, hend⟩ := course_bind.1 hc
  obtain ⟨rfl, rfl⟩ := course_done.1 hend
  obtain ⟨asked, hasked, hcarried⟩ := exists_of_course_interpret hc
  rw [List.append_nil]
  exact ⟨asked, known, hasked, hcarried, stdout_of_carried hcarried, warnings_of_carried hcarried⟩

end ServiceAdmin.Program
