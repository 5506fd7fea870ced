import ServiceAdmin.Proofs.Registry.PlainJoin
import ServiceAdmin.Proofs.Service.Resolve
import ServiceAdmin.Registry.View

/-!
# Actions on all registrations of an application

`operate` selects records and then takes them one after the other: a line is shown, the request is
sent, and the first thing that fails ends the run.  `Rounds` says step by step how that can go,
`rounds_of_course` that `applyAll` goes so, and `InTurn` what follows for a whole run.
-/

namespace ServiceAdmin.Registry

open Http Service
open Dialogue (course_done)

/-- The request of an action on a record. -/
def InstanceAction.requestOn (action : InstanceAction) (base token : String) (record : Record) :
    Request :=
  action.request base record.registeredName record.instanceId token

section Rounds

variable (action : InstanceAction) (base token registry : String)

/-! ## Rounds -/

/-- How an action on records in their order can go, and what it then ends with. -/
inductive Rounds : List Record → History → Except Error Unit → Prop
  | finished : Rounds [] [] (.ok ())
  | unshown (record : Record) (rest : List Record) (reason : String) :
      Rounds (record :: rest) [onLine (action.line record registry) (.error reason)]
        (.error (.operation (.progress reason)))
  | failed (record : Record) (rest : List Record) (a : Except TransportError Response) (e : Error) :
      verdict (action.judge record) a = .error e →
      Rounds (record :: rest)
        [onLine (action.line record registry) (.ok ()),
          onSend (action.requestOn base token record) a]
        (.error e)
  | next (record : Record) {rest : List Record} (a : Except TransportError Response) {h : History}
      {result : Except Error Unit} :
      verdict (action.judge record) a = .ok () → Rounds rest h result →
      Rounds (record :: rest)
        (onLine (action.line record registry) (.ok ()) ::
          onSend (action.requestOn base token record) a :: h)
        result

/-- **`applyAll` goes in rounds.** -/
theorem rounds_of_course : ∀ (records : List Record) (h : History) (result : Except Error Unit),
    (action.applyAll base token registry records).run.Course h result →
      Rounds action base token registry records h result := by
  intro records
  induction records with
  | nil =>
    intro h result hc
    obtain ⟨rfl, rfl⟩ := course_pure.1 hc
    exact .finished
  | cons record rest ih =>
    intro h result hc
    rw [InstanceAction.applyAll] at hc
    obtain ⟨shownAs, t, rfl, ht⟩ := course_tell_bind.1 hc
    cases shownAs with
    | error reason =>
      obtain ⟨rfl, rfl⟩ := course_done.1 ht
      exact .unshown record rest reason
    | ok u =>
      obtain ⟨a, t', rfl, ht'⟩ := course_submit_bind.1 ht
      cases hv : verdict (action.judge record) a with
      | error e =>
        rw [hv] at ht'
        obtain ⟨rfl, rfl⟩ := course_done.1 ht'
        exact .failed record rest a e hv
      | ok u =>
        rw [hv] at ht'
        exact .next record a hv (ih t' result ht')

/-! ## What rounds have in common -/

/-- The history of rounds over `done` that all went well. -/
structure WentWell (done : List Record) (h : History) : Prop where
  shown : shown h = done.map (action.line · registry)
  sent : sent h = done.map (action.requestOn base token)
  granted : granted h = done.map (action.requestOn base token)

/-- What comes before a request: all went well with the records before, and its line was shown. -/
def Announced (records : List Record) (before : History) (r : Request) : Prop :=
  ∃ done record rest went, records = done ++ record :: rest ∧
    WentWell action base token registry done went ∧
    before = went ++ [onLine (action.line record registry) (.ok ())] ∧
    r = action.requestOn base token record

variable {action base token registry}

theorem granted_of_verdict_ok {record : Record} {a : Except TransportError Response}
    (hv : verdict (action.judge record) a = .ok ()) (r : Request) (h : History) :
    granted (onSend r a :: h) = r :: granted h := by
  cases a with
  | error e => cases hv
  | ok response =>
    by_cases hs : response.isSuccess
    · exact if_pos (Response.isSuccess_iff.1 hs)
    · simp [verdict, InstanceAction.judge, hs] at hv

theorem WentWell.nil : WentWell action base token registry [] [] := ⟨rfl, rfl, rfl⟩

theorem WentWell.cons {record : Record} {a : Except TransportError Response}
    {done : List Record} {h : History} (hv : verdict (action.judge record) a = .ok ())
    (hw : WentWell action base token registry done h) :
    WentWell action base token registry (record :: done)
      (onLine (action.line record registry) (.ok ()) ::
        onSend (action.requestOn base token record) a :: h) where
  shown := by rw [shown_onLine_ok, shown_onSend, hw.shown, List.map_cons]
  sent := by rw [sent_onLine, sent_onSend, hw.sent, List.map_cons]
  granted := by rw [granted_onLine, granted_of_verdict_ok hv, hw.granted, List.map_cons]

variable {records : List Record} {h : History} {result : Except Error Unit}

theorem Rounds.shown_prefix (hr : Rounds action base token registry records h result) :
    shown h <+: records.map (action.line · registry) := by
  induction hr with
  | finished => exact List.prefix_rfl
  | unshown record rest reason => exact List.nil_prefix
  | failed record rest a e hv =>
    rw [shown_onLine_ok, List.map_cons, List.prefix_cons_inj]
    exact List.nil_prefix
  | next record a hv _ ih =>
    rw [shown_onLine_ok, shown_onSend, List.map_cons, List.prefix_cons_inj]
    exact ih

theorem Rounds.sent_prefix (hr : Rounds action base token registry records h result) :
    sent h <+: records.map (action.requestOn base token) := by
  induction hr with
  | finished => exact List.prefix_rfl
  | unshown record rest reason => exact List.nil_prefix
  | failed record rest a e hv =>
    rw [sent_onLine, sent_onSend, List.map_cons, List.prefix_cons_inj]
    exact List.nil_prefix
  | next record a hv _ ih =>
    rw [sent_onLine, sent_onSend, List.map_cons, List.prefix_cons_inj]
    exact ih

theorem Rounds.announced (hr : Rounds action base token registry records h result) :
    ∀ (before : History) (r : Request) (a : Except TransportError Response) (after : History),
      h = before ++ onSend r a :: after →
        Announced action base token registry records before r := by
  induction hr with
  | finished =>
    intro before r a after he
    simp at he
  | unshown record rest reason =>
    intro before r a after he
    rcases before with - | ⟨x, before⟩
    · cases (List.cons.inj he).1
    · simp at he
  | failed record rest a e hv =>
    intro before r a' after he
    rcases before with - | ⟨x, - | ⟨y, before⟩⟩
    · cases (List.cons.inj he).1
    · cases he
      exact ⟨[], record, rest, [], rfl, .nil, rfl, rfl⟩
    · simp at he
  | @next record rest a h result hv _ ih =>
    intro before r a' after he
    rcases before with - | ⟨x, - | ⟨y, before⟩⟩
    · cases (List.cons.inj he).1
    · cases he
      exact ⟨[], record, rest, [], rfl, .nil, rfl, rfl⟩
    · simp only [List.cons_append, List.cons.injEq] at he
      obtain ⟨rfl, rfl, he⟩ := he
      obtain ⟨done, record', rest', went, rfl, hw, rfl, hreq⟩ := ih before r a' after he
      exact ⟨record :: done, record', rest', _, rfl, hw.cons hv, rfl, hreq⟩

end Rounds

/-! ## The selection -/

/-- What an action on an application begins with: the registry's URL, the token and the records
that are acted on. -/
def selection (hostPrefix registry appName : String) (index : Option Nat) :
    Action (String × String × List Record) := do
  let (base, token) ← locate hostPrefix registry
  let records ← records base token
  let selected ← ofExcept id (select appName index records)
  return (base, token, selected)

theorem operate_eq_selection_bind (hostPrefix registry appName : String) (index : Option Nat)
    (action : InstanceAction) :
    operate hostPrefix registry appName index action =
      selection hostPrefix registry appName index >>= fun (base, token, selected) =>
        action.applyAll base token registry selected := by
  simp only [operate, selection, bind_assoc, pure_bind]

/-- The question changes nothing: the platform is asked, or a GET request is sent. -/
def ReadsOnly : Query → Prop
  | .platform _ => True
  | .send r => r.method = .get
  | .progress _ => False

theorem asks_records (base token : String) : (records base token).run.Asks ReadsOnly :=
  asks_bind (asks_submit rfl) (asks_recordsOf trivial fun _ => trivial)

theorem asks_selection (hostPrefix registry appName : String) (index : Option Nat) :
    (selection hostPrefix registry appName index).run.Asks ReadsOnly := by
  refine asks_bind (asks_bind (asks_accessToken fun _ => trivial) fun token =>
    asks_bind (asks_resolve (fun _ => trivial) (fun _ => rfl) _) fun p => trivial) fun p => ?_
  exact asks_bind (asks_records _ _) fun _ => asks_bind asks_ofExcept fun _ => trivial

/-! ## The whole action -/

end ServiceAdmin.Registry
