import ServiceAdmin.Proofs.Service.Action
import ServiceAdmin.Registry.Join

/-!
# The plain join

`join` remembers the names that it was told.  The plain join remembers none: it takes each
registration alone, and looks its name up in the space or else in the summary.  `run_recordsOf` says
that the records are those of the plain join, and which summaries are asked for.
-/

namespace ServiceAdmin.Registry

open Service

/-! ## What the join may ask -/

section Asks

variable {P : Query → Prop}

theorem asks_join (hp : ∀ path, P (.platform (.curl path))) :
    ∀ (names : Names) (registrations : List Registration),
      (join names registrations).run.Asks P := by
  have hask : ∀ guid, (askName guid).run.Asks P := fun guid =>
    asks_liftM_bind (asks_askPlatform (hp _)) fun a => by
      cases a with
      | error e => trivial
      | ok body => exact asks_ofExcept
  have hname : ∀ names guid, (nameFor names guid).run.Asks P := fun names guid => by
    rw [nameFor]
    cases names.lookup guid with
    | some name => trivial
    | none => exact asks_bind (hask guid) fun _ => trivial
  intro names registrations
  induction registrations generalizing names with
  | nil => trivial
  | cons r rest ih =>
    rw [join]
    by_cases hg : r.metadata.appGuid = ""
    · rw [if_pos hg]
      exact asks_bind (ih names) fun _ => trivial
    · rw [if_neg hg]
      exact asks_bind (hname _ _) fun p => asks_bind (ih p.2) fun _ => trivial

/-- The join asks for the applications of the space and for summaries, and sends nothing. -/
theorem asks_recordsOf (happs : P (.platform .apps)) (hp : ∀ path, P (.platform (.curl path)))
    (applications : List (List Registration)) : (recordsOf applications).run.Asks P := by
  have hnames : knownNames.Asks P := Dialogue.asks_bind (asks_askPlatform happs) fun a => by
    cases a with
    | error e => trivial
    | ok apps => trivial
  exact asks_liftM_bind hnames fun names => asks_join hp names _

end Asks

/-! ## Plain records -/

section Plain

variable (platform : Script)

/-- The applications that the platform lists. -/
def listed : List App :=
  match platform .apps with
  | .ok apps => apps
  | .error _ => []

/-- The name that is listed last for a GUID. -/
def listedName? (guid : String) : Option String :=
  ((listed platform).filter (·.guid = guid)).getLast?.map (·.name)

/-- The name in the summary of an application.  A summary that cannot be had or read gives an error,
and so does one with an error code. -/
def curledName (guid : String) : Except Error String :=
  match platform (.curl ("/v2/apps/" ++ guid ++ "/summary")) with
  | .error e => .error (.platform e)
  | .ok body =>
    match decodeBody AppSummary.shape "cf app summary" body with
    | .error e => .error (.protocol e)
    | .ok summary =>
      if summary.code = 0 then .ok summary.name
      else .error <| .lookup <|
        .appNameUnresolved guid summary.description summary.code summary.errorCode

/-- The name that is listed, or else the one in the summary. -/
def plainName (guid : String) : Except Error String :=
  match listedName? platform guid with
  | some name => .ok name
  | none => curledName platform guid

/-- The record of a registration, whatever the others are. -/
def plainRecord (r : Registration) : Except Error Record :=
  if r.metadata.appGuid = "" then
    .ok {
      appGuid := ""
      appName := "?????"
      registeredName := r.app
      instanceId := r.instanceId
      status := r.status
      zone := r.metadata.zone
      instanceIndex := "?" }
  else
    (plainName platform r.metadata.appGuid).map fun name => {
      appGuid := r.metadata.appGuid
      appName := name
      registeredName := r.app
      instanceId := r.instanceId
      status := r.status
      zone := r.metadata.zone
      instanceIndex := r.metadata.instanceIndex }

end Plain

/-- The GUIDs of registrations whose names are not known, each at its first place. -/
def unknownGuids (known : String → Bool) (registrations : List Registration) : List String :=
  ((registrations.map (·.metadata.appGuid)).filter fun guid =>
    guid ≠ "" && !known guid).eraseDups

/-- The list up to the first element without the property, and with that. -/
def through {α : Type} (p : α → Bool) (l : List α) : List α :=
  l.takeWhile p ++ (l.dropWhile p).take 1

/-- The question for a summary. -/
def summaryQuery (guid : String) : Query :=
  .platform (.curl ("/v2/apps/" ++ guid ++ "/summary"))

theorem through_cons_of_pos {α : Type} {p : α → Bool} {a : α} (h : p a = true) (l : List α) :
    through p (a :: l) = a :: through p l := by
  rw [through, List.takeWhile_cons_of_pos h, List.dropWhile_cons_of_pos h]
  rfl

theorem through_cons_of_neg {α : Type} {p : α → Bool} {a : α} (h : ¬ p a = true) (l : List α) :
    through p (a :: l) = [a] := by
  rw [through, List.takeWhile_cons_of_neg h, List.dropWhile_cons_of_neg h]
  rfl

section Unknown

variable {known : String → Bool} {r : Registration} {rest : List Registration}

theorem unknownGuids_cons_of_known (h : r.metadata.appGuid = "" ∨ known r.metadata.appGuid = true) :
    unknownGuids known (r :: rest) = unknownGuids known rest := by
  rw [unknownGuids, List.map_cons, List.filter_cons_of_neg]
  · rfl
  · rcases h with h | h <;> simp [h]

/-- Once the first unknown GUID is known, what is left is unknown as before. -/
theorem unknownGuids_cons_of_unknown (hg : r.metadata.appGuid ≠ "")
    (h : known r.metadata.appGuid = false) :
    unknownGuids known (r :: rest) = r.metadata.appGuid ::
      unknownGuids (fun guid => guid == r.metadata.appGuid || known guid) rest := by
  rw [unknownGuids, List.map_cons, List.filter_cons_of_pos (by simp [hg, h]), List.eraseDups_cons,
    List.filter_filter]
  refine congrArg (r.metadata.appGuid :: ·) (congrArg List.eraseDups ?_)
  refine List.filter_congr fun guid _ => ?_
  cases hk : known guid <;> cases hr : guid == r.metadata.appGuid <;> simp [hk, hr]

end Unknown

/-! ## Tables of names -/

variable {platform : Script} {names : Names}

/-- The table that the join begins with. -/
def seed (apps : List App) : Names := (apps.map fun app => (app.guid, app.name)).reverse

theorem lookup_seed (apps : List App) (guid : String) :
    (seed apps).lookup guid = (apps.filter (·.guid = guid)).getLast?.map (·.name) := by
  induction apps with
  | nil => rfl
  | cons app apps ih =>
    rw [seed, List.map_cons, List.reverse_cons, ← seed, List.lookup_append, ih]
    by_cases h : app.guid = guid
    · rw [List.filter_cons_of_pos (by simpa using h), List.getLast?_cons]
      cases (apps.filter (·.guid = guid)).getLast? <;> simp [h]
    · have h' : (guid == app.guid) = false := by simpa using Ne.symm h
      rw [List.filter_cons_of_neg (by simpa using h)]
      simp [List.lookup_cons, h']

theorem knownNames_eq :
    knownNames = .ask (.platform .apps) fun a =>
      .done (seed (match (a : Except PlatformError (List App)) with
        | .ok apps => apps
        | .error _ => [])) := by
  refine congrArg (Dialogue.ask (I := interface) (.platform .apps)) (funext fun a => ?_)
  cases a with
  | ok apps => rfl
  | error e => rfl

/-- A table that has plain names, and leaves only those out that must be curled. -/
structure Faithful (platform : Script) (names : Names) : Prop where
  known : ∀ guid name, names.lookup guid = some name → plainName platform guid = .ok name
  unknown : ∀ guid, names.lookup guid = none → plainName platform guid = curledName platform guid

theorem faithful_seed (platform : Script) : Faithful platform (seed (listed platform)) where
  known := by
    intro guid name h
    rw [lookup_seed] at h
    rw [plainName, listedName?, h]
  unknown := by
    intro guid h
    rw [lookup_seed] at h
    rw [plainName, listedName?, h]

/-- A name that was curled may be remembered. -/
theorem Faithful.cons (hf : Faithful platform names) {guid name : String}
    (h : plainName platform guid = .ok name) : Faithful platform ((guid, name) :: names) where
  known := by
    intro g n hg
    rw [List.lookup_cons] at hg
    cases hgg : g == guid with
    | true =>
      rw [hgg] at hg
      cases hg
      rw [eq_of_beq hgg]
      exact h
    | false =>
      rw [hgg] at hg
      exact hf.known g n hg
  unknown := by
    intro g hg
    rw [List.lookup_cons] at hg
    cases hgg : g == guid with
    | true =>
      rw [hgg] at hg
      cases hg
    | false =>
      rw [hgg] at hg
      exact hf.unknown g hg

theorem isSome_lookup_cons (guid name g : String) :
    (((guid, name) :: names).lookup g).isSome = (g == guid || (names.lookup g).isSome) := by
  rw [List.lookup_cons]
  cases g == guid <;> rfl

/-! ## Names from summaries -/

theorem curledName_of_error {guid : String} {e : PlatformError}
    (h : platform (.curl (summaryPath guid)) = .error e) :
    curledName platform guid = .error (.platform e) := by
  rw [summaryPath] at h
  rw [curledName, h]

theorem curledName_of_body {guid body : String}
    (h : platform (.curl (summaryPath guid)) = .ok body) :
    curledName platform guid = nameOfSummary guid body := by
  rw [summaryPath] at h
  rw [curledName, h, nameOfSummary]
  cases hdecode : decodeBody AppSummary.shape "cf app summary" body with
  | error e =>
    simp only [hdecode]
    rfl
  | ok summary =>
    simp only [hdecode]
    rfl

/-! ## Runs of the join -/

theorem mapM_cons_of_ok {α β ε : Type} {f : α → Except ε β} {a : α} {b : β} (h : f a = .ok b)
    (l : List α) : (a :: l).mapM f = (l.mapM f).map (b :: ·) := by
  rw [List.mapM_cons, h]
  show (l.mapM f >>= fun bs => pure (b :: bs)) = _
  cases l.mapM f with
  | ok bs => rfl
  | error e => rfl

theorem mapM_cons_of_error {α β ε : Type} {f : α → Except ε β} {a : α} {e : ε}
    (h : f a = .error e) (l : List α) : (a :: l).mapM f = .error e := by
  rw [List.mapM_cons, h]
  rfl

/-- A list with a value for every element has them in order, one for each. -/
theorem map_eq_map_ok_of_mapM {α β ε : Type} {f : α → Except ε β} :
    ∀ {l : List α} {bs : List β}, l.mapM f = .ok bs → l.map f = bs.map .ok := by
  intro l
  induction l with
  | nil =>
    intro bs h
    cases h
    rfl
  | cons a l ih =>
    intro bs h
    cases ha : f a with
    | error e =>
      rw [mapM_cons_of_error ha] at h
      cases h
    | ok b =>
      rw [mapM_cons_of_ok ha] at h
      cases hl : l.mapM f with
      | error e =>
        rw [hl] at h
        cases h
      | ok cs =>
        rw [hl] at h
        cases h
        rw [List.map_cons, List.map_cons, ha, ih hl]

section Run

variable {σ : Type} (platform : Script) (others : Dialogue.Handler interface σ) (st : σ)

theorem run_askName (guid : String) :
    (askName guid).run.run (withPlatform platform others) st =
      (curledName platform guid, [summaryQuery guid], st) := by
  rw [askName, run_askPlatform_bind]
  cases hcurl : platform (.curl (summaryPath guid)) with
  | error e =>
    rw [curledName_of_error hcurl]
    rfl
  | ok body =>
    rw [curledName_of_body hcurl]
    show (let (r, asked, st) := (ofExcept id (nameOfSummary guid body)).run.run _ st
      (r, summaryQuery guid :: asked, st)) = _
    rw [run_ofExcept_id]
    rfl

theorem run_knownNames :
    knownNames.run (withPlatform platform others) st =
      (seed (listed platform), [.platform .apps], st) := by
  rw [knownNames_eq]
  rfl

theorem nameFor_of_known {guid name : String} (h : names.lookup guid = some name) :
    nameFor names guid = pure (name, names) := by
  rw [nameFor, h]

/-- A name that is asked for is in the table that is left. -/
theorem run_nameFor_of_unknown {guid : String} (h : names.lookup guid = none) :
    (nameFor names guid).run.run (withPlatform platform others) st =
      ((curledName platform guid).map fun name => (name, (guid, name) :: names),
        [summaryQuery guid], st) := by
  rw [nameFor, h]
  exact run_bind_pure (run_askName platform others st guid) _

/-- The GUIDs whose summaries are asked for, if the platform knows some names from the start. -/
def curledGuids (known : String → Bool) (registrations : List Registration) : List String :=
  through (fun guid => (curledName platform guid).isOk) (unknownGuids known registrations)

/-- **From a faithful table, the join gives plain records, and asks for what the table leaves
out.** -/
theorem run_join (hf : Faithful platform names) (registrations : List Registration) :
    (join names registrations).run.run (withPlatform platform others) st =
      (registrations.mapM (plainRecord platform),
        (curledGuids platform (fun guid => (names.lookup guid).isSome) registrations).map
          summaryQuery, st) := by
  induction registrations generalizing names with
  | nil => rfl
  | cons r rest ih =>
    rw [join, curledGuids]
    by_cases hg : r.metadata.appGuid = ""
    · have hr : plainRecord platform r = .ok (.unbound r) := by
        rw [plainRecord, if_pos hg]
        rfl
      rw [if_pos hg, mapM_cons_of_ok hr, unknownGuids_cons_of_known (.inl hg)]
      exact run_bind_pure (ih hf) _
    · rw [if_neg hg]
      cases hlookup : names.lookup r.metadata.appGuid with
      | some name =>
        have hr : plainRecord platform r = .ok (.bound r name) := by
          rw [plainRecord, if_neg hg, hf.known _ _ hlookup]
          rfl
        rw [nameFor_of_known hlookup, pure_bind, mapM_cons_of_ok hr,
          unknownGuids_cons_of_known (.inr (by rw [hlookup]; rfl))]
        exact run_bind_pure (ih hf) _
      | none =>
        have hname := run_nameFor_of_unknown platform others st hlookup
        have hplain := hf.unknown _ hlookup
        rw [unknownGuids_cons_of_unknown hg (by rw [hlookup]; rfl)]
        cases hcurled : curledName platform r.metadata.appGuid with
        | error e =>
          have hr : plainRecord platform r = .error e := by
            rw [plainRecord, if_neg hg, hplain, hcurled]
            rfl
          rw [hcurled] at hname
          rw [mapM_cons_of_error hr,
            through_cons_of_neg (by rw [hcurled]; exact Bool.false_ne_true)]
          exact run_bind_of_error hname
        | ok name =>
          have hr : plainRecord platform r = .ok (.bound r name) := by
            rw [plainRecord, if_neg hg, hplain, hcurled]
            rfl
          rw [hcurled] at hname
          have hrest :=
            run_bind_pure (ih (hf.cons (hplain.trans hcurled))) (Record.bound r name :: ·)
          simp only [isSome_lookup_cons] at hrest
          rw [mapM_cons_of_ok hr, through_cons_of_pos (by rw [hcurled]; rfl), List.map_cons,
            run_bind_of_ok hname]
          exact congrArg (fun x => (x.1, summaryQuery r.metadata.appGuid :: x.2.1, x.2.2)) hrest

/-- **The join gives the records of the plain join.**  It asks for the applications of the space,
and then for the summaries of the GUIDs that are not listed: for each once, in the order in which
they come up, and for none after one that fails. -/
theorem run_recordsOf (applications : List (List Registration)) :
    (recordsOf applications).run.run (withPlatform platform others) st =
        (applications.flatten.mapM (plainRecord platform),
          .platform .apps ::
            (curledGuids platform (fun guid => (listedName? platform guid).isSome)
              applications.flatten).map summaryQuery, st) ∧
      ∀ records, applications.flatten.mapM (plainRecord platform) = .ok records →
        applications.flatten.map (plainRecord platform) = records.map .ok := by
  refine ⟨?_, fun records h => map_eq_map_ok_of_mapM h⟩
  have hjoin := run_join platform others st (faithful_seed platform) applications.flatten
  simp only [lookup_seed] at hjoin
  rw [recordsOf, run_liftM_bind, Dialogue.run_bind, run_knownNames]
  exact congrArg (fun x => (x.1, Query.platform .apps :: x.2.1, x.2.2)) hjoin

end Run

end ServiceAdmin.Registry
