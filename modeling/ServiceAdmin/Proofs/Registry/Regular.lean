import ServiceAdmin.Proofs.Registry.PlainJoin
import ServiceAdmin.Registry.View

/-!
# Regular records

In a regular record the question marks stand for a missing application and for nothing else, and a
bound record has a name and an index.  Unbound records are regular.  A bound one is so only if the
registry tells an index and the platform a name, and both may be left out of what is decoded
(`records_regular_iff`, `not_records_regular`).
-/

namespace ServiceAdmin.Registry

open Service

/-! ## Records -/

/-- The marks of an unbound record stand in unbound records only, and a bound record has a name and
an index. -/
structure Record.Regular (r : Record) : Prop where
  unbound_iff : r.appGuid = "" ↔ r.appName = unknownAppName ∧ r.instanceIndex = unknownIndex
  bound : r.appGuid ≠ "" → r.appName ≠ "" ∧ r.instanceIndex ≠ ""

theorem Record.regular_unbound (r : Registration) : (Record.unbound r).Regular where
  unbound_iff := ⟨fun _ => ⟨rfl, rfl⟩, fun _ => rfl⟩
  bound := fun h => absurd rfl h

theorem Record.regular_bound_iff {r : Registration} {name : String} (h : r.metadata.appGuid ≠ "") :
    (Record.bound r name).Regular ↔ name ≠ "" ∧ r.metadata.instanceIndex ≠ "" ∧
      ¬ (name = unknownAppName ∧ r.metadata.instanceIndex = unknownIndex) := by
  constructor
  · intro hr
    obtain ⟨hname, hindex⟩ := hr.bound h
    exact ⟨hname, hindex, fun hmarks => h (hr.unbound_iff.2 hmarks)⟩
  · rintro ⟨hname, hindex, hmarks⟩
    exact ⟨⟨fun hg => absurd hg h, fun hm => absurd hm hmarks⟩, fun _ => ⟨hname, hindex⟩⟩

section Told

variable (platform : Script)

/-- A bound registration of which the registry tells an index and the platform a name, and not the
marks of an unbound record. -/
def Described (r : Registration) : Prop :=
  r.metadata.appGuid = "" ∨ ∃ name, plainName platform r.metadata.appGuid = .ok name ∧ name ≠ "" ∧
    r.metadata.instanceIndex ≠ "" ∧
      ¬ (name = Record.unknownAppName ∧ r.metadata.instanceIndex = Record.unknownIndex)

variable {platform}

theorem regular_plainRecord_iff {r : Registration} :
    (∃ record, plainRecord platform r = .ok record ∧ record.Regular) ↔ Described platform r := by
  rw [plainRecord]
  by_cases hg : r.metadata.appGuid = ""
  · rw [if_pos hg]
    exact ⟨fun _ => .inl hg, fun _ => ⟨_, rfl, Record.regular_unbound r⟩⟩
  · rw [if_neg hg, Described, or_iff_right hg]
    cases plainName platform r.metadata.appGuid with
    | error e =>
      constructor
      · rintro ⟨record, ⟨⟩, -⟩
      · rintro ⟨name, ⟨⟩, -⟩
    | ok name =>
      constructor
      · rintro ⟨record, ⟨⟩, hr⟩
        exact ⟨name, rfl, (Record.regular_bound_iff hg).1 hr⟩
      · rintro ⟨_, ⟨⟩, hr⟩
        exact ⟨_, rfl, (Record.regular_bound_iff hg).2 hr⟩

theorem unbound_of_plainRecord {r : Registration} {record : Record}
    (h : plainRecord platform r = .ok record) (hg : record.appGuid = "") :
    record = .unbound r := by
  rw [plainRecord] at h
  by_cases hr : r.metadata.appGuid = ""
  · rw [if_pos hr] at h
    cases h
    rfl
  · rw [if_neg hr] at h
    cases hname : plainName platform r.metadata.appGuid with
    | error e =>
      rw [hname] at h
      cases h
    | ok name =>
      rw [hname] at h
      cases h
      exact absurd hg hr

end Told

/-! ## The records of a registry -/

theorem forall_mem_iff_of_mapM {α β ε : Type} {f : α → Except ε β} {P : β → Prop} {l : List α}
    {bs : List β} (h : l.mapM f = .ok bs) :
    (∀ b ∈ bs, P b) ↔ ∀ a ∈ l, ∃ b, f a = .ok b ∧ P b := by
  have hmap := map_eq_map_ok_of_mapM h
  constructor
  · intro hbs a ha
    have hfa : f a ∈ bs.map .ok := hmap ▸ List.mem_map_of_mem ha
    obtain ⟨b, hb, hab⟩ := List.mem_map.1 hfa
    exact ⟨b, hab.symm, hbs b hb⟩
  · intro hl b hb
    have hok : Except.ok b ∈ l.map f := hmap ▸ List.mem_map_of_mem hb
    obtain ⟨a, ha, hab⟩ := List.mem_map.1 hok
    obtain ⟨b', hab', hP⟩ := hl a ha
    cases hab.symm.trans hab'
    exact hP

section Run

variable {σ : Type} (platform : Script) (others : Dialogue.Handler interface σ) (st : σ)

theorem result_recordsOf (applications : List (List Registration)) :
    ((recordsOf applications).run.run (withPlatform platform others) st).1 =
      applications.flatten.mapM (plainRecord platform) := by
  rw [recordsOf, run_liftM_bind, Dialogue.run_bind, run_knownNames]
  exact congrArg Prod.fst
    (run_join platform others st (faithful_seed platform) applications.flatten)

/-- The registrations that the registry at `base` tells. -/
def toldApplications (base token : String) : Except Error (List (List Registration)) :=
  let url := base ++ "eureka/apps"
  verdict (applicationsOf url) (others (.send ⟨.get, url, none, token⟩) st).1

/-- The records are those of the registrations that the registry tells. -/
theorem result_records (base token : String) :
    ((records base token).run.run (withPlatform platform others) st).1 =
      (toldApplications others st base token >>= fun applications =>
        applications.flatten.mapM (plainRecord platform)) := by
  rw [records, run_submit_bind]
  show ((onward recordsOf (toldApplications others st base token)).run _ _).1 = _
  cases toldApplications others st base token with
  | error e => rfl
  | ok applications => exact result_recordsOf platform others _ applications

/-- **The records of a registry are regular exactly if every bound registration is described.**
That the marks of an unbound record stand in all unbound records needs nothing. -/
theorem records_regular_iff {base token : String} {rows : List Record}
    (h : ((records base token).run.run (withPlatform platform others) st).1 = .ok rows) :
    ∃ applications, toldApplications others st base token = .ok applications ∧
      (∀ record ∈ rows, record.appGuid = "" →
        record.appName = Record.unknownAppName ∧ record.instanceIndex = Record.unknownIndex) ∧
      ((∀ record ∈ rows, record.Regular) ↔
        ∀ r ∈ applications.flatten, Described platform r) := by
  rw [result_records] at h
  cases htold : toldApplications others st base token with
  | error e =>
    rw [htold] at h
    cases h
  | ok applications =>
    rw [htold] at h
    replace h : applications.flatten.mapM (plainRecord platform) = .ok rows := h
    refine ⟨applications, rfl, ?_, ?_⟩
    · intro record hrecord hg
      have hmap := map_eq_map_ok_of_mapM h
      have hok : Except.ok record ∈ applications.flatten.map (plainRecord platform) :=
        hmap ▸ List.mem_map_of_mem hrecord
      obtain ⟨r, -, hr⟩ := List.mem_map.1 hok
      rw [unbound_of_plainRecord hr hg]
      exact ⟨rfl, rfl⟩
    · rw [forall_mem_iff_of_mapM h]
      exact forall₂_congr fun r _ => regular_plainRecord_iff

end Run

/-! ## A registry -/

/-- A platform that lists one application, and has the summary of another. -/
def shopPlatform : Script
  | .apps => .ok [⟨"shop", "g1"⟩]
  | .curl _ => .ok "\x7b\"name\":\"stock\"\x7d"
  | .service _ | .apiEndpoint | .token | .username | .org | .space => .error (.command "" "")

/-- A registry that answers a body. -/
def answering (body : String) : Dialogue.Handler interface Unit
  | .send _, st => (.ok ⟨200, body⟩, st)
  | .platform _, st => (.error (.command "" ""), st)
  | .progress _, st => (.ok (), st)

/-- The body of a registry with the given instances of one application. -/
def bodyOfInstances (instances : String) : String :=
  "\x7b\"applications\":\x7b\"application\":[\x7b\"instance\":[" ++ instances ++ "]\x7d]\x7d\x7d"

theorem eq_ok_of_toOption {α ε : Type} {x : Except ε α} {a : α} (h : x.toOption = some a) :
    x = .ok a := by
  cases x with
  | error e => cases h
  | ok b => exact congrArg Except.ok (Option.some.inj h)

/-- An unbound instance, and a bound one whose name is curled. -/
def describedInstances : String :=
  "\x7b\"app\":\"CRON\",\"instanceId\":\"c:1\"\x7d,\x7b\"app\":\"STOCK\",\"instanceId\":\"s:1\"," ++
    "\"metadata\":\x7b\"cfAppGuid\":\"g2\",\"cfInstanceIndex\":\"7\"\x7d\x7d"

def describedApplications : List (List Registration) :=
  [[⟨"CRON", "c:1", .unknown, ⟨"", "", ""⟩⟩, ⟨"STOCK", "s:1", .unknown, ⟨"g2", "7", ""⟩⟩]]

def describedRows : List Record :=
  [⟨"", "?????", "CRON", "c:1", .unknown, "", "?"⟩,
    ⟨"g2", "stock", "STOCK", "s:1", .unknown, "", "7"⟩]

theorem records_regular_described :
    ((records "https://registry/" "tok").run.run
        (withPlatform shopPlatform (answering (bodyOfInstances describedInstances))) ()).1 =
          .ok describedRows ∧
      ∀ record ∈ describedRows, record.Regular := by
  have htold : toldApplications (answering (bodyOfInstances describedInstances)) ()
      "https://registry/" "tok" = .ok describedApplications := eq_ok_of_toOption (by decide +kernel)
  have hstock : plainName shopPlatform "g2" = .ok "stock" := eq_ok_of_toOption (by decide +kernel)
  have h : ((records "https://registry/" "tok").run.run
      (withPlatform shopPlatform (answering (bodyOfInstances describedInstances))) ()).1 =
        .ok describedRows := by
    rw [result_records, htold]
    exact eq_ok_of_toOption (by decide +kernel)
  obtain ⟨applications, happlications, -, hregular⟩ := records_regular_iff _ _ _ h
  obtain rfl := Except.ok.inj (happlications.symm.trans htold)
  refine ⟨h, hregular.2 fun r hr => ?_⟩
  rcases List.mem_cons.1 hr with rfl | hr
  · exact .inl rfl
  rcases List.mem_singleton.1 hr with rfl
  exact .inr ⟨"stock", hstock, by decide⟩

/-- A bound instance of which the registry tells no index has a record with an empty one. -/
theorem not_records_regular : ¬ ∀ (platform : Script) (others : Dialogue.Handler interface Unit)
    (base token : String) (rows : List Record),
      ((records base token).run.run (withPlatform platform others) ()).1 = .ok rows →
        ∀ record ∈ rows, record.Regular := by
  intro h
  have hrow := h shopPlatform
    (answering (bodyOfInstances
      "\x7b\"app\":\"SHOP\",\"instanceId\":\"s:1\",\"metadata\":\x7b\"cfAppGuid\":\"g1\"\x7d\x7d"))
    "https://registry/" "tok" [⟨"g1", "shop", "SHOP", "s:1", .unknown, "", ""⟩]
    (eq_ok_of_toOption (by decide +kernel)) _ List.mem_cons_self
  exact (hrow.bound (by decide)).2 rfl

end ServiceAdmin.Registry
