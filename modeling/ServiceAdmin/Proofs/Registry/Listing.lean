import ServiceAdmin.Proofs.Registry.Regular
import ServiceAdmin.Proofs.Registry.Reply
import ServiceAdmin.Proofs.Report.Table

/-!
# The report on all registrations

The report has a line for each registration, in the order in which the registry tells them, or says
that there are none (`list_rows`).
-/

namespace ServiceAdmin.Registry

open Report Service

/-- The lines that begin a report, and the blank line behind them. -/
def headLines (registry base : String) : List (List Char) :=
  [("Service instance: " ++ registry).toList, ("Server URL: " ++ base).toList, []]

/-- The line in place of the table of an empty registry. -/
def emptyLine : List Char := "No registered applications found".toList

section Report

variable {registry base : String}

theorem reportHead_append (lines : List (List Char)) :
    reportHead registry base ++ "\n" ++ unlines lines =
      unlines (headLines registry base ++ lines) := by
  have hhead : reportHead registry base =
      "Service instance: " ++ registry ++ "\nServer URL: " ++ base ++ "\n" := rfl
  have hbreak : "\nServer URL: ".toList = '\n' :: "Server URL: ".toList := by decide
  apply String.toList_inj.1
  simp [hhead, hbreak, unlines, headLines]

theorem listReport_nil :
    listReport registry base [] = unlines (headLines registry base ++ [emptyLine]) :=
  reportHead_append [emptyLine]

variable (registry base) in
theorem exists_listReport_eq_unlines {records : List Record} (hne : records ≠ [])
    (hrows : ∀ record ∈ records, ∀ text ∈ record.row, '\n' ∉ text.toList) :
    ∃ (title : List Char) (line : Record → List Char),
      listReport registry base records =
        unlines (headLines registry base ++ title :: records.map line) ∧
      IsLineOf listHeaders title ∧ ∀ record ∈ records, IsLineOf record.row (line record) := by
  obtain ⟨line, htable, hlines⟩ := exists_table_eq_unlines listHeaders (records.map Record.row)
    (List.forall_mem_map.2 fun _ _ => rfl) (by decide) (List.forall_mem_map.2 hrows)
  obtain ⟨htitle, hlines⟩ := List.forall_mem_cons.1 hlines
  refine ⟨line listHeaders, line ∘ Record.row, ?_, htitle, List.forall_mem_map.1 hlines⟩
  rw [← List.map_map, ← reportHead_append, ← htable, listReport,
    if_neg (mt List.isEmpty_iff.1 hne)]

end Report

section Run

variable {σ : Type} (platform : Script) (others : Dialogue.Handler interface σ) (st : σ)
  (hostPrefix registry : String)

/-- The cells of a registration: the name that the registry has for its application, the name that
the platform has, the index of the instance, its zone, and the word of its status.  A registration
without an application has question marks for the platform's name and for the index. -/
inductive Shows (r : Registration) : List String → Prop
  | unbound {word : String} (hguid : r.metadata.appGuid = "")
      (hword : (r.status, word) ∈ statusWords) :
      Shows r [r.app, "?????", "?", r.metadata.zone, word]
  | bound {name word : String} (hguid : r.metadata.appGuid ≠ "")
      (hname : plainName platform r.metadata.appGuid = .ok name)
      (hword : (r.status, word) ∈ statusWords) :
      Shows r [r.app, name, r.metadata.instanceIndex, r.metadata.zone, word]

/-- The report has a line for each registration, which holds its cells in order, or says that there
are no registrations. -/
structure HasRows (base : String) (registrations : List Registration) (report : String) :
    Prop where
  head : ∀ line ∈ headLines registry base, '\n' ∉ line
  empty : registrations = [] → report = unlines (headLines registry base ++ [emptyLine])
  rows : registrations ≠ [] → ∃ (title : List Char) (line : Registration → List Char),
    report = unlines (headLines registry base ++ title :: registrations.map line) ∧
      IsLineOf ["eureka app name", "cf app name", "cf instance index", "zone", "status"] title ∧
      ∀ r ∈ registrations, ∃ cells, Shows platform r cells ∧ IsLineOf cells (line r)

variable {platform others st hostPrefix registry}

/-- A registration has one list of cells. -/
theorem Shows.cells_eq {r : Registration} {cells cells' : List String}
    (h : Shows platform r cells) (h' : Shows platform r cells') : cells = cells' := by
  cases h with
  | unbound hguid hword =>
    cases h' with
    | unbound hguid' hword' =>
      rw [Status.mem_statusWords_iff] at hword hword'
      rw [hword, hword']
    | bound hguid' hname' hword' => exact absurd hguid hguid'
  | bound hguid hname hword =>
    cases h' with
    | unbound hguid' hword' => exact absurd hguid' hguid
    | bound hguid' hname' hword' =>
      rw [Status.mem_statusWords_iff] at hword hword'
      rw [hname] at hname'
      cases hname'
      rw [hword, hword']

/-- The row of a record has the cells of the registration. -/
theorem shows_row {r : Registration} {record : Record} (h : plainRecord platform r = .ok record) :
    Shows platform r record.row := by
  have hword : (r.status, r.status.text) ∈ statusWords := Status.mem_statusWords_iff.2 rfl
  rw [plainRecord] at h
  by_cases hguid : r.metadata.appGuid = ""
  · rw [if_pos hguid] at h
    cases h
    exact .unbound hguid hword
  · rw [if_neg hguid] at h
    cases hname : plainName platform r.metadata.appGuid with
    | error e =>
      rw [hname] at h
      cases h
    | ok name =>
      rw [hname] at h
      cases h
      exact .bound hguid hname hword

theorem head_unbroken {base : String} (hregistry : '\n' ∉ registry.toList)
    (hbase : '\n' ∉ base.toList) : ∀ line ∈ headLines registry base, '\n' ∉ line := by
  have hbehind {label text : String} (hlabel : '\n' ∉ label.toList) (htext : '\n' ∉ text.toList) :
      '\n' ∉ (label ++ text).toList := by
    rw [String.toList_append, List.mem_append]
    exact not_or.2 ⟨hlabel, htext⟩
  refine List.forall_mem_cons.2 ⟨hbehind (by decide) hregistry, List.forall_mem_cons.2
    ⟨hbehind (by decide) hbase, List.forall_mem_singleton.2 (List.not_mem_nil)⟩⟩

section Results

variable {α β γ ε : Type} {f : α → Except ε β} {l : List α} {bs : List β}

theorem exists_ok_of_mapM (h : l.mapM f = .ok bs) {a : α} (ha : a ∈ l) :
    ∃ b ∈ bs, f a = .ok b := by
  have hok : f a ∈ bs.map .ok := map_eq_map_ok_of_mapM h ▸ List.mem_map_of_mem ha
  obtain ⟨b, hb, hab⟩ := List.mem_map.1 hok
  exact ⟨b, hb, hab.symm⟩

/-- What is made of the results of a list may be made of the list. -/
theorem exists_map_eq_of_mapM [Inhabited γ] (h : l.mapM f = .ok bs) (g : β → γ) :
    ∃ k : α → γ, bs.map g = l.map k ∧ ∀ a b, f a = .ok b → k a = g b := by
  refine ⟨fun a => ((f a).toOption.map g).getD default, ?_, fun a b hab => ?_⟩
  · have hread := congrArg (List.map fun x => (x.toOption.map g).getD default)
      (map_eq_map_ok_of_mapM h)
    rw [List.map_map, List.map_map] at hread
    exact hread.symm
  · simp only [hab]
    rfl

end Results

theorem hasRows_listReport {base : String} {registrations : List Registration}
    {records : List Record} (hregistry : '\n' ∉ registry.toList) (hbase : '\n' ∉ base.toList)
    (hrecords : registrations.mapM (plainRecord platform) = .ok records)
    (hrows : ∀ record ∈ records, ∀ text ∈ record.row, '\n' ∉ text.toList) :
    HasRows platform registry base registrations (listReport registry base records) := by
  refine ⟨head_unbroken hregistry hbase, ?_, fun hne => ?_⟩
  · rintro rfl
    cases hrecords
    exact listReport_nil
  · have hne' : records ≠ [] := by
      rintro rfl
      exact hne (List.map_eq_nil_iff.1 (map_eq_map_ok_of_mapM hrecords))
    obtain ⟨title, line, hreport, htitle, hlines⟩ :=
      exists_listReport_eq_unlines registry base hne' hrows
    obtain ⟨lineOf, hlineOf, hline⟩ := exists_map_eq_of_mapM hrecords line
    refine ⟨title, lineOf, by rw [hreport, hlineOf], htitle, fun r hr => ?_⟩
    obtain ⟨record, hrecord, hplain⟩ := exists_ok_of_mapM hrecords hr
    exact ⟨record.row, shows_row hplain, hline r record hplain ▸ hlines record hrecord⟩

/-- **The report has one line for each registration, in the order of the registry.**  This holds for
texts without line feeds. -/
theorem list_rows {report : String}
    (h : ((list hostPrefix registry).run.run (withPlatform platform others) st).1 = .ok report) :
    ∃ base token asked st' applications,
      (locate hostPrefix registry).run.run (withPlatform platform others) st =
        (.ok (base, token), asked, st') ∧
      toldApplications others st' base token = .ok applications ∧
      ('\n' ∉ registry.toList → '\n' ∉ base.toList →
        (∀ r ∈ applications.flatten, ∀ cells, Shows platform r cells →
          ∀ text ∈ cells, '\n' ∉ text.toList) →
        HasRows platform registry base applications.flatten report) := by
  obtain ⟨⟨base, token⟩, asked, st', hlocate, h⟩ := exists_of_run_bind_ok h
  obtain ⟨rows, asked', st'', hrecords, h⟩ := exists_of_run_bind_ok h
  cases h
  have hresult := result_records platform others st' base token
  rw [hrecords] at hresult
  cases htold : toldApplications others st' base token with
  | error e =>
    rw [htold] at hresult
    cases hresult
  | ok applications =>
    rw [htold] at hresult
    have hplain : applications.flatten.mapM (plainRecord platform) = .ok rows := hresult.symm
    refine ⟨base, token, asked, st', applications, hlocate, htold, ?_⟩
    intro hregistry hbase hunbroken
    refine hasRows_listReport hregistry hbase hplain ((forall_mem_iff_of_mapM hplain).2 ?_)
    intro r hr
    obtain ⟨record, -, hrecord⟩ := exists_ok_of_mapM hplain hr
    exact ⟨record, hrecord, hunbroken r hr record.row (shows_row hrecord)⟩

end Run

/-! ## A registry with two instances -/

/-- A platform on which `shopPlatform` has a registry. -/
def registryPlatform : Script
  | .token => .ok "bearer tok"
  | .service name => .ok ⟨name, "s1", "https://reg/s1", "scs", ""⟩
  | q => shopPlatform q

/-- An instance of the application that is listed, and an unbound one. -/
def shopInstances : String :=
  "\x7b\"app\":\"SHOP\",\"instanceId\":\"s\",\"metadata\":\x7b\"cfAppGuid\":\"g1\"\x7d\x7d," ++
    "\x7b\"app\":\"CRON\",\"instanceId\":\"c\"\x7d"

def shopRegistrations : List Registration :=
  [⟨"SHOP", "s", .unknown, ⟨"g1", "", ""⟩⟩, ⟨"CRON", "c", .unknown, ⟨"", "", ""⟩⟩]

def shopRows : List Record :=
  [⟨"g1", "shop", "SHOP", "s", .unknown, "", ""⟩, ⟨"", "?????", "CRON", "c", .unknown, "", "?"⟩]

def shopAnswers : Dialogue.Handler interface Unit :=
  withPlatform registryPlatform (answering (bodyOfInstances shopInstances))

theorem locate_shop : ((locate "broker." "reg").run.run shopAnswers ()).1 =
    .ok ("https://reg/", "tok") := eq_ok_of_toOption (by decide +kernel)

theorem toldApplications_shop :
    toldApplications (answering (bodyOfInstances shopInstances)) () "https://reg/" "tok" =
      .ok [shopRegistrations] := eq_ok_of_toOption (by decide +kernel)

theorem mapM_plainRecord_shop :
    shopRegistrations.mapM (plainRecord registryPlatform) = .ok shopRows := rfl

theorem run_list_shop : ((list "broker." "reg").run.run shopAnswers ()).1 =
    .ok (listReport "reg" "https://reg/" shopRows) := by
  have hlocate := locate_shop
  have hrecords : ((records "https://reg/" "tok").run.run shopAnswers ()).1 = .ok shopRows := by
    rw [shopAnswers, result_records, toldApplications_shop]
    exact mapM_plainRecord_shop
  rcases hx : (locate "broker." "reg").run.run shopAnswers () with ⟨result, asked, ⟨⟩⟩
  rcases hy : (records "https://reg/" "tok").run.run shopAnswers () with ⟨result', asked', ⟨⟩⟩
  rw [hx] at hlocate
  rw [hy] at hrecords
  cases hlocate
  cases hrecords
  rw [list, run_bind_of_ok hx]
  dsimp only
  rw [run_bind_of_ok hy]
  rfl

/-- The cells that are empty do no harm. -/
theorem list_rows_shop :
    ((list "broker." "reg").run.run shopAnswers ()).1 =
        .ok (listReport "reg" "https://reg/" shopRows) ∧
      HasRows registryPlatform "reg" "https://reg/" shopRegistrations
        (listReport "reg" "https://reg/" shopRows) := by
  refine ⟨run_list_shop, ?_⟩
  obtain ⟨base, token, asked, ⟨⟩, applications, hlocate, htold, hrows⟩ := list_rows run_list_shop
  have hsame := locate_shop
  rw [shopAnswers, hlocate] at hsame
  cases hsame
  rw [toldApplications_shop] at htold
  cases htold
  refine hrows (by decide) (by decide) ?_
  intro r hr cells hcells
  obtain ⟨record, hrecord, hplain⟩ := exists_ok_of_mapM mapM_plainRecord_shop hr
  have hunbroken : ∀ record ∈ shopRows, ∀ text ∈ record.row, '\n' ∉ text.toList := by decide
  exact (shows_row hplain).cells_eq hcells ▸ hunbroken record hrecord

end ServiceAdmin.Registry
