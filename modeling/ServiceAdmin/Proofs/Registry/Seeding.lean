import ServiceAdmin.Proofs.Registry.Regular

/-!
# Listings that agree with the summaries

The platform may list the applications of the space, some of them, or none.  As long as every listed
name is the one in the summary of its application, the records are those of the join that looks each
name up by itself (`records_of_agreeing_listing`): a listing only saves questions.
-/

namespace ServiceAdmin.Registry

open Service

section Listings

variable (platform : Script)

/-- The platform, but with another answer to the question for the applications of the space. -/
def withListing (listing : Except PlatformError (List App)) : Script
  | .apps => listing
  | q => platform q

/-- The platform has a summary of the application, and it tells the same name. -/
def Summarised (app : App) : Prop :=
  ∃ body summary, platform (.curl (summaryPath app.guid)) = .ok body ∧
    decodeBody AppSummary.shape "cf app summary" body = .ok summary ∧
    summary.code = 0 ∧ summary.name = app.name

/-- Some of the applications in any order are listed, or the listing fails. -/
def ListsSome (apps : List App) (listing : Except PlatformError (List App)) : Prop :=
  ∀ told, listing = .ok told → ∃ part, told.Perm part ∧ part.Sublist apps

/-- The record of a registration, by the name in the summary of its application. -/
def curledRecord (r : Registration) : Except Error Record :=
  if r.metadata.appGuid = "" then .ok (.unbound r)
  else (curledName platform r.metadata.appGuid).map (.bound r)

end Listings

variable {platform : Script} {apps : List App} {listing : Except PlatformError (List App)}

theorem ListsSome.subset (h : ListsSome apps listing) {told : List App}
    (hlisting : listing = .ok told) : told ⊆ apps := by
  obtain ⟨part, hperm, hsublist⟩ := h told hlisting
  exact fun app happ => hsublist.subset (hperm.subset happ)

theorem listsSome_self (apps : List App) : ListsSome apps (.ok apps) := by
  intro told h
  cases h
  exact ⟨apps, .refl apps, .refl apps⟩

theorem curledName_of_summarised {app : App} (h : Summarised platform app) :
    curledName platform app.guid = .ok app.name := by
  obtain ⟨body, summary, hcurl, hdecode, hcode, hname⟩ := h
  rw [curledName_of_body hcurl, nameOfSummary, hdecode, ← hname]
  show (if summary.code = 0 then _ else _) = _
  rw [if_pos hcode]

theorem listedName?_eq_some {guid name : String} (h : listedName? platform guid = some name) :
    ∃ app ∈ listed platform, app.guid = guid ∧ app.name = name := by
  obtain ⟨app, happ, rfl⟩ := Option.map_eq_some_iff.1 h
  obtain ⟨hmem, hguid⟩ := List.mem_filter.1 (List.mem_of_getLast? happ)
  exact ⟨app, hmem, of_decide_eq_true hguid, rfl⟩

theorem mem_of_mem_listed {app : App} (h : app ∈ listed (withListing platform listing)) :
    ∃ told, listing = .ok told ∧ app ∈ told := by
  cases listing with
  | ok told => exact ⟨told, rfl, h⟩
  | error e => cases h

/-- A name that is listed in agreement with its summary may as well be looked up. -/
theorem plainName_withListing (happs : ∀ app ∈ apps, Summarised platform app)
    (hlisting : ListsSome apps listing) (guid : String) :
    plainName (withListing platform listing) guid = curledName platform guid := by
  rw [plainName]
  cases hname : listedName? (withListing platform listing) guid with
  | none => rfl
  | some name =>
    obtain ⟨app, happ, rfl, rfl⟩ := listedName?_eq_some hname
    obtain ⟨told, htold, hmem⟩ := mem_of_mem_listed happ
    exact (curledName_of_summarised (happs app (hlisting.subset htold hmem))).symm

theorem plainRecord_withListing (happs : ∀ app ∈ apps, Summarised platform app)
    (hlisting : ListsSome apps listing) :
    plainRecord (withListing platform listing) = curledRecord platform := by
  funext r
  rw [plainRecord, curledRecord, plainName_withListing happs hlisting]
  rfl

section Run

variable {σ α : Type} (platform : Script) (others : Dialogue.Handler interface σ) (st : σ)

/-- What an action comes to on the platform with a listing. -/
def outcome (action : Action α) (listing : Except PlatformError (List App)) : Except Error α :=
  (action.run.run (withPlatform (withListing platform listing) others) st).1

variable {platform}

theorem outcome_recordsOf (happs : ∀ app ∈ apps, Summarised platform app)
    (hlisting : ListsSome apps listing) (applications : List (List Registration)) :
    outcome platform others st (recordsOf applications) listing =
      applications.flatten.mapM (curledRecord platform) := by
  rw [outcome, result_recordsOf, plainRecord_withListing happs hlisting]

theorem outcome_records (happs : ∀ app ∈ apps, Summarised platform app)
    (hlisting : ListsSome apps listing) (base token : String) :
    outcome platform others st (records base token) listing =
      (toldApplications others st base token >>= fun applications =>
        applications.flatten.mapM (curledRecord platform)) := by
  rw [outcome, result_records, plainRecord_withListing happs hlisting]

/-- **Listings that agree with the summaries give the same records, or the same error.**  They are
those of the join that looks every name up. -/
theorem records_of_agreeing_listing (happs : ∀ app ∈ apps, Summarised platform app)
    (hlisting : ListsSome apps listing) :
    (∀ applications,
      outcome platform others st (recordsOf applications) listing =
          outcome platform others st (recordsOf applications) (.ok apps) ∧
        outcome platform others st (recordsOf applications) listing =
          applications.flatten.mapM (curledRecord platform)) ∧
      ∀ base token,
        outcome platform others st (records base token) listing =
          outcome platform others st (records base token) (.ok apps) := by
  have hall := listsSome_self apps
  refine ⟨fun applications => ?_, fun base token => ?_⟩
  · have hjoined := outcome_recordsOf others st happs hlisting applications
    exact ⟨hjoined.trans (outcome_recordsOf others st happs hall applications).symm, hjoined⟩
  · rw [outcome_records others st happs hlisting, outcome_records others st happs hall]

end Run

/-! ## A platform with summaries -/

/-- A platform with the summaries of two applications. -/
def storePlatform : Script
  | .curl path =>
    if path = "/v2/apps/g1/summary" then .ok "\x7b\"name\":\"shop\"\x7d"
    else if path = "/v2/apps/g2/summary" then .ok "\x7b\"name\":\"stock\",\"code\":0\x7d"
    else .error (.command "curl" "no such path")
  | .apps | .service _ | .apiEndpoint | .token | .username | .org | .space =>
    .error (.command "" "")

theorem summarised_of_store : ∀ app ∈ ([⟨"shop", "g1"⟩, ⟨"stock", "g2"⟩] : List App),
    Summarised storePlatform app := by
  refine List.forall_mem_cons.2 ⟨?_, List.forall_mem_singleton.2 ?_⟩
  · exact ⟨"\x7b\"name\":\"shop\"\x7d", ⟨"shop", 0, "", ""⟩, rfl,
      eq_ok_of_toOption (by decide +kernel), rfl, rfl⟩
  · exact ⟨"\x7b\"name\":\"stock\",\"code\":0\x7d", ⟨"stock", 0, "", ""⟩, rfl,
      eq_ok_of_toOption (by decide +kernel), rfl, rfl⟩

/-- With one application listed, the other is curled, and the records are as if both were. -/
theorem records_of_partial_listing :
    let registrations : List (List Registration) :=
      [[⟨"SHOP", "s:1", .up, ⟨"g1", "0", "z1"⟩⟩, ⟨"CRON", "c:1", .down, ⟨"", "", ""⟩⟩],
        [⟨"STOCK", "t:1", .up, ⟨"g2", "0", "z1"⟩⟩, ⟨"SHOP", "s:2", .up, ⟨"g1", "1", "z2"⟩⟩]]
    outcome storePlatform (answering "") () (recordsOf registrations) (.ok [⟨"stock", "g2"⟩]) =
        outcome storePlatform (answering "") () (recordsOf registrations)
          (.ok [⟨"shop", "g1"⟩, ⟨"stock", "g2"⟩]) ∧
      outcome storePlatform (answering "") () (recordsOf registrations) (.ok [⟨"stock", "g2"⟩]) =
        .ok [⟨"g1", "shop", "SHOP", "s:1", .up, "z1", "0"⟩,
          ⟨"", "?????", "CRON", "c:1", .down, "", "?"⟩,
          ⟨"g2", "stock", "STOCK", "t:1", .up, "z1", "0"⟩,
          ⟨"g1", "shop", "SHOP", "s:2", .up, "z2", "1"⟩] := by
  intro registrations
  have hlists : ListsSome [⟨"shop", "g1"⟩, ⟨"stock", "g2"⟩] (.ok [⟨"stock", "g2"⟩]) := by
    intro told h
    cases h
    exact ⟨_, .refl _, by decide⟩
  obtain ⟨hsame, hjoined⟩ := (records_of_agreeing_listing (answering "") ()
    summarised_of_store hlists).1 registrations
  exact ⟨hsame, hjoined.trans (eq_ok_of_toOption (by decide +kernel))⟩

end ServiceAdmin.Registry
