import ServiceAdmin.Proofs.Registry.FanOut
import ServiceAdmin.Proofs.Registry.Target
import ServiceAdmin.Proofs.Service.Seam

/-!
# One slash at every seam

Operations and reports put what they ask for behind a URL that was resolved before.  Some of it
begins with a slash and some does not, and the URL ends accordingly, whatever the dashboard is and
whatever an embedded broker answers (`slashes_kept`).
-/

namespace ServiceAdmin

open Http Service
open Url (IsStem EndsInOneSlash IsJoined)

namespace Registry

variable {hostPrefix registry base token : String} {h : History}

/-! ## The URL of a registry -/

theorem endsInOneSlash_of_locate
    (hc : (locate hostPrefix registry).run.Course h (.ok (base, token))) : EndsInOneSlash base := by
  rcases course_bind.1 hc with ⟨e, -, hend⟩ | ⟨told, before, h, rfl, -, hc⟩
  · cases hend
  obtain ⟨r, hr, hend⟩ := course_bind_pure.1 hc
  cases r with
  | error e => cases hend
  | ok p =>
    cases hend
    rcases fits_of_resolve hr with hfits | ⟨hkind, -⟩
    · exact hfits
    · cases hkind

/-! ## Requests to a registry -/

/-- The join of the registrations with their applications sends nothing. -/
theorem sent_of_course_records {result : Except Error (List Record)}
    (hc : (records base token).run.Course h result) :
    sent h = [⟨.get, base ++ "eureka/apps", none, token⟩] := by
  rcases sent_of_course_submit_bind hc with hsent | ⟨applications, t, ht, hsent⟩
  · exact hsent
  · have hasks : (recordsOf applications).run.Asks fun q => ∀ r, q ≠ Query.send r :=
      asks_recordsOf (by rintro r ⟨⟩) (by rintro path r ⟨⟩) applications
    rw [hsent, sent_eq_nil (ht.asks hasks)]

/-- What an action on a registration puts behind the URL of the registry. -/
def InstanceAction.suffix (action : InstanceAction) (record : Record) : String :=
  "eureka/apps/" ++ (record.registeredName ++ "/" ++ (record.instanceId ++ action.query))

theorem InstanceAction.isJoined (hbase : EndsInOneSlash base) (action : InstanceAction)
    (record : Record) (token : String) :
    IsJoined base (action.suffix record) (action.requestOn base token record).url := by
  have hhead : (action.suffix record).toList.head? ≠ some '/' := by
    simp [suffix]
  have hurl : (action.requestOn base token record).url = base ++ action.suffix record := by
    rw [requestOn, request_url, suffix, String.append_assoc]
  rw [hurl]
  exact hbase.isJoined hhead

/-- The only request is joined to the URL of the registry. -/
def SendsOne (suffix : String) (_ : History) (located : String × String)
    (requests : List Request) : Prop :=
  ∃ r, requests = [r] ∧ IsJoined located.1 suffix r.url

/-- The first request reads the registrations, and each other one acts on a registration; all are
joined to the URL of the registry. -/
def SendsActions (action : InstanceAction) (_ : History) (located : String × String)
    (requests : List Request) : Prop :=
  ∃ r rest, requests = r :: rest ∧ IsJoined located.1 "eureka/apps" r.url ∧
    ∀ r' ∈ rest, ∃ record, r' = action.requestOn located.1 located.2 record ∧
      IsJoined located.1 (action.suffix record) r'.url

variable (hostPrefix registry : String)

theorem sendsAfter_locate_info :
    SendsAfter (locate hostPrefix registry) (SendsOne "info") (info hostPrefix registry) := by
  refine sendsAfter_bind ?_
  rintro ⟨base, token⟩ before after result hbefore hafter
  refine ⟨⟨.get, base ++ "info", none, token⟩, ?_,
    (endsInOneSlash_of_locate hbefore).isJoined (by decide)⟩
  rcases sent_of_course_submit_bind hafter with hsent | ⟨info, t, ht, hsent⟩
  · exact hsent
  · rw [hsent, (course_pure.1 ht).1]
    rfl

theorem sendsAfter_locate_list :
    SendsAfter (locate hostPrefix registry) (SendsOne "eureka/apps")
      (list hostPrefix registry) := by
  refine sendsAfter_bind ?_
  rintro ⟨base, token⟩ before after result hbefore hafter
  obtain ⟨r, hr, -⟩ := course_bind_pure.1 hafter
  exact ⟨_, sent_of_course_records hr, (endsInOneSlash_of_locate hbefore).isJoined (by decide)⟩

theorem sendsAfter_locate_operate (appName : String) (index : Option Nat)
    (action : InstanceAction) :
    SendsAfter (locate hostPrefix registry) (SendsActions action)
      (operate hostPrefix registry appName index action) := by
  refine sendsAfter_bind ?_
  rintro ⟨base, token⟩ before after result hbefore hafter
  have hbase := endsInOneSlash_of_locate hbefore
  have hread : IsJoined base "eureka/apps" (base ++ "eureka/apps") := hbase.isJoined (by decide)
  rcases course_bind.1 hafter with ⟨e, hr, rfl⟩ | ⟨records, h, h', rfl, hr, hacting⟩
  · exact ⟨_, [], sent_of_course_records hr, hread, fun _ hmem => nomatch hmem⟩
  have hsent : sent (h ++ h') = ⟨.get, base ++ "eureka/apps", none, token⟩ :: sent h' := by
    rw [sent_append, sent_of_course_records hr]
    rfl
  refine ⟨_, sent h', hsent, hread, fun r' hmem => ?_⟩
  rw [course_ofExcept_bind] at hacting
  cases hselect : select appName index records with
  | error e =>
    rw [hselect] at hacting
    obtain ⟨rfl, -⟩ := Dialogue.course_done.1 hacting
    cases hmem
  | ok selected =>
    rw [hselect] at hacting
    have hrounds := rounds_of_course action base token registry selected h' result hacting
    obtain ⟨record, -, rfl⟩ := List.mem_map.1 (hrounds.sent_prefix.subset hmem)
    exact ⟨record, rfl, action.isJoined hbase record token⟩

end Registry

/-! ## All seams -/

/-- Every URL that is resolved ends as it must, and every request behind it has one slash at its
seam. -/
structure SlashesKept (hostPrefix name : String) : Prop where
  service : ∀ token h p, (resolve hostPrefix name token .service).run.Course h (.ok p) →
    EndsInOneSlash p.url
  management : ∀ token h p, (resolve hostPrefix name token .management).run.Course h (.ok p) →
    IsStem p.url
  lifecycle : ∀ token h p, (resolve hostPrefix name token .lifecycle).run.Course h (.ok p) →
    IsStem p.url ∨ IsAtBroker hostPrefix name h p.url
  /-- A URI of slashes only is refused. -/
  only_slashes : ∀ token h result r response uri,
    (resolve hostPrefix name token .service).run.Course h result →
      onSend r (.ok response) ∈ h → TellsUri r.url response uri → OnlySlashes uri →
        result = .error (.resolve (.emptyServiceUri r.url))
  /-- Of any other URI, the slashes at the end become one. -/
  trimmed : ∀ token h result r response uri,
    (resolve hostPrefix name token .service).run.Course h result →
      onSend r (.ok response) ∈ h → TellsUri r.url response uri → ¬ OnlySlashes uri →
        ∃ stem slashes p, IsStem stem ∧ OnlySlashes slashes ∧ uri = stem ++ slashes ∧
          result = .ok p ∧ p.url = stem ++ "/"
  operation : ∀ zone operation, SendsAfter (Operation.locate operation hostPrefix name)
    (operation.SendsOwn hostPrefix name) (perform zone hostPrefix name operation)
  info : SendsAfter (Registry.locate hostPrefix name) (Registry.SendsOne "info")
    (Registry.info hostPrefix name)
  list : SendsAfter (Registry.locate hostPrefix name) (Registry.SendsOne "eureka/apps")
    (Registry.list hostPrefix name)
  operate : ∀ appName index action, SendsAfter (Registry.locate hostPrefix name)
    (Registry.SendsActions action) (Registry.operate hostPrefix name appName index action)

/-- **Between a URL that was resolved and what is put behind it is one slash.**  The URL is that of
a running service, of an instance at its dashboard, or of a registry; at the central broker, the
platform's GUID of the instance stands before the seam.  Every run goes through a course
(`Dialogue.course_run`). -/
theorem slashes_kept (hostPrefix name : String) : SlashesKept hostPrefix name where
  service := by
    intro token h p hc
    rcases fits_of_resolve hc with hfits | ⟨hkind, -⟩
    · exact hfits
    · cases hkind
  management := by
    intro token h p hc
    rcases fits_of_resolve hc with hfits | ⟨hkind, -⟩
    · exact hfits
    · cases hkind
  lifecycle := by
    intro token h p hc
    exact (fits_of_resolve hc).imp id And.right
  only_slashes := by
    intro token h result r response uri hc hsend huri hslashes
    exact (resolve_of_tellsUri hc hsend huri).1 hslashes
  trimmed := by
    intro token h result r response uri hc hsend huri hslashes
    obtain ⟨p, hp, hurl⟩ := (resolve_of_tellsUri hc hsend huri).2 hslashes
    obtain ⟨slashes, honly, heq⟩ := exists_eq_dropSlashes_append uri
    exact ⟨dropSlashes uri, slashes, p, isStem_dropSlashes hslashes, honly, heq, hp, hurl⟩
  operation zone := Operation.sendsAfter_locate zone hostPrefix name
  info := Registry.sendsAfter_locate_info hostPrefix name
  list := Registry.sendsAfter_locate_list hostPrefix name
  operate := Registry.sendsAfter_locate_operate hostPrefix name

end ServiceAdmin
