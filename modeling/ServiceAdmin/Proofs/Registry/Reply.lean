import ServiceAdmin.Proofs.Json.WrittenRecord
import ServiceAdmin.Registry.View

/-!
# What a registry replies

The texts of a reply are told by the grammar of JSON and the fields of each object, of which one
may be left out if it has its default; members may come in any order and among others.  Every such
text is decoded as the registrations that it writes (`decodeBody_of_reply`).
-/

namespace ServiceAdmin.Registry

open Json

variable {t : List Char}

/-! ## The texts of a reply -/

/-- The word of each state. -/
def statusWords : List (Status × String) :=
  [(.up, "UP"), (.down, "DOWN"), (.starting, "STARTING"), (.outOfService, "OUT_OF_SERVICE"),
    (.unknown, "UNKNOWN")]

/-- The names of a state; the unknown one has all those that belong to no state. -/
def Status.Named (status : Status) (name : String) : Prop :=
  (status, name) ∈ statusWords ∨ status = .unknown ∧ ∀ s, (s, name) ∉ statusWords

/-- The texts of a state. -/
def Status.Written (status : Status) (t : List Char) : Prop :=
  ∃ name, status.Named name ∧ IsStringOf name t

def Metadata.fields (m : Metadata) : List Field := [
  ⟨"cfAppGuid", IsStringOf m.appGuid, m.appGuid = ""⟩,
  ⟨"cfInstanceIndex", IsStringOf m.instanceIndex, m.instanceIndex = ""⟩,
  ⟨"zone", IsStringOf m.zone, m.zone = ""⟩]

def Registration.fields (r : Registration) : List Field := [
  ⟨"app", IsStringOf r.app, False⟩,
  ⟨"instanceId", IsStringOf r.instanceId, False⟩,
  ⟨"status", r.status.Written, r.status = .unknown⟩,
  ⟨"metadata", IsRecordOf r.metadata.fields, r.metadata = Metadata.blank⟩]

/-- The fields of an application with these registrations. -/
def applicationFields (registrations : List Registration) : List Field := [
  ⟨"instance", IsListOf (fun r => IsRecordOf r.fields) registrations, registrations = []⟩]

/-- The fields of a list of applications. -/
def applicationListFields (apps : List (List Registration)) : List Field := [
  ⟨"application", IsListOf (fun rs => IsRecordOf (applicationFields rs)) apps, apps = []⟩]

/-- The fields of a reply. -/
def replyFields (apps : List (List Registration)) : List Field := [
  ⟨"applications", IsRecordOf (applicationListFields apps), apps = []⟩]

/-- The texts of a reply that tells the registrations of these applications. -/
def IsReplyOf (apps : List (List Registration)) (text : String) : Prop :=
  IsDocument (IsRecordOf (replyFields apps)) text

/-! ## Reading it back -/

theorem Status.mem_statusWords_iff {status : Status} {word : String} :
    (status, word) ∈ statusWords ↔ word = status.text := by
  cases status <;> simp [statusWords, Status.text]

/-- A state is read from each of its texts. -/
theorem Status.reads {status : Status} (h : status.Written t) : Status.shape.Reads status t := by
  obtain ⟨name, hname, ht⟩ := h
  have hreads : Status.shape.Reads _ t := Shape.reads_choice ht
  rcases hname with hword | ⟨rfl, hother⟩
  · obtain rfl := Status.mem_statusWords_iff.1 hword
    cases status <;> exact hreads
  · rw [List.find?_eq_none.2] at hreads
    · exact hreads
    · simp only [List.forall_mem_map, decide_eq_true_eq]
      exact fun s _ => Ne.symm (mt Status.mem_statusWords_iff.2 (hother s))

/-- What is known of the metadata when these members have been read. -/
def Metadata.part (m : Metadata) (seen : List String) : Metadata where
  appGuid := if "cfAppGuid" ∈ seen then m.appGuid else ""
  instanceIndex := if "cfInstanceIndex" ∈ seen then m.instanceIndex else ""
  zone := if "zone" ∈ seen then m.zone else ""

theorem Metadata.reads {m : Metadata} (h : IsRecordOf m.fields t) : Metadata.shape.Reads m t := by
  refine Layout.reads_record m.part rfl ?_ rfl (fun seen hseen => ?_) h
  · refine .cons (Member.fits_free (fun _ => Shape.reads_string) (fun seen => ?_) _)
      (.cons (Member.fits_free (fun _ => Shape.reads_string) (fun seen => ?_) _)
        (.cons (Member.fits_free (fun _ => Shape.reads_string) (fun seen => ?_) _) .nil))
    all_goals simp [Metadata.part]
  · simp only [Metadata.fields, List.forall_mem_cons] at hseen
    obtain ⟨hguid, hindex, hzone, -⟩ := hseen
    rw [Metadata.part, ite_eq_left_iff.2, ite_eq_left_iff.2, ite_eq_left_iff.2]
    · exact fun h => (hzone.resolve_left h).symm
    · exact fun h => (hindex.resolve_left h).symm
    · exact fun h => (hguid.resolve_left h).symm

/-- What is known of a registration when these members have been read. -/
def Registration.part (r : Registration) (seen : List String) : Registration where
  app := if "app" ∈ seen then r.app else ""
  instanceId := if "instanceId" ∈ seen then r.instanceId else ""
  status := if "status" ∈ seen then r.status else .unknown
  metadata := if "metadata" ∈ seen then r.metadata else Metadata.blank

theorem Registration.reads {r : Registration} (h : IsRecordOf r.fields t) :
    Registration.shape.Reads r t := by
  refine Layout.reads_record r.part rfl ?_ rfl (fun seen hseen => ?_) h
  · refine .cons (Member.fits_needed (fun _ => Shape.reads_string) fun seen => ?_)
      (.cons (Member.fits_needed (fun _ => Shape.reads_string) fun seen => ?_)
        (.cons (Member.fits_free (fun _ => Status.reads) (fun seen => ?_) _)
          (.cons (Member.fits_free (fun _ => Metadata.reads) (fun seen => ?_) _) .nil)))
    all_goals simp [Registration.part]
  · simp only [Registration.fields, List.forall_mem_cons] at hseen
    obtain ⟨happ, hid, hstatus, hmetadata, -⟩ := hseen
    rw [Registration.part, if_pos (happ.resolve_right id), if_pos (hid.resolve_right id),
      ite_eq_left_iff.2, ite_eq_left_iff.2]
    · exact fun h => (hmetadata.resolve_left h).symm
    · exact fun h => (hstatus.resolve_left h).symm

theorem applicationShape_reads {registrations : List Registration}
    (h : IsRecordOf (applicationFields registrations) t) :
    applicationShape.Reads registrations t :=
  Layout.reads_record_of_list
    (fun _ ht => Shape.reads_list (ht.mono fun _ _ => Registration.reads)) h

theorem applicationListShape_reads {apps : List (List Registration)}
    (h : IsRecordOf (applicationListFields apps) t) : applicationListShape.Reads apps t :=
  Layout.reads_record_of_list
    (fun _ ht => Shape.reads_list (ht.mono fun _ _ => applicationShape_reads)) h

theorem applicationsShape_reads {apps : List (List Registration)}
    (h : IsRecordOf (replyFields apps) t) : applicationsShape.Reads apps t :=
  Layout.reads_record_of_list (fun _ => applicationListShape_reads) h

theorem decodeText_of_reply {apps : List (List Registration)} {text : String}
    (h : IsReplyOf apps text) : decodeText applicationsShape text = .ok apps :=
  decodeText_of_isDocument (h.mono fun _ => applicationsShape_reads)

/-- **Every text of a reply is decoded as the registrations that it tells, in their order.** -/
theorem decodeBody_of_reply (apps : List (List Registration)) (text : String)
    (h : IsReplyOf apps text) (what : String) :
    Service.decodeBody applicationsShape what text = .ok apps := by
  rw [Service.decodeBody, decodeText_of_reply h]

/-! ### A reply in an unusual form -/

section Unusual

/-- A reply in another order than usual, with blanks, an escape and other members, and where a
member is left out. -/
def unusualReply : String :=
  " \x7b\"x\":[1e5,\x7b\"\\ud800\":null\x7d],\"applications\":\x7b\"application\":[" ++
    "\x7b\"instance\":[\x7b\"status\":\"U\\u0050\",\"instanceId\":\"i\",\"app\":\"A\"\x7d]\x7d," ++
    "\x7b\x7d]\x7d\x7d\n"

def unusualRegistration : Registration := ⟨"A", "i", .up, Metadata.blank⟩

/-- A list with a number and an object, whose key is half of a pair of surrogates. -/
def unusualValue : List Char :=
  plainList ["1e5".toList, '\x7b' :: ([','].intercalate ["\"\\ud800\":null".toList] ++ ['\x7d'])]

def unusualStatus : List Char := '"' :: ([['U'], ['\\', 'u', '0', '0', '5', '0']].flatten ++ ['"'])

def unusualInstance : List Char :=
  plainObject [("status", unusualStatus), ("instanceId", writeString "i"), ("app", writeString "A")]

def unusualApplications : List Char :=
  plainObject [("application",
    plainList [plainObject [("instance", plainList [unusualInstance])], plainObject []])]

theorem isValue_unusualValue : IsValue unusualValue := by
  refine .list (enclosed_intercalate _ _ _) ?_
  rw [List.forall_mem_cons, List.forall_mem_singleton]
  constructor
  · have hwhole : IsWhole ['1'] := .digits (by decide) ⟨by decide, by decide⟩
    have hexponent : IsExponent ['e', '5'] :=
      .digits (s := []) (.inl rfl) (by decide) ⟨by decide, by decide⟩
    exact .scalar (.number (.intro (s := []) (by decide) hwhole .none hexponent))
  · have hunit : IsUnitEscape 0xD800 "\\ud800".toList :=
      .intro (i := 13) (j := 8) (k := 0) (l := 0) (by decide) (by decide) (by decide) (by decide)
    have hkey : IsString "\"\\ud800\"".toList :=
      ⟨["\\ud800".toList], List.forall_mem_singleton.2 (.unit hunit), by decide⟩
    have hmember : List.Forall₂ (fun m : List Char × List Char => Joined m.1 m.2)
        [("\"\\ud800\"".toList, "null".toList)] [_] :=
      .cons (.intro blank_nil blank_nil) .nil
    exact .object hmember (enclosed_intercalate _ _ _) (List.forall_mem_singleton.2 hkey)
      (List.forall_mem_singleton.2 (.scalar (.word (by decide))))

theorem isStringOf_unusualStatus : IsStringOf "UP" unusualStatus := by
  have hunit : IsUnitEscape 'P'.toNat ['\\', 'u', '0', '0', '5', '0'] :=
    .intro (i := 0) (j := 0) (k := 5) (l := 0) (by decide) (by decide) (by decide) (by decide)
  have hliteral : IsLiteral 'U' := ⟨by decide, by decide, by decide⟩
  exact ⟨_, .cons (.literal hliteral) (.cons (.unit hunit) .nil), rfl⟩

theorem isRecordOf_unusualInstance :
    IsRecordOf unusualRegistration.fields unusualInstance := by
  refine ⟨_, isObjectOf_plainObject _, ?_, by simp [Registration.fields]⟩
  simp only [Registration.fields, List.forall_mem_cons, List.not_mem_nil, false_imp_iff,
    implies_true, and_true]
  exact ⟨.once (isStringOf_writeString "A"), .once (isStringOf_writeString "i"),
    .once ⟨_, .inl (by decide), isStringOf_unusualStatus⟩, .leftOut rfl⟩

theorem isRecordOf_unusualApplications :
    IsRecordOf (applicationListFields [[unusualRegistration], []]) unusualApplications := by
  have hfirst : IsRecordOf (applicationFields [unusualRegistration])
      (plainObject [("instance", plainList [unusualInstance])]) := by
    refine ⟨_, isObjectOf_plainObject _, ?_, by simp [applicationFields]⟩
    exact List.forall_mem_singleton.2
      (.once (isListOf_plainList (.cons isRecordOf_unusualInstance .nil)))
  have hsecond : IsRecordOf (applicationFields []) (plainObject []) :=
    ⟨_, isObjectOf_plainObject _, List.forall_mem_singleton.2 (.leftOut rfl), by simp⟩
  refine ⟨_, isObjectOf_plainObject _, ?_, by simp [applicationListFields]⟩
  exact List.forall_mem_singleton.2
    (.once (isListOf_plainList (.cons hfirst (.cons hsecond .nil))))

theorem isReplyOf_unusualReply : IsReplyOf [[unusualRegistration], []] unusualReply := by
  refine ⟨[' '], plainObject [("x", unusualValue), ("applications", unusualApplications)], ['\n'],
    by decide, ⟨_, isObjectOf_plainObject _, ?_, ?_⟩, by decide, by decide +kernel⟩
  · exact List.forall_mem_singleton.2 (.once isRecordOf_unusualApplications)
  · simp [replyFields, isValue_unusualValue]

theorem decodeBody_of_unusual_reply :
    IsReplyOf [[unusualRegistration], []] unusualReply ∧
      Service.decodeBody applicationsShape "registered applications" unusualReply =
        .ok [[unusualRegistration], []] :=
  ⟨isReplyOf_unusualReply, decodeBody_of_reply _ _ isReplyOf_unusualReply _⟩

end Unusual

end ServiceAdmin.Registry
