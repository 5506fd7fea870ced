import ServiceAdmin.Proofs.Number.Numeral
import ServiceAdmin.Registry.Select

/-!
# What is selected

Only the records of the application decide what `select` gives: `Selected` says by cases what that
is, in the order in which the cases are tried.  So other records may come, go and change places, and
what was selected is selected again (`select_exactly`).
-/

namespace ServiceAdmin.Registry

open Number (readNat max32 IsNumeralOf IntFault)

/-- The record is bound, to an application of this name. -/
def Record.IsOf (appName : String) (r : Record) : Prop := r.appGuid ≠ "" ∧ r.appName = appName

instance (appName : String) (r : Record) : Decidable (r.IsOf appName) :=
  inferInstanceAs (Decidable (_ ∧ _))

/-- The index of the record is a numeral of `n`. -/
def Record.HasIndex (n : Nat) (r : Record) : Prop := IsNumeralOf max32 n r.instanceIndex.toList

instance (n : Nat) (r : Record) : Decidable (r.HasIndex n) :=
  inferInstanceAs (Decidable (IsNumeralOf _ _ _))

/-- The records of an application, in their order. -/
def recordsOfApp (appName : String) (records : List Record) : List Record :=
  records.filter (Record.IsOf appName)

variable {appName : String} {index : Option Nat} {i : Nat} {records records' matching : List Record}
  {r : Record} {result : Except Error (List Record)}

/-- What comes of selecting, if these are the records of the application. -/
inductive Selected (appName : String) (index : Option Nat) (matching : List Record) :
    Except Error (List Record) → Prop
  /-- There are none. -/
  | notFound : matching = [] →
      Selected appName index matching (.error (.lookup (.appNotFound appName)))
  /-- No index is asked for. -/
  | all : matching ≠ [] → index = none → Selected appName index matching (.ok matching)
  /-- The first index that is no numeral. -/
  | invalid {i : Nat} {before after : List Record} {r : Record} {fault : IntFault} :
      index = some i → matching = before ++ r :: after → (∀ b ∈ before, ∃ n, b.HasIndex n) →
      (∀ n, ¬r.HasIndex n) → readNat max32 r.instanceIndex.toList = .error fault →
      Selected appName index matching
        (.error (.validation (.invalidInstanceIndex r.instanceIndex fault.message)))
  /-- Every index is a numeral, but not of the one that is asked for. -/
  | indexNotFound {i : Nat} : index = some i → matching ≠ [] →
      (∀ r ∈ matching, ∃ n, r.HasIndex n) → (∀ r ∈ matching, ¬r.HasIndex i) →
      Selected appName index matching (.error (.lookup (.instanceIndexNotFound i)))
  | some {i : Nat} : index = some i → (∀ r ∈ matching, ∃ n, r.HasIndex n) →
      (∃ r ∈ matching, r.HasIndex i) →
      Selected appName index matching (.ok (matching.filter (Record.HasIndex i)))

/-! ## Indices -/

theorem hasIndex_or_fault (r : Record) :
    (∃ n, r.HasIndex n) ∨ ∃ fault, (∀ n, ¬r.HasIndex n) ∧
      readNat max32 r.instanceIndex.toList = .error fault := by
  cases h : readNat max32 r.instanceIndex.toList with
  | ok n => exact .inl ⟨n, Number.readNat_eq_ok_iff.1 h⟩
  | error fault =>
    refine .inr ⟨fault, fun n hn => ?_, rfl⟩
    rw [Record.HasIndex, ← Number.readNat_eq_ok_iff, h] at hn
    cases hn

/-- All indices are numerals, or there is a first one that is none. -/
theorem forall_hasIndex_or_first (matching : List Record) :
    (∀ r ∈ matching, ∃ n, r.HasIndex n) ∨ ∃ before r after fault,
      matching = before ++ r :: after ∧ (∀ b ∈ before, ∃ n, b.HasIndex n) ∧
        (∀ n, ¬r.HasIndex n) ∧ readNat max32 r.instanceIndex.toList = .error fault := by
  induction matching with
  | nil => exact .inl fun _ h => nomatch h
  | cons r rest ih =>
    rcases hasIndex_or_fault r with hr | ⟨fault, hr, hfault⟩
    · rcases ih with hrest | ⟨before, b, after, fault, rfl, hbefore, hb⟩
      · exact .inl (List.forall_mem_cons.2 ⟨hr, hrest⟩)
      · exact .inr ⟨r :: before, b, after, fault, rfl, List.forall_mem_cons.2 ⟨hr, hbefore⟩, hb⟩
    · exact .inr ⟨[], r, rest, fault, rfl, fun _ h => (nomatch h), hr, hfault⟩

theorem withIndex_cons {n : Nat} (h : r.HasIndex n) (rest : List Record) :
    withIndex i (r :: rest) =
      (withIndex i rest).map fun rs => if r.HasIndex i then r :: rs else rs := by
  have hiff : n = i ↔ r.HasIndex i := by
    constructor
    · rintro rfl
      exact h
    · exact h.unique
  rw [withIndex, Number.readNat_eq_ok_iff.2 h]
  simp only [hiff]

theorem withIndex_of_forall (h : ∀ r ∈ matching, ∃ n, r.HasIndex n) :
    withIndex i matching = .ok (matching.filter (Record.HasIndex i)) := by
  induction matching with
  | nil => rfl
  | cons r rest ih =>
    obtain ⟨⟨n, hr⟩, hrest⟩ := List.forall_mem_cons.1 h
    rw [withIndex_cons hr, ih hrest, List.filter_cons]
    by_cases hi : r.HasIndex i <;> simp [hi, Except.map]

theorem withIndex_of_first {before after : List Record} {fault : IntFault}
    (hbefore : ∀ b ∈ before, ∃ n, b.HasIndex n)
    (hfault : readNat max32 r.instanceIndex.toList = .error fault) :
    withIndex i (before ++ r :: after) =
      .error (.invalidInstanceIndex r.instanceIndex fault.message) := by
  induction before with
  | nil => rw [List.nil_append, withIndex, hfault]
  | cons b before ih =>
    obtain ⟨⟨n, hb⟩, hbefore⟩ := List.forall_mem_cons.1 hbefore
    rw [List.cons_append, withIndex_cons hb, ih hbefore]
    rfl

/-! ## Selecting -/

theorem belongsTo_iff : r.belongsTo appName = true ↔ r.IsOf appName := by
  simp [Record.belongsTo, Record.isBound, Record.IsOf]

theorem filter_belongsTo (appName : String) (records : List Record) :
    records.filter (Record.belongsTo appName) = recordsOfApp appName records := by
  refine congrArg (List.filter · records) (funext fun r => Bool.eq_iff_iff.2 ?_)
  rw [belongsTo_iff, decide_eq_true_iff]

theorem select_of_selected (h : Selected appName index (recordsOfApp appName records) result) :
    select appName index records = result := by
  rw [← filter_belongsTo] at h
  unfold select
  generalize records.filter (Record.belongsTo appName) = matching at h ⊢
  cases h with
  | notFound hnil => rw [hnil]
  | all hne hindex =>
    obtain ⟨r, rest, rfl⟩ := List.exists_cons_of_ne_nil hne
    rw [hindex]
  | @invalid i before after r fault hindex hsplit hbefore _ hfault =>
    have hne : matching ≠ [] := by simp [hsplit]
    have hwith : withIndex i (before ++ r :: after) = _ := withIndex_of_first hbefore hfault
    rw [← hsplit] at hwith
    obtain ⟨b, rest, rfl⟩ := List.exists_cons_of_ne_nil hne
    rw [hindex]
    dsimp only
    rw [hwith]
  | @indexNotFound i hindex hne hnumerals hnone =>
    have hwith := withIndex_of_forall (i := i) hnumerals
    rw [List.filter_eq_nil_iff.2 (by simpa using hnone)] at hwith
    obtain ⟨b, rest, rfl⟩ := List.exists_cons_of_ne_nil hne
    rw [hindex]
    dsimp only
    rw [hwith]
  | @some i hindex hnumerals hsome =>
    obtain ⟨r, hr, hi⟩ := hsome
    have hwith := withIndex_of_forall (i := i) hnumerals
    have hmem : r ∈ matching.filter (Record.HasIndex i) :=
      List.mem_filter.2 ⟨hr, decide_eq_true hi⟩
    obtain ⟨b, rest, rfl⟩ := List.exists_cons_of_ne_nil (List.ne_nil_of_mem hr)
    obtain ⟨s, selected, hselected⟩ := List.exists_cons_of_ne_nil (List.ne_nil_of_mem hmem)
    rw [hindex]
    dsimp only
    rw [hwith, hselected]

theorem exists_selected (appName : String) (index : Option Nat) (matching : List Record) :
    ∃ result, Selected appName index matching result := by
  by_cases hnil : matching = []
  · exact ⟨_, .notFound hnil⟩
  cases index with
  | none => exact ⟨_, .all hnil rfl⟩
  | some i =>
    rcases forall_hasIndex_or_first matching with
      hnumerals | ⟨before, r, after, fault, hsplit, hbefore, hr, hfault⟩
    · by_cases hsome : ∃ r ∈ matching, r.HasIndex i
      · exact ⟨_, .some rfl hnumerals hsome⟩
      · exact ⟨_, .indexNotFound rfl hnil hnumerals fun r hr hi => hsome ⟨r, hr, hi⟩⟩
    · exact ⟨_, .invalid rfl hsplit hbefore hr hfault⟩

theorem selected_select (appName : String) (index : Option Nat) (records : List Record) :
    Selected appName index (recordsOfApp appName records) (select appName index records) := by
  obtain ⟨result, h⟩ := exists_selected appName index (recordsOfApp appName records)
  rwa [select_of_selected h]

/-! ## Other records -/

/-- Records that are not of the application come, go and change places. -/
inductive Rearranged (appName : String) : List Record → List Record → Prop
  | refl (records : List Record) : Rearranged appName records records
  | insert {records a b : List Record} {r : Record} : ¬r.IsOf appName →
      Rearranged appName records (a ++ b) → Rearranged appName records (a ++ r :: b)
  | delete {records a b : List Record} {r : Record} : ¬r.IsOf appName →
      Rearranged appName records (a ++ r :: b) → Rearranged appName records (a ++ b)
  | swap {records a b c : List Record} {r s : Record} : ¬r.IsOf appName → ¬s.IsOf appName →
      Rearranged appName records (a ++ r :: b ++ s :: c) →
      Rearranged appName records (a ++ s :: b ++ r :: c)

theorem recordsOfApp_append (a b : List Record) :
    recordsOfApp appName (a ++ b) = recordsOfApp appName a ++ recordsOfApp appName b :=
  List.filter_append ..

theorem recordsOfApp_cons_of_not (h : ¬r.IsOf appName) (rest : List Record) :
    recordsOfApp appName (r :: rest) = recordsOfApp appName rest :=
  List.filter_cons_of_neg (by simpa using h)

theorem recordsOfApp_of_rearranged (h : Rearranged appName records records') :
    recordsOfApp appName records' = recordsOfApp appName records := by
  induction h with
  | refl => rfl
  | insert hr _ ih =>
    rw [← ih, recordsOfApp_append, recordsOfApp_append, recordsOfApp_cons_of_not hr]
  | delete hr _ ih =>
    rw [← ih, recordsOfApp_append, recordsOfApp_append, recordsOfApp_cons_of_not hr]
  | swap hr hs _ ih =>
    rw [← ih]
    simp only [recordsOfApp_append, recordsOfApp_cons_of_not hr, recordsOfApp_cons_of_not hs]

/-! ## Selecting again -/

theorem recordsOfApp_of_sublist {selected : List Record}
    (h : selected.Sublist (recordsOfApp appName records)) :
    recordsOfApp appName selected = selected := by
  refine List.filter_eq_self.2 fun r hr => ?_
  exact (List.mem_filter.1 (h.subset hr)).2

/-- What was selected is what would be selected of it. -/
theorem Selected.again {selected : List Record}
    (h : Selected appName index matching (.ok selected)) :
    Selected appName index selected (.ok selected) := by
  cases h with
  | all hne hindex => exact .all hne hindex
  | @some i hindex hnumerals hsome =>
    obtain ⟨r, hr, hi⟩ := hsome
    have hself : (matching.filter (Record.HasIndex i)).filter (Record.HasIndex i) =
        matching.filter (Record.HasIndex i) := by
      simp [List.filter_filter]
    have hagain : Selected appName index (matching.filter (Record.HasIndex i))
        (.ok ((matching.filter (Record.HasIndex i)).filter (Record.HasIndex i))) :=
      .some hindex (fun r hr => hnumerals r (List.mem_filter.1 hr).1)
        ⟨r, List.mem_filter.2 ⟨hr, decide_eq_true hi⟩, hi⟩
    rwa [hself] at hagain

theorem Selected.sublist {selected : List Record}
    (h : Selected appName index matching (.ok selected)) : selected.Sublist matching := by
  cases h with
  | all => exact .refl _
  | some => exact List.filter_sublist

/-- **Selecting is decided by the records of the application alone.**  They give what `Selected`
says and nothing else; records that are unbound or of other applications make no difference; and
what was selected is selected again. -/
theorem select_exactly (appName : String) (index : Option Nat) (records : List Record) :
    (∀ result, select appName index records = result ↔
        Selected appName index (recordsOfApp appName records) result) ∧
      (∀ records', Rearranged appName records records' →
        select appName index records' = select appName index records) ∧
      ∀ selected, select appName index records = .ok selected →
        select appName index selected = .ok selected := by
  have hselect := selected_select appName index records
  refine ⟨fun result => ⟨?_, select_of_selected⟩, fun records' h => ?_, fun selected h => ?_⟩
  · rintro rfl
    exact hselect
  · refine select_of_selected ?_
    rwa [recordsOfApp_of_rearranged h]
  · rw [h] at hselect
    refine select_of_selected ?_
    rw [recordsOfApp_of_sublist hselect.sublist]
    exact hselect.again

/-- A record of the application `shop`. -/
def shopRecord : Record := ⟨"g1", "shop", "SHOP", "shop:1", .up, "z1", "+01"⟩

/-- A record of another application, whose index is no numeral. -/
def storeRecord : Record := ⟨"g2", "store", "STORE", "store:1", .up, "z1", "first"⟩

theorem select_exactly_among_others :
    Rearranged "shop" [shopRecord] [storeRecord, shopRecord] ∧
      select "shop" (some 1) [shopRecord] = .ok [shopRecord] ∧
      select "shop" (some 1) [storeRecord, shopRecord] = .ok [shopRecord] := by
  have hrearranged : Rearranged "shop" [shopRecord] [storeRecord, shopRecord] :=
    .insert (a := []) (by decide) (.refl _)
  obtain ⟨hresult, hothers, hagain⟩ := select_exactly "shop" (some 1) [shopRecord]
  have hselected : Selected "shop" (some 1) (recordsOfApp "shop" [shopRecord]) (.ok [shopRecord]) :=
    .some rfl (fun r hr => ⟨1, by revert r; decide⟩) ⟨shopRecord, by decide, by decide⟩
  have hselect := (hresult _).2 hselected
  exact ⟨hrearranged, hagain _ hselect, (hothers _ hrearranged).trans hselect⟩

end ServiceAdmin.Registry
