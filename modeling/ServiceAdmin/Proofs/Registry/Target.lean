import ServiceAdmin.Registry.Action

/-!
# Targets of requests

The names of a registration stand in the URL of a request as they are, with a slash between them and
a query behind them.  So the method and the URL tell the action and the registration, unless a slash
in a name is taken for the one between them, or the end of an id for the query
(`eq_of_sameTarget`, `not_eq_of_sameTarget`).
-/

namespace ServiceAdmin.Registry

/-- What stands before a separator is told by how many separators are in it. -/
theorem append_cons_inj_of_count_eq {α : Type} [DecidableEq α] {sep : α} {s t : List α} :
    ∀ {a b : List α}, a.count sep = b.count sep → a ++ sep :: s = b ++ sep :: t →
      a = b ∧ s = t := by
  intro a
  induction a with
  | nil =>
    intro b hcount h
    cases b with
    | nil => exact ⟨rfl, (List.cons.inj h).2⟩
    | cons d b =>
      obtain ⟨rfl, -⟩ := List.cons.inj h
      rw [List.count_nil, List.count_cons_self] at hcount
      cases hcount
  | cons c a ih =>
    intro b hcount h
    cases b with
    | nil =>
      obtain ⟨rfl, -⟩ := List.cons.inj h
      rw [List.count_nil, List.count_cons_self] at hcount
      cases hcount
    | cons d b =>
      obtain ⟨rfl, hrest⟩ := List.cons.inj h
      rw [List.count_cons, List.count_cons, Nat.add_right_cancel_iff] at hcount
      obtain ⟨rfl, rfl⟩ := ih hcount hrest
      exact ⟨rfl, rfl⟩

/-- The same method and the same URL. -/
def SameTarget (r s : Http.Request) : Prop := r.method = s.method ∧ r.url = s.url

namespace InstanceAction

/-- What follows the names of a registration in the URL of an action. -/
def query : InstanceAction → String
  | deregister => ""
  | enable => "/status?value=UP"
  | disable => "/status?value=OUT_OF_SERVICE"

variable {action action' : InstanceAction} {base token token' app app' id id' : String}

theorem request_url (action : InstanceAction) (base app id token : String) :
    (action.request base app id token).url =
      base ++ "eureka/apps/" ++ (app ++ "/" ++ (id ++ action.query)) := by
  apply String.toList_inj.1
  cases action <;> simp [request, query]

theorem request_method_eq_iff :
    (action.request base app id token).method = (action'.request base app' id' token').method ↔
      (action = .disable ↔ action' = .disable) := by
  cases action <;> cases action' <;> simp [request]

/-- Names with a slash between them, of which the first have equally many slashes. -/
theorem names_inj (hslashes : app.toList.count '/' = app'.toList.count '/')
    (h : app ++ "/" ++ id = app' ++ "/" ++ id') : app = app' ∧ id = id' := by
  have hlist : app.toList ++ '/' :: id.toList = app'.toList ++ '/' :: id'.toList := by
    simpa using congrArg String.toList h
  obtain ⟨happ, hid⟩ := append_cons_inj_of_count_eq hslashes hlist
  exact ⟨String.toList_inj.1 happ, String.toList_inj.1 hid⟩

/-- With equally many slashes in the names, what is left to confuse are the ids. -/
theorem sameTarget_iff (hslashes : app.toList.count '/' = app'.toList.count '/') :
    SameTarget (action.request base app id token) (action'.request base app' id' token') ↔
      (action = .disable ↔ action' = .disable) ∧ app = app' ∧
        id ++ action.query = id' ++ action'.query := by
  rw [SameTarget, request_method_eq_iff, request_url, request_url, String.append_right_inj]
  refine and_congr_right fun _ => ⟨names_inj hslashes, ?_⟩
  rintro ⟨rfl, hid⟩
  rw [hid]

/-- **The method and the URL tell the action and the registration.**  This holds for names of
applications with equally many slashes, unless an id that ends in the query that enables is
deregistered and another one is enabled. -/
theorem eq_of_sameTarget (hslashes : app.toList.count '/' = app'.toList.count '/')
    (hid : action = .deregister → action' = .enable → ¬ enable.query.toList <:+ id.toList)
    (hid' : action' = .deregister → action = .enable → ¬ enable.query.toList <:+ id'.toList)
    (h : SameTarget (action.request base app id token) (action'.request base app' id' token')) :
    action = action' ∧ app = app' ∧ id = id' := by
  obtain ⟨hmethod, happ, hids⟩ := (sameTarget_iff hslashes).1 h
  have hends : ∀ {s t : String}, s ++ deregister.query = t ++ enable.query →
      enable.query.toList <:+ s.toList := by
    intro s t hst
    exact ⟨t.toList, by simpa [query] using (congrArg String.toList hst).symm⟩
  by_cases haction : action = action'
  · subst haction
    exact ⟨rfl, happ, String.append_left_inj _ |>.1 hids⟩
  -- only enabling is sent with the method of a deregistration
  exfalso
  cases action with
  | deregister =>
    cases action' with
    | deregister => exact haction rfl
    | enable => exact hid rfl rfl (hends hids)
    | disable => exact absurd (hmethod.2 rfl) (by decide)
  | enable =>
    cases action' with
    | deregister => exact hid' rfl rfl (hends hids.symm)
    | enable => exact haction rfl
    | disable => exact absurd (hmethod.2 rfl) (by decide)
  | disable => exact haction (hmethod.1 rfl).symm

/-- Slashes in the names do no harm as long as there are equally many. -/
theorem eq_of_sameTarget_nested :
    SameTarget (deregister.request "https://registry/" "SHOP/EU" "s:1" "t")
        (deregister.request "https://registry/" "SHOP/EU" "s:1" "u") ∧
      deregister = deregister ∧ "SHOP/EU" = "SHOP/EU" ∧ "s:1" = "s:1" := by
  have h : SameTarget (deregister.request "https://registry/" "SHOP/EU" "s:1" "t")
      (deregister.request "https://registry/" "SHOP/EU" "s:1" "u") := ⟨rfl, rfl⟩
  exact ⟨h, eq_of_sameTarget rfl (by decide) (by decide) h⟩

/-- A slash may belong to the name or to the id, and an id may end like the query that enables. -/
theorem not_eq_of_sameTarget :
    (¬ ∀ (base token : String) (action action' : InstanceAction) (app app' id id' : String),
      app ≠ "" → app' ≠ "" → id ≠ "" → id' ≠ "" →
      SameTarget (action.request base app id token) (action'.request base app' id' token) →
        action = action' ∧ app = app' ∧ id = id') ∧
    SameTarget (deregister.request "https://registry/" "SHOP" "s:1/status?value=UP" "t")
      (enable.request "https://registry/" "SHOP" "s:1" "t") := by
  refine ⟨fun h => ?_, by decide, by decide⟩
  have hsame := h "https://registry/" "t" .deregister .deregister "SHOP/EU" "SHOP" "s:1" "EU/s:1"
    (by decide) (by decide) (by decide) (by decide) ⟨rfl, by decide⟩
  exact absurd hsame.2.1 (by decide)

end InstanceAction

end ServiceAdmin.Registry
