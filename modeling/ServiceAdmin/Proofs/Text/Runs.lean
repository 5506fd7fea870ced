/-!
# Runs of characters

A run at the front of a text that ends within the text does not see what stands behind the text.
-/

namespace ServiceAdmin.Text

variable {q : Char → Bool} {s : List Char}

theorem dropWhile_of_head (h : ∀ c ∈ s.head?, q c = false) : s.dropWhile q = s := by
  cases s with
  | nil => rfl
  | cons c s => rw [List.dropWhile_cons, if_neg (by simp [h c rfl])]

theorem takeWhile_of_forall (h : ∀ c ∈ s, q c = true) : s.takeWhile q = s := by
  have hrun : (s ++ []).takeWhile q = s ++ [].takeWhile q := List.takeWhile_append_of_pos h
  rwa [List.append_nil, List.takeWhile_nil, List.append_nil] at hrun

theorem dropWhile_of_forall (h : ∀ c ∈ s, q c = true) : s.dropWhile q = [] := by
  have hrun : (s ++ []).dropWhile q = [].dropWhile q := List.dropWhile_append_of_pos h
  rwa [List.append_nil] at hrun

theorem of_mem_head?_dropWhile {c : Char} (h : c ∈ (s.dropWhile q).head?) : q c = false := by
  have hhead := List.head?_dropWhile_not q s
  rw [h] at hhead
  exact hhead

theorem dropWhile_ne_nil (h : s.all q = false) : s.dropWhile q ≠ [] := by
  intro hnil
  have hsplit := List.takeWhile_append_dropWhile (p := q) (l := s)
  rw [hnil, List.append_nil] at hsplit
  rw [← hsplit, List.all_takeWhile] at h
  cases h

theorem dropWhile_append (h : s.all q = false) (x : List Char) :
    (s ++ x).dropWhile q = s.dropWhile q ++ x := by
  rw [List.dropWhile_append, if_neg (mt List.isEmpty_iff.1 (dropWhile_ne_nil h))]

theorem dropWhile_append_cons {c : Char} (h : q c = false) (s x : List Char) :
    (s ++ c :: x).dropWhile q = s.dropWhile q ++ c :: x := by
  rw [List.dropWhile_append]
  split
  · next he => simp [List.isEmpty_iff.1 he, h]
  · rfl

theorem takeWhile_append_cons {c : Char} (h : q c = false ∨ s.all q = false) (x : List Char) :
    (s ++ c :: x).takeWhile q = s.takeWhile q := by
  induction s with
  | nil =>
    rcases h with h | h
    · simp [h]
    · cases h
  | cons d s ih =>
    rw [List.cons_append, List.takeWhile_cons, List.takeWhile_cons]
    split
    · next hd => rw [ih (by simpa [hd] using h)]
    · rfl

theorem takeWhile_append (h : s.all q = false) (x : List Char) :
    (s ++ x).takeWhile q = s.takeWhile q := by
  cases x with
  | nil => rw [List.append_nil]
  | cons c x => exact takeWhile_append_cons (.inr h) x

theorem drop_length_takeWhile (q : Char → Bool) (s : List Char) :
    s.drop (s.takeWhile q).length = s.dropWhile q := by
  have hsplit := List.takeWhile_append_dropWhile (p := q) (l := s)
  have hdrop := congrArg (List.drop (s.takeWhile q).length) hsplit
  rw [List.drop_left] at hdrop
  exact hdrop.symm

/-- Behind a run stands no character of it. -/
theorem head_of_length_takeWhile {u : List Char} (h : ((u ++ s).takeWhile q).length = u.length) :
    ∀ c ∈ s.head?, q c = false := by
  have hrest : s = (u ++ s).dropWhile q := by
    rw [← drop_length_takeWhile, h, List.drop_left]
  intro c hc
  rw [hrest] at hc
  exact of_mem_head?_dropWhile hc

/-- Two runs, one behind the other, end where the first cannot go on, or with a character of the
second. -/
theorem cases_of_length_runs {q' : Char → Bool} {u : List Char}
    (h : ((u ++ s).takeWhile q).length + (((u ++ s).dropWhile q).takeWhile q').length = u.length) :
    (∀ c ∈ s.head?, q c = false) ∨ ∃ front c, u = front ++ [c] ∧ q' c = true := by
  have hfirst := List.takeWhile_append_dropWhile (p := q) (l := u ++ s)
  have hsecond := List.takeWhile_append_dropWhile (p := q') (l := (u ++ s).dropWhile q)
  have hall : ((u ++ s).dropWhile q |>.takeWhile q').all q' = true := List.all_takeWhile
  rcases List.eq_nil_or_concat (((u ++ s).dropWhile q).takeWhile q') with hnil | ⟨init, c, hlast⟩
  · rw [hnil, List.length_nil, Nat.add_zero] at h
    exact .inl (head_of_length_takeWhile h)
  · rw [← hsecond, ← List.append_assoc] at hfirst
    have hu := (List.append_inj hfirst (by rw [List.length_append, h])).1
    rw [hlast, List.concat_eq_append, ← List.append_assoc] at hu
    refine .inr ⟨_, c, hu.symm, ?_⟩
    rw [hlast, List.concat_eq_append] at hall
    exact List.all_eq_true.1 hall c (by simp)

/-- What has the property is the run if nothing behind it has. -/
theorem takeWhile_append_of_head {u : List Char} (hu : ∀ c ∈ u, q c = true)
    (hs : ∀ c ∈ s.head?, q c = false) : (u ++ s).takeWhile q = u := by
  rw [List.takeWhile_append_of_pos hu]
  cases s with
  | nil => simp
  | cons c s => simp [hs c rfl]

end ServiceAdmin.Text
