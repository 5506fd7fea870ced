import ServiceAdmin.Text.Blank

/-!
# Pieces between separators

Pieces have no separator in them, and a text whose pieces are joined again is cut as before.  What
is read of pieces one by one is read of each of them.
-/

namespace ServiceAdmin.Text

variable {sep : Char}

theorem pieces_of_notMem : ∀ {s : List Char}, sep ∉ s → pieces sep s = [s] := by
  intro s
  induction s with
  | nil =>
    intro _
    rfl
  | cons c rest ih =>
    intro h
    obtain ⟨hc, hrest⟩ := not_or.1 (mt List.mem_cons.2 h)
    rw [pieces, if_neg (Ne.symm hc), ih hrest]

theorem pieces_ne_nil (sep : Char) (s : List Char) : pieces sep s ≠ [] := by
  cases s with
  | nil => exact List.cons_ne_nil _ _
  | cons c s =>
    rw [pieces]
    split
    · exact List.cons_ne_nil _ _
    · split <;> exact List.cons_ne_nil _ _

/-- A separator cuts the text, whatever stands around it. -/
theorem pieces_append (a b : List Char) :
    pieces sep (a ++ sep :: b) = pieces sep a ++ pieces sep b := by
  induction a with
  | nil => simp [pieces]
  | cons c a ih =>
    rw [List.cons_append, pieces, pieces]
    split
    · rw [ih, List.cons_append]
    · obtain ⟨p, ps, hp⟩ := List.exists_cons_of_ne_nil (pieces_ne_nil sep a)
      rw [ih, hp, List.cons_append, List.cons_append]

theorem pieces_append_cons (b : List Char) {a : List Char} (ha : sep ∉ a) :
    pieces sep (a ++ sep :: b) = a :: pieces sep b := by
  rw [pieces_append, pieces_of_notMem ha, List.singleton_append]

/-- The pieces, each behind a separator, are the text behind a separator. -/
theorem flatMap_pieces (sep : Char) (s : List Char) :
    (pieces sep s).flatMap (sep :: ·) = sep :: s := by
  induction s with
  | nil => rfl
  | cons c s ih =>
    rw [pieces]
    split
    · next hc => rw [List.flatMap_cons, ih, hc]; rfl
    · split
      · next hnil =>
        rw [hnil] at ih
        cases ih
      · next hcons =>
        rw [hcons, List.flatMap_cons, List.cons_append, List.cons.injEq] at ih
        rw [List.flatMap_cons, List.cons_append, List.cons_append, ih.2]

/-- The characters of a piece are those of the text, without the separator. -/
theorem mem_of_mem_pieces {s p : List Char} (hp : p ∈ pieces sep s) :
    ∀ c ∈ p, c ∈ s ∧ c ≠ sep := by
  induction s generalizing p with
  | nil =>
    rw [List.mem_singleton.1 hp]
    exact fun _ h => nomatch h
  | cons d s ih =>
    have hrest {q : List Char} (hq : q ∈ pieces sep s) : ∀ c ∈ q, c ∈ d :: s ∧ c ≠ sep :=
      fun c hc => (ih hq c hc).imp_left (List.mem_cons_of_mem d)
    rw [pieces] at hp
    split at hp
    · rcases List.mem_cons.1 hp with rfl | hp
      · exact fun _ h => nomatch h
      · exact hrest hp
    · next hd =>
      split at hp
      · rw [List.mem_singleton.1 hp]
        exact List.forall_mem_singleton.2 ⟨List.mem_cons_self, hd⟩
      · next q qs hpieces =>
        rw [hpieces] at hrest
        rcases List.mem_cons.1 hp with rfl | hp
        · exact List.forall_mem_cons.2 ⟨⟨List.mem_cons_self, hd⟩, hrest List.mem_cons_self⟩
        · exact hrest (List.mem_cons_of_mem q hp)

theorem mem_intercalate {c : Char} {s : List Char} {ps : List (List Char)}
    (h : c ∈ s.intercalate ps) : c ∈ s ∨ ∃ p ∈ ps, c ∈ p := by
  induction ps with
  | nil => cases h
  | cons p ps ih =>
    cases ps with
    | nil =>
      rw [List.intercalate_singleton] at h
      exact .inr ⟨p, List.mem_cons_self, h⟩
    | cons q qs =>
      rw [List.intercalate_cons_cons, List.mem_append, List.mem_append] at h
      rcases h with (h | h) | h
      · exact .inr ⟨p, List.mem_cons_self, h⟩
      · exact .inl h
      · rcases ih h with h | ⟨r, hr, h⟩
        · exact .inl h
        · exact .inr ⟨r, List.mem_cons_of_mem _ hr, h⟩

/-- Joined pieces are cut where they were joined. -/
theorem pieces_intercalate {ps : List (List Char)} (hne : ps ≠ []) (h : ∀ p ∈ ps, sep ∉ p) :
    pieces sep ([sep].intercalate ps) = ps := by
  induction ps with
  | nil => exact absurd rfl hne
  | cons p ps ih =>
    have hp := h p List.mem_cons_self
    cases ps with
    | nil => rw [List.intercalate_singleton, pieces_of_notMem hp]
    | cons q qs =>
      rw [List.intercalate_cons_cons, List.append_assoc, List.singleton_append,
        pieces_append_cons _ hp,
        ih (List.cons_ne_nil _ _) fun r hr => h r (List.mem_cons_of_mem _ hr)]

/-- Pieces that are joined again are the text. -/
theorem intercalate_pieces (sep : Char) (s : List Char) : [sep].intercalate (pieces sep s) = s := by
  have hfront : ∀ p ps, sep :: [sep].intercalate (p :: ps) = (p :: ps).flatMap (sep :: ·) := by
    intro p ps
    induction ps generalizing p with
    | nil => simp
    | cons q qs ih =>
      rw [List.intercalate_cons_cons, List.flatMap_cons, ← ih q]
      simp
  have hpieces := flatMap_pieces sep s
  obtain ⟨p, ps, hp⟩ := List.exists_cons_of_ne_nil (pieces_ne_nil sep s)
  rw [hp, ← hfront] at hpieces
  rw [hp]
  exact List.tail_eq_of_cons_eq hpieces

/-! ## The first separator -/

theorem cutAt?_append {a : List Char} (h : sep ∉ a) (b : List Char) :
    cutAt? sep (a ++ sep :: b) = some (a, b) := by
  induction a with
  | nil => rw [List.nil_append, cutAt?, if_pos rfl]
  | cons c a ih =>
    obtain ⟨hc, ha⟩ := not_or.1 (mt List.mem_cons.2 h)
    rw [List.cons_append, cutAt?, if_neg (Ne.symm hc), ih ha, Option.map_some]

theorem cutAt?_of_notMem {s : List Char} (h : sep ∉ s) : cutAt? sep s = none := by
  induction s with
  | nil => rfl
  | cons c s ih =>
    obtain ⟨hc, hs⟩ := not_or.1 (mt List.mem_cons.2 h)
    rw [cutAt?, if_neg (Ne.symm hc), ih hs, Option.map_none]

/-! ## Pieces that are read -/

section Read

variable {α β : Type} {f : α → Option β} {l : List α} {bs : List β}

theorem map_eq_map_some_of_mapM (h : l.mapM f = some bs) : l.map f = bs.map some := by
  induction l generalizing bs with
  | nil =>
    cases h
    rfl
  | cons a l ih =>
    rw [List.mapM_cons] at h
    obtain ⟨b, hb, h⟩ := Option.bind_eq_some_iff.1 h
    obtain ⟨bs', hbs', h⟩ := Option.bind_eq_some_iff.1 h
    cases h
    rw [List.map_cons, List.map_cons, hb, ih hbs']

theorem length_of_mapM (h : l.mapM f = some bs) : bs.length = l.length := by
  have hlength := congrArg List.length (map_eq_map_some_of_mapM h)
  rw [List.length_map, List.length_map] at hlength
  exact hlength.symm

theorem exists_of_mem_mapM (h : l.mapM f = some bs) {b : β} (hb : b ∈ bs) :
    ∃ a ∈ l, f a = some b := by
  have hmem := List.mem_map_of_mem (f := some) hb
  rw [← map_eq_map_some_of_mapM h] at hmem
  exact List.mem_map.1 hmem

end Read

end ServiceAdmin.Text
