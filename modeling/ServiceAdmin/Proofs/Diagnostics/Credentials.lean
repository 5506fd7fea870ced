import ServiceAdmin.Proofs.Diagnostics.Masking

/-!
# Where credentials end

Each of the three patterns is lawful, and each says when masking may be cut at a character: what
stands before it must not end within a credential that goes on.
-/

namespace ServiceAdmin.Diagnostics

open Text (isBlank isWordChar dropWhile_append_cons takeWhile_append_cons)

theorem length_skipBlanks_le (s : List Char) : (skipBlanks s).length ≤ s.length :=
  (List.dropWhile_suffix _).length_le

theorem run?_eq_some {q : Char → Bool} {s : List Char} {n : Nat} (h : run? q s = some n) :
    n = (s.takeWhile q).length ∧ 0 < n := by
  unfold run? at h
  split at h
  · cases h
  · next hn =>
    cases h
    exact ⟨rfl, Nat.pos_of_ne_zero hn⟩

/-! ## Authorization headers -/

/-- The characters of the value of a header. -/
def isHeaderChar (c : Char) : Bool := !isBlank c && c ≠ ','

/-- The text ends within the value of an `authorization:` header, or where one begins. -/
def EndsInHeader (s : List Char) : Prop :=
  ∃ front word gap value, s = front ++ word ++ gap ++ value ∧
    afterWord? authorizationWord word = some [] ∧ (∀ c ∈ gap, isBlank c = true) ∧
      ∀ c ∈ value, isHeaderChar c = true

theorem endsInHeader_append {front r rest : List Char}
    (hword : afterWord? authorizationWord r = some rest)
    (hvalue : (skipBlanks rest).all isHeaderChar = true) : EndsInHeader (front ++ r) := by
  obtain ⟨t, rfl, ht, -, -⟩ := exists_append_of_afterWord? hword
  refine ⟨front, t, rest.takeWhile isBlank, skipBlanks rest, ?_, ht,
    List.all_eq_true.1 List.all_takeWhile, List.all_eq_true.1 hvalue⟩
  rw [List.append_assoc, skipBlanks, List.takeWhile_append_dropWhile, List.append_assoc]

theorem endsInHeader_iff {s : List Char} :
    EndsInHeader s ↔ ∃ i < s.length + 1,
      (afterWord? authorizationWord (s.drop i)).any fun rest =>
        (skipBlanks rest).all isHeaderChar := by
  constructor
  · rintro ⟨front, word, gap, value, rfl, hword, hgap, hvalue⟩
    refine ⟨front.length, by simp only [List.length_append]; omega, ?_⟩
    rw [List.append_assoc, List.append_assoc, List.drop_left, afterWord?_append hword,
      Option.any_some, List.nil_append, skipBlanks, List.dropWhile_append_of_pos hgap,
      List.all_eq_true]
    exact fun c hc => hvalue c ((List.dropWhile_suffix _).mem hc)
  · rintro ⟨i, -, h⟩
    obtain ⟨rest, hrest, hvalue⟩ := (Option.any_eq_true _ _).1 h
    rw [← List.take_append_drop i s]
    exact endsInHeader_append hrest hvalue

instance (s : List Char) : Decidable (EndsInHeader s) := decidable_of_iff _ endsInHeader_iff.symm

theorem authorizationPattern_eq_some {before : Option Char} {s : List Char} {k m : Nat}
    (h : authorizationPattern before s = some (k, m)) :
    ∃ rest, afterWord? authorizationWord s = some rest ∧
      run? isHeaderChar (skipBlanks rest) = some m ∧ k = s.length - (skipBlanks rest).length := by
  simp only [authorizationPattern, Option.bind_eq_bind, Option.bind_eq_some_iff] at h
  obtain ⟨rest, hrest, n, hn, h⟩ := h
  cases h
  exact ⟨rest, hrest, hn, rfl⟩

theorem lawful_authorizationPattern : authorizationPattern.Lawful where
  pos := by
    intro before s kept masked h
    obtain ⟨rest, hrest, -, rfl⟩ := authorizationPattern_eq_some h
    obtain ⟨t, rfl, -, hlength, -⟩ := exists_append_of_afterWord? hrest
    have hword : authorizationWord.length = 14 := by decide
    have hskip := length_skipBlanks_le rest
    rw [List.length_append]
    omega
  le := by
    intro before s kept masked h
    obtain ⟨rest, hrest, hrun, rfl⟩ := authorizationPattern_eq_some h
    obtain ⟨t, rfl, -, -, -⟩ := exists_append_of_afterWord? hrest
    have hskip := length_skipBlanks_le rest
    have htake := (List.takeWhile_prefix isHeaderChar (l := skipBlanks rest)).length_le
    rw [← (run?_eq_some hrun).1] at htake
    rw [List.length_append]
    omega

/-- Headers may be masked up to a character that does not continue one. -/
theorem closed_authorizationPattern {before : Option Char} {s x : List Char} {c : Char}
    (hletter : ∀ w ∈ authorizationWord, isLetter w c = false) (hblank : isBlank c = false)
    (h : isHeaderChar c = false ∨ ¬ EndsInHeader s) :
    Closed authorizationPattern before s (c :: x) := by
  rintro front r rfl -
  have hword := afterWord?_append_cons hletter r x
  simp only [authorizationPattern]
  cases hr : afterWord? authorizationWord r with
  | none => rw [hword, hr]; rfl
  | some rest =>
    have hvalue : skipBlanks (rest ++ c :: x) = skipBlanks rest ++ c :: x :=
      dropWhile_append_cons hblank rest x
    have hrun : isHeaderChar c = false ∨ (skipBlanks rest).all isHeaderChar = false := by
      refine h.imp_right fun h => Bool.eq_false_iff.2 fun hall => h ?_
      exact endsInHeader_append hr hall
    have htake := takeWhile_append_cons hrun x
    have hlength : (r ++ c :: x).length - (skipBlanks rest ++ c :: x).length =
        r.length - (skipBlanks rest).length := by
      simp only [List.length_append, List.length_cons]
      omega
    rw [hword, hr]
    simp only [Option.map_some, Option.bind_eq_bind, Option.bind_some, hvalue, hlength, run?]
    rw [show (fun c => !isBlank c && decide (c ≠ ',')) = isHeaderChar from rfl, htake]

/-! ## Bearer tokens -/

/-- The text ends within a bearer token, or where one begins. -/
def EndsInBearer (s : List Char) : Prop :=
  ∃ front word gap value, s = front ++ word ++ gap ++ value ∧
    (∀ c ∈ front.getLast?, isWordChar c = false) ∧
      afterWord? bearerWord word = some [] ∧ gap ≠ [] ∧ (∀ c ∈ gap, isBlank c = true) ∧
        ∀ c ∈ value, isTokenChar c = true

theorem endsInBearer_append {front r rest : List Char}
    (hfront : ∀ c ∈ front.getLast?, isWordChar c = false)
    (hword : afterWord? bearerWord r = some rest)
    (hgap : (skipBlanks rest).length ≠ rest.length)
    (hvalue : (skipBlanks rest).all isTokenChar = true) : EndsInBearer (front ++ r) := by
  obtain ⟨t, rfl, ht, -, -⟩ := exists_append_of_afterWord? hword
  refine ⟨front, t, rest.takeWhile isBlank, skipBlanks rest, ?_, hfront, ht, ?_,
    List.all_eq_true.1 List.all_takeWhile, List.all_eq_true.1 hvalue⟩
  · rw [List.append_assoc, skipBlanks, List.takeWhile_append_dropWhile, List.append_assoc]
  · intro hnil
    refine hgap (congrArg List.length ?_)
    have hsplit := List.takeWhile_append_dropWhile (p := isBlank) (l := rest)
    rwa [hnil, List.nil_append] at hsplit

theorem endsInBearer_iff {s : List Char} :
    EndsInBearer s ↔ ∃ i < s.length + 1, (∀ c ∈ (s.take i).getLast?, isWordChar c = false) ∧
      (afterWord? bearerWord (s.drop i)).any fun rest =>
        (skipBlanks rest).length ≠ rest.length && (skipBlanks rest).all isTokenChar := by
  constructor
  · rintro ⟨front, word, gap, value, rfl, hfront, hword, hne, hgap, hvalue⟩
    refine ⟨front.length, by simp only [List.length_append]; omega, ?_, ?_⟩
    · rwa [List.append_assoc, List.append_assoc, List.take_left]
    · have hskip : skipBlanks (gap ++ value) <:+ value := by
        rw [skipBlanks, List.dropWhile_append_of_pos hgap]
        exact List.dropWhile_suffix _
      have hpos := List.length_pos_iff.2 hne
      have hlength := hskip.length_le
      rw [List.append_assoc, List.append_assoc, List.drop_left, afterWord?_append hword,
        Option.any_some, List.nil_append, Bool.and_eq_true, List.all_eq_true]
      refine ⟨decide_eq_true ?_, fun c hc => hvalue c (hskip.mem hc)⟩
      rw [List.length_append]
      omega
  · rintro ⟨i, -, hfront, h⟩
    obtain ⟨rest, hrest, h⟩ := (Option.any_eq_true _ _).1 h
    obtain ⟨hgap, hvalue⟩ := Bool.and_eq_true_iff.1 h
    rw [← List.take_append_drop i s]
    exact endsInBearer_append hfront hrest (of_decide_eq_true hgap) hvalue

instance (s : List Char) : Decidable (EndsInBearer s) := decidable_of_iff _ endsInBearer_iff.symm

theorem bearerPattern_eq (before : Option Char) (s : List Char) :
    bearerPattern before s =
      if before.any isWordChar then none
      else (afterWord? bearerWord s).bind fun rest =>
        let value := skipBlanks rest
        if value.length = rest.length then none
        else (run? isTokenChar value).map fun n =>
          (s.length - value.length, n + ((value.drop n).takeWhile (· = '=')).length) := by
  unfold bearerPattern
  by_cases hbefore : before.any isWordChar
  · rw [if_pos hbefore, if_pos hbefore]
    rfl
  · rw [if_neg hbefore, if_neg hbefore]
    refine congrArg _ (funext fun rest => ?_)
    dsimp only
    split
    · rfl
    · cases run? isTokenChar (skipBlanks rest) <;> rfl

theorem bearerPattern_eq_some {before : Option Char} {s : List Char} {k m : Nat}
    (h : bearerPattern before s = some (k, m)) :
    ∃ rest n, afterWord? bearerWord s = some rest ∧
      run? isTokenChar (skipBlanks rest) = some n ∧ k = s.length - (skipBlanks rest).length ∧
        m = n + (((skipBlanks rest).drop n).takeWhile (· = '=')).length := by
  rw [bearerPattern_eq] at h
  split at h
  · cases h
  · obtain ⟨rest, hrest, h⟩ := Option.bind_eq_some_iff.1 h
    dsimp only at h
    split at h
    · cases h
    · obtain ⟨n, hn, h⟩ := Option.map_eq_some_iff.1 h
      cases h
      exact ⟨rest, n, hrest, hn, rfl, rfl⟩

theorem lawful_bearerPattern : bearerPattern.Lawful where
  pos := by
    intro before s kept masked h
    obtain ⟨rest, -, hrest, -, rfl, -⟩ := bearerPattern_eq_some h
    obtain ⟨t, rfl, -, hlength, -⟩ := exists_append_of_afterWord? hrest
    have hword : bearerWord.length = 6 := by decide
    have hskip := length_skipBlanks_le rest
    rw [List.length_append]
    omega
  le := by
    intro before s kept masked h
    obtain ⟨rest, n, hrest, hrun, rfl, rfl⟩ := bearerPattern_eq_some h
    obtain ⟨t, rfl, -, -, -⟩ := exists_append_of_afterWord? hrest
    have hskip := length_skipBlanks_le rest
    have htoken := (List.takeWhile_prefix isTokenChar (l := skipBlanks rest)).length_le
    have hpadding := (List.takeWhile_prefix (fun c => decide (c = '='))
      (l := (skipBlanks rest).drop n)).length_le
    rw [← (run?_eq_some hrun).1] at htoken
    rw [List.length_drop] at hpadding
    rw [List.length_append]
    omega

/-- Bearer tokens may be masked up to a character that does not continue one. -/
theorem closed_bearerPattern {before : Option Char} {s x : List Char} {c : Char}
    (hletter : ∀ w ∈ bearerWord.tail, isLetter w c = false) (hblank : isBlank c = false)
    (hpadding : c ≠ '=')
    (h : isTokenChar c = false ∨ ¬ EndsInBearer s) :
    Closed bearerPattern before s (c :: x) := by
  rintro front r rfl hr
  obtain ⟨d, r, rfl⟩ := List.exists_cons_of_ne_nil hr
  have hword : afterWord? bearerWord (d :: r ++ c :: x) =
      (afterWord? bearerWord (d :: r)).map (· ++ c :: x) := by
    show (if isLetter 'b' d then afterWord? bearerWord.tail (r ++ c :: x) else none) =
      (if isLetter 'b' d then afterWord? bearerWord.tail r else none).map (· ++ c :: x)
    split
    · exact afterWord?_append_cons hletter r x
    · rfl
  rw [bearerPattern_eq, bearerPattern_eq, hword]
  split
  · rfl
  next hbefore =>
  cases hrest : afterWord? bearerWord (d :: r) with
  | none => rfl
  | some rest =>
    have hvalue : skipBlanks (rest ++ c :: x) = skipBlanks rest ++ c :: x :=
      dropWhile_append_cons hblank rest x
    simp only [Option.map_some, Option.bind_some, hvalue, List.length_append,
      Nat.add_right_cancel_iff]
    split
    · rfl
    next hgap =>
    have hrun : isTokenChar c = false ∨ (skipBlanks rest).all isTokenChar = false := by
      refine h.imp_right fun h => Bool.eq_false_iff.2 fun hall => h ?_
      refine endsInBearer_append ?_ hrest hgap hall
      intro b hb
      rw [lastOr, hb] at hbefore
      exact Bool.eq_false_iff.2 hbefore
    have htoken := takeWhile_append_cons hrun x
    have hlength : (d :: r).length + (c :: x).length -
        ((skipBlanks rest).length + (c :: x).length) =
          (d :: r).length - (skipBlanks rest).length := Nat.add_sub_add_right ..
    simp only [run?, htoken, hlength]
    split
    · rfl
    · next n hn =>
      have hle := (List.takeWhile_prefix isTokenChar (l := skipBlanks rest)).length_le
      rw [Option.map_some, Option.map_some, List.drop_append_of_le_length hle,
        takeWhile_append_cons (.inl (decide_eq_false hpadding))]

/-! ## Secret members -/

theorem afterSecretName?_append_cons {c : Char}
    (hletter : ∀ name ∈ secretNames, ∀ w ∈ name ++ ['"'], isLetter w c = false)
    (s x : List Char) :
    afterSecretName? (s ++ c :: x) = (afterSecretName? s).map (· ++ c :: x) := by
  unfold afterSecretName?
  generalize secretNames = names at hletter ⊢
  induction names with
  | nil => rfl
  | cons name names ih =>
    rw [List.findSome?_cons, List.findSome?_cons,
      afterWord?_append_cons (hletter name List.mem_cons_self),
      ih fun other hother => hletter other (List.mem_cons_of_mem _ hother)]
    cases afterWord? (name ++ ['"']) s <;> rfl

theorem afterMark?_append_cons {mark c : Char} (hmark : c ≠ mark) (hblank : isBlank c = false)
    (s x : List Char) :
    afterMark? mark (s ++ c :: x) = (afterMark? mark s).map (· ++ c :: x) := by
  have hskip : skipBlanks (s ++ c :: x) = skipBlanks s ++ c :: x :=
    dropWhile_append_cons hblank s x
  unfold afterMark?
  rw [hskip]
  cases skipBlanks s with
  | nil => exact if_neg hmark
  | cons d t =>
    show (if d = mark then some (t ++ c :: x) else none) =
      (if d = mark then some t else none).map (· ++ c :: x)
    split <;> rfl

theorem length_of_afterMark? {mark : Char} {s r : List Char} (h : afterMark? mark s = some r) :
    r.length < s.length := by
  have hskip := length_skipBlanks_le s
  unfold afterMark? at h
  split at h
  · cases h
  · next c t ht =>
    split at h
    · cases h
      rw [ht, List.length_cons] at hskip
      omega
    · cases h

theorem length_of_afterSecretName? {s r : List Char} (h : afterSecretName? s = some r) :
    r.length ≤ s.length := by
  obtain ⟨name, -, hname⟩ := List.exists_of_findSome?_eq_some h
  obtain ⟨t, rfl, -⟩ := exists_append_of_afterWord? hname
  simp

theorem memberPattern_quote (before : Option Char) (s : List Char) :
    memberPattern before ('"' :: s) =
      (afterSecretName? s).bind fun r => (afterMark? ':' r).bind fun r =>
        (afterMark? '"' r).map fun value =>
          (s.length + 1 - value.length, (value.takeWhile (· ≠ '"')).length) := by
  show ((afterSecretName? s).bind fun r => (afterMark? ':' r).bind fun r =>
    (afterMark? '"' r).bind fun value => pure _) = _
  refine congrArg _ (funext fun r => congrArg _ (funext fun r => ?_))
  cases afterMark? '"' r <;> rfl

theorem memberPattern_of_ne {before : Option Char} {c : Char} (h : c ≠ '"') (s : List Char) :
    memberPattern before (c :: s) = none := by
  unfold memberPattern
  split
  · next heq => exact absurd (List.cons.inj heq).1 h
  · rfl

theorem memberPattern_eq_some {before : Option Char} {s : List Char} {k m : Nat}
    (h : memberPattern before s = some (k, m)) :
    ∃ value : List Char, value.length < s.length ∧ k = s.length - value.length ∧
      m = (value.takeWhile (· ≠ '"')).length := by
  cases s with
  | nil => cases h
  | cons c s =>
    by_cases hc : c = '"'
    · subst hc
      rw [memberPattern_quote] at h
      obtain ⟨r₁, h₁, h⟩ := Option.bind_eq_some_iff.1 h
      obtain ⟨r₂, h₂, h⟩ := Option.bind_eq_some_iff.1 h
      obtain ⟨value, h₃, h⟩ := Option.map_eq_some_iff.1 h
      cases h
      have hname := length_of_afterSecretName? h₁
      have hcolon := length_of_afterMark? h₂
      have hquote := length_of_afterMark? h₃
      refine ⟨value, ?_, rfl, rfl⟩
      rw [List.length_cons]
      omega
    · rw [memberPattern_of_ne hc] at h
      cases h

theorem lawful_memberPattern : memberPattern.Lawful where
  pos := by
    intro before s kept masked h
    obtain ⟨value, hvalue, rfl, -⟩ := memberPattern_eq_some h
    omega
  le := by
    intro before s kept masked h
    obtain ⟨value, hvalue, rfl, rfl⟩ := memberPattern_eq_some h
    have hprefix := (List.takeWhile_prefix (fun c => decide (c ≠ '"')) (l := value)).length_le
    omega

/-- Secret members may be masked up to a double quote behind a comma or a brace. -/
theorem closed_memberPattern {before : Option Char} {s x : List Char} {c : Char}
    (hc : c = ',' ∨ c = '\x7b') : Closed memberPattern before (s ++ [c]) ('"' :: x) := by
  intro front r hs hr
  obtain ⟨r, last, rfl⟩ := (List.eq_nil_or_concat r).resolve_left hr
  rw [List.concat_eq_append, ← List.append_assoc] at hs
  obtain ⟨-, hlast⟩ := List.append_inj' hs rfl
  cases hlast
  rw [List.concat_eq_append, List.append_assoc, List.singleton_append]
  have hquote : c ≠ '"' := by rcases hc with rfl | rfl <;> decide
  have hcolon : c ≠ ':' := by rcases hc with rfl | rfl <;> decide
  have hblank : isBlank c = false := by rcases hc with rfl | rfl <;> decide
  have hletter : ∀ name ∈ secretNames, ∀ w ∈ name ++ ['"'], isLetter w c = false := by
    rcases hc with rfl | rfl <;> decide
  cases r with
  | nil => rw [List.nil_append, List.nil_append, memberPattern_of_ne hquote,
      memberPattern_of_ne hquote]
  | cons d r =>
    by_cases hd : d = '"'
    · subst hd
      rw [List.cons_append, List.cons_append, memberPattern_quote, memberPattern_quote,
        afterSecretName?_append_cons hletter, afterSecretName?_append_cons hletter]
      cases afterSecretName? r with
      | none => rfl
      | some r₁ =>
        simp only [Option.map_some, Option.bind_some, afterMark?_append_cons hcolon hblank]
        cases afterMark? ':' r₁ with
        | none => rfl
        | some r₂ =>
          simp only [Option.map_some, Option.bind_some, afterMark?_append_cons hquote hblank]
          cases afterMark? '"' r₂ with
          | none => rfl
          | some value =>
            have hrun : (value ++ c :: '"' :: x).takeWhile (· ≠ '"') =
                (value ++ [c]).takeWhile (· ≠ '"') := by
              rw [← List.singleton_append, ← List.append_assoc]
              exact takeWhile_append_cons (.inl rfl) x
            simp only [Option.map_some, hrun, List.length_append, List.length_cons,
              List.length_nil]
            congr 2
            omega
    · rw [List.cons_append, List.cons_append, memberPattern_of_ne hd, memberPattern_of_ne hd]

end ServiceAdmin.Diagnostics
