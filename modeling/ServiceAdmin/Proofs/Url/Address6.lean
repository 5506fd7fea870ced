import ServiceAdmin.Proofs.Url.Address4

/-!
# Addresses of eight pieces that are read again

An address of version 6 has eight pieces (`isAddress6_of_address6?`).  Its text, from which the
longest run of zeros is left out, is read as that address (`address6?_text`).
-/

namespace ServiceAdmin.Url

/-! ## Pieces -/

/-- Pieces between colons. -/
def shown (ps : List Nat) : List Char := [':'].intercalate (ps.map (Nat.toDigits 16))

/-- What stands behind the pieces in front of a double colon. -/
def tailText : Option (List Char) → List Char
  | none => []
  | some rest => ':' :: ':' :: rest

theorem isHex_of_mem_toDigits (n : Nat) :
    ∀ c ∈ Nat.toDigits 16 n, (hexValue? c).isSome = true :=
  forall_mem_toDigits (by decide) (by decide) n

theorem piece_toDigits {p : Nat} (hp : p < 0x10000) {t : List Char}
    (ht : ∀ c ∈ t.head?, (hexValue? c).isSome = false) :
    piece (Nat.toDigits 16 p ++ t) = (some p, t) := by
  have hlength : (Nat.toDigits 16 p).length ≤ 4 := Nat.toDigits_length 16 p 4 (by decide) hp
  have hdigits : ((Nat.toDigits 16 p ++ t).take 4).takeWhile (fun c => (hexValue? c).isSome) =
      Nat.toDigits 16 p := by
    rw [List.take_append, List.take_of_length_le hlength,
      List.takeWhile_append_of_pos (isHex_of_mem_toDigits p)]
    cases t with
    | nil => rw [List.take_nil, List.takeWhile_nil, List.append_nil]
    | cons c t =>
      have hc := ht c rfl
      cases 4 - (Nat.toDigits 16 p).length with
      | zero => rw [List.take_zero, List.takeWhile_nil, List.append_nil]
      | succ k =>
        rw [List.take_succ_cons, List.takeWhile_cons, hc, if_neg Bool.false_ne_true,
          List.append_nil]
  have hne : (Nat.toDigits 16 p).isEmpty = false :=
    List.isEmpty_eq_false_iff.2 (toDigits_ne_nil _ _)
  rw [piece, hdigits]
  simp only [hne, Bool.false_eq_true, if_false, List.drop_left,
    digitsValue?_toDigits (by decide : 1 < 16) (Nat.le_refl 16)]

theorem shown_singleton (p : Nat) : shown [p] = Nat.toDigits 16 p := List.intercalate_singleton

theorem shown_cons_cons (p q : Nat) (ps : List Nat) :
    shown (p :: q :: ps) = Nat.toDigits 16 p ++ ':' :: shown (q :: ps) := by
  rw [shown, shown, List.map_cons, List.map_cons, List.intercalate_cons_cons, List.append_assoc]
  rfl

/-- Pieces begin with a digit. -/
theorem exists_shown_eq (p : Nat) (ps : List Nat) :
    ∃ c rest, shown (p :: ps) = c :: rest ∧ c ≠ ':' := by
  obtain ⟨c, rest, hdigits⟩ := List.exists_cons_of_ne_nil (toDigits_ne_nil 16 p)
  have hc := isHex_of_mem_toDigits p c (hdigits ▸ List.mem_cons_self)
  refine ⟨c, ?_⟩
  cases ps with
  | nil =>
    rw [shown_singleton, hdigits]
    exact ⟨_, rfl, by rintro rfl; cases hc⟩
  | cons q ps =>
    rw [shown_cons_cons, hdigits]
    exact ⟨_, rfl, by rintro rfl; cases hc⟩

theorem pieces6?_shown {ps : List Nat} (hne : ps ≠ []) (h : ∀ p ∈ ps, p < 0x10000)
    (tail : Option (List Char)) {fuel : Nat} (hfuel : ps.length ≤ fuel) :
    pieces6? fuel (shown ps ++ tailText tail) = some (ps, tail) := by
  induction ps generalizing fuel with
  | nil => exact absurd rfl hne
  | cons p ps ih =>
    obtain ⟨fuel, rfl⟩ := Nat.exists_eq_add_one_of_ne_zero (Nat.ne_zero_of_lt hfuel)
    have hp := h p List.mem_cons_self
    cases ps with
    | nil =>
      have hpiece : piece (shown [p] ++ tailText tail) = (some p, tailText tail) := by
        rw [shown_singleton]
        refine piece_toDigits hp fun c hc => ?_
        cases tail with
        | none => cases hc
        | some rest =>
          cases hc
          rfl
      rw [pieces6?, hpiece]
      cases tail <;> rfl
    | cons q ps =>
      obtain ⟨c, rest, hshown, hc⟩ := exists_shown_eq q ps
      have hrest := ih (List.cons_ne_nil _ _) (fun r hr => h r (List.mem_cons_of_mem _ hr))
        (Nat.le_of_succ_le_succ hfuel)
      have hpiece : piece (shown (p :: q :: ps) ++ tailText tail) =
          (some p, ':' :: (shown (q :: ps) ++ tailText tail)) := by
        rw [shown_cons_cons, List.append_assoc]
        refine piece_toDigits hp fun d hd => ?_
        cases hd
        rfl
      rw [pieces6?, hpiece]
      -- one colon stands behind the piece, since the next piece begins with a digit
      have hcolon (t : List Char) : shown (q :: ps) ++ tailText tail ≠ ':' :: t := by
        rw [hshown]
        rintro h
        exact hc (List.cons.inj h).1
      split
      · next heq => cases heq
      · next heq => cases heq
      · next heq =>
        exact absurd (List.cons.inj (Prod.ext_iff.1 heq).2).2 (hcolon _)
      · next heq =>
        cases heq
        rw [hrest]
        rfl
      · next heq => cases heq
      · next hother _ heq =>
        cases heq
        exact (hother rfl).elim

/-! ## The text of an address -/

/-- The run that is left out consists of zeros. -/
theorem longestZeroRun_eq {start s n : Nat} {ps : List Nat}
    (h : longestZeroRun start ps = (s, n)) (hn : 0 < n) :
    ∃ front back, ps = front ++ List.replicate n 0 ++ back ∧ s = start + front.length := by
  induction ps generalizing start with
  | nil =>
    cases h
    cases hn
  | cons p ps ih =>
    rw [longestZeroRun] at h
    cases hrest : longestZeroRun (start + 1) ps with
    | mk s' n' =>
      rw [hrest] at h
      dsimp only at h
      split at h
      · cases h
        refine ⟨[], (p :: ps).dropWhile (· = 0), ?_, rfl⟩
        have hzeros : (p :: ps).takeWhile (· = 0) = List.replicate (zeroRun (p :: ps)) 0 :=
          List.eq_replicate_iff.2 ⟨rfl, fun q hq => by
            have hall := List.all_eq_true.1 List.all_takeWhile q hq
            exact of_decide_eq_true hall⟩
        rw [List.nil_append, ← hzeros, List.takeWhile_append_dropWhile]
      · cases h
        obtain ⟨front, back, rfl, rfl⟩ := ih hrest
        exact ⟨p :: front, back, rfl, by rw [List.length_cons]; omega⟩

theorem toList_shown (ps : List Nat) :
    (":".intercalate (ps.map pieceText)).toList = shown ps := by
  rw [String.toList_intercalate, List.map_map, shown]
  refine congrArg (List.intercalate [':']) (List.map_congr_left fun p _ => ?_)
  exact String.toList_ofList

/-- The two forms of an address. -/
theorem toList_address6Text (ps : List Nat) :
    (address6Text ps).toList = shown ps ∨
      ∃ front n back, ps = front ++ List.replicate n 0 ++ back ∧ 2 ≤ n ∧
        (address6Text ps).toList = shown front ++ ':' :: ':' :: shown back := by
  cases hrun : longestZeroRun 0 ps with
  | mk s n =>
    rw [address6Text, hrun]
    dsimp only
    split
    · exact .inl (toList_shown ps)
    · next hn =>
      obtain ⟨front, back, rfl, rfl⟩ := longestZeroRun_eq hrun (by omega)
      refine .inr ⟨front, n, back, rfl, by omega, ?_⟩
      have htake : (front ++ List.replicate n 0 ++ back).take (0 + front.length) = front := by
        rw [Nat.zero_add, List.append_assoc, List.take_left]
      have hdrop : (front ++ List.replicate n 0 ++ back).drop (0 + front.length + n) = back := by
        refine List.drop_left' ?_
        rw [List.length_append, List.length_replicate, Nat.zero_add]
      rw [htake, hdrop, String.toList_append, String.toList_append, toList_shown, toList_shown,
        List.append_assoc]
      rfl

theorem forall_mem_address6Text {P : Char → Prop} (hdigit : ∀ d < 16, P (Nat.digitChar d))
    (hcolon : P ':') (ps : List Nat) : ∀ c ∈ (address6Text ps).toList, P c := by
  have hshown (ps : List Nat) : ∀ c ∈ shown ps, P c := by
    intro c hc
    rcases Text.mem_intercalate hc with hc | ⟨digits, hdigits, hc⟩
    · rw [List.mem_singleton.1 hc]
      exact hcolon
    · obtain ⟨p, -, rfl⟩ := List.mem_map.1 hdigits
      exact forall_mem_toDigits (by decide) hdigit p c hc
  rcases toList_address6Text ps with htext | ⟨front, n, back, -, -, htext⟩
  · rw [htext]
    exact hshown ps
  · rw [htext]
    intro c hc
    rcases List.mem_append.1 hc with hc | hc
    · exact hshown front c hc
    rcases List.mem_cons.1 hc with rfl | hc
    · exact hcolon
    rcases List.mem_cons.1 hc with rfl | hc
    · exact hcolon
    · exact hshown back c hc

/-! ## Reading -/

/-- The pieces in front of a double colon, and what stands behind it. -/
def front6? (s : List Char) : Option (List Nat × Option (List Char)) :=
  match s with
  | ':' :: ':' :: rest => some ([], some rest)
  | s => pieces6? 9 s

theorem front6?_of_ne {s : List Char} (h : ∀ rest, s ≠ ':' :: ':' :: rest) :
    front6? s = pieces6? 9 s := by
  rw [front6?]
  exact h

/-- The pieces behind a double colon; a second one is not read. -/
def back6? (s : List Char) : Option (List Nat × Option (List Char)) :=
  if s.isEmpty then some ([], none) else pieces6? 9 s

theorem address6?_eq (s : List Char) :
    address6? s = (front6? s).bind fun (front, tail) =>
      match tail with
      | none => if front.length = 8 then some front else none
      | some rest => (back6? rest).bind fun (back, again) =>
        let missing := 8 - (front.length + back.length)
        if again.isSome then none
        else if missing = 0 then none else some (front ++ List.replicate missing 0 ++ back) := by
  unfold address6? back6?
  split
  on_goal 1 => rw [front6?]
  on_goal 2 => rw [front6?_of_ne ‹_›]
  all_goals
    dsimp only
    refine congrArg (Option.bind _) (funext fun p => ?_)
    obtain ⟨front, tail⟩ := p
    cases tail with
    | none => rfl
    | some rest =>
      dsimp only
      split <;> rfl

/-- The pieces of an address of version 6. -/
structure IsAddress6 (ps : List Nat) : Prop where
  length : ps.length = 8
  lt : ∀ p ∈ ps, p < 0x10000

theorem front6?_shown {ps : List Nat} (h : ∀ p ∈ ps, p < 0x10000) (hlength : ps.length ≤ 9)
    (tail : Option (List Char)) (hne : ps = [] → tail.isSome = true) :
    front6? (shown ps ++ tailText tail) = some (ps, tail) := by
  cases ps with
  | nil =>
    obtain ⟨rest, rfl⟩ := Option.isSome_iff_exists.1 (hne rfl)
    rfl
  | cons p ps =>
    obtain ⟨c, rest, hshown, hc⟩ := exists_shown_eq p ps
    have hread := pieces6?_shown (List.cons_ne_nil p ps) h tail hlength
    rw [front6?_of_ne fun t heq => ?_, hread]
    rw [hshown] at heq
    exact hc (List.cons.inj heq).1

theorem back6?_shown {ps : List Nat} (h : ∀ p ∈ ps, p < 0x10000) (hlength : ps.length ≤ 9) :
    back6? (shown ps) = some (ps, none) := by
  cases ps with
  | nil => rfl
  | cons p ps =>
    obtain ⟨c, rest, hshown, -⟩ := exists_shown_eq p ps
    have hread := pieces6?_shown (List.cons_ne_nil p ps) h none hlength
    rw [tailText, List.append_nil] at hread
    have hne : (shown (p :: ps)).isEmpty = false := by
      rw [hshown]
      rfl
    rw [back6?, hne, if_neg Bool.false_ne_true, hread]

/-- **The text of an address of version 6 is read as that address.** -/
theorem address6?_text {ps : List Nat} (h : IsAddress6 ps) :
    address6? (address6Text ps).toList = some ps := by
  have hlength := h.length
  rcases toList_address6Text ps with htext | ⟨front, n, back, rfl, hn, htext⟩
  · have hne : ps ≠ [] := List.ne_nil_of_length_eq_add_one hlength
    have hfront := front6?_shown h.lt (by omega) none fun hnil => absurd hnil hne
    rw [tailText, List.append_nil] at hfront
    rw [htext, address6?_eq, hfront]
    exact if_pos hlength
  · rw [List.length_append, List.length_append, List.length_replicate] at hlength
    have hfrontLt : ∀ p ∈ front, p < 0x10000 := fun p hp =>
      h.lt p (List.mem_append_left _ (List.mem_append_left _ hp))
    have hbackLt : ∀ p ∈ back, p < 0x10000 := fun p hp => h.lt p (List.mem_append_right _ hp)
    have hfront := front6?_shown hfrontLt (by omega) (some (shown back)) fun _ => rfl
    have hback := back6?_shown hbackLt (by omega)
    have hmissing : 8 - (front.length + back.length) = n := by omega
    rw [htext, address6?_eq]
    show (front6? (shown front ++ tailText (some (shown back)))).bind _ = _
    rw [hfront, Option.bind_some]
    dsimp only
    rw [hback, Option.bind_some]
    dsimp only
    rw [hmissing, Option.isSome_none, if_neg Bool.false_ne_true, if_neg (by omega)]

/-! ## What was read -/

theorem lt_of_piece {s t : List Char} {p : Nat} (h : piece s = (some p, t)) : p < 0x10000 := by
  rw [piece] at h
  obtain ⟨hvalue, -⟩ := Prod.ext_iff.1 h
  dsimp only at hvalue
  split at hvalue
  · cases hvalue
  · have hshort : ((s.take 4).takeWhile fun c => (hexValue? c).isSome).length ≤ 4 :=
      (List.takeWhile_prefix _).length_le.trans (List.length_take_le 4 s)
    exact Nat.lt_of_lt_of_le (lt_of_digitsValue? hvalue)
      (Nat.pow_le_pow_right (n := 16) (by decide) hshort)

theorem le_of_octet? {s : List Char} {n : Nat} (h : octet? s = some n) : n ≤ 255 := by
  rw [octet?.eq_def] at h
  split at h
  · cases h
    decide
  · cases h
  · cases h
  · obtain ⟨m, -, h⟩ := Option.bind_eq_some_iff.1 h
    split at h
    · next hm =>
      cases h
      exact hm
    · cases h

theorem lt_of_octetPieces? {s : List Char} {ps : List Nat} (h : octetPieces? s = some ps) :
    ∀ p ∈ ps, p < 0x10000 := by
  obtain ⟨values, hvalues, h⟩ := Option.bind_eq_some_iff.1 h
  have hle : ∀ k ∈ values, k ≤ 255 := fun k hk => by
    obtain ⟨label, -, hlabel⟩ := Text.exists_of_mem_mapM hvalues hk
    exact le_of_octet? hlabel
  split at h
  · next a b c d =>
    cases h
    have ha := hle a (by simp)
    have hb := hle b (by simp)
    have hc := hle c (by simp)
    have hd := hle d (by simp)
    intro p hp
    simp only [List.mem_cons, List.not_mem_nil, or_false] at hp
    omega
  · cases h

theorem lt_of_pieces6? {fuel : Nat} {s : List Char} {ps : List Nat} {tail : Option (List Char)}
    (h : pieces6? fuel s = some (ps, tail)) : ∀ p ∈ ps, p < 0x10000 := by
  induction fuel generalizing s ps with
  | zero => cases h
  | succ fuel ih =>
    rw [pieces6?] at h
    split at h
    · cases h
    · next hpiece =>
      cases h
      exact List.forall_mem_singleton.2 (lt_of_piece hpiece)
    · next hpiece =>
      cases h
      exact List.forall_mem_singleton.2 (lt_of_piece hpiece)
    · next hpiece =>
      obtain ⟨⟨rest, tail⟩, hrest, heq⟩ := Option.map_eq_some_iff.1 h
      cases heq
      exact List.forall_mem_cons.2 ⟨lt_of_piece hpiece, ih hrest⟩
    · obtain ⟨rest, hrest, heq⟩ := Option.map_eq_some_iff.1 h
      cases heq
      exact lt_of_octetPieces? hrest
    · cases h

/-- An address of version 6 that was read has eight pieces. -/
theorem isAddress6_of_address6? {s : List Char} {ps : List Nat} (h : address6? s = some ps) :
    IsAddress6 ps := by
  rw [address6?_eq] at h
  obtain ⟨⟨front, tail⟩, hfront, h⟩ := Option.bind_eq_some_iff.1 h
  have hlt : ∀ p ∈ front, p < 0x10000 := by
    rw [front6?.eq_def] at hfront
    split at hfront
    · cases hfront
      exact fun _ h => nomatch h
    · exact lt_of_pieces6? hfront
  cases tail with
  | none =>
    dsimp only at h
    split at h
    · next hlength =>
      cases h
      exact ⟨hlength, hlt⟩
    · cases h
  | some rest =>
    obtain ⟨⟨back, again⟩, hback, h⟩ := Option.bind_eq_some_iff.1 h
    have hlt' : ∀ p ∈ back, p < 0x10000 := by
      rw [back6?] at hback
      split at hback
      · cases hback
        exact fun _ h => nomatch h
      · exact lt_of_pieces6? hback
    dsimp only at h
    split at h
    · cases h
    split at h
    · cases h
    next hmissing =>
    cases h
    refine ⟨?_, fun p hp => ?_⟩
    · simp only [List.length_append, List.length_replicate]
      omega
    · rcases List.mem_append.1 hp with hp | hp
      · rcases List.mem_append.1 hp with hp | hp
        · exact hlt p hp
        · rw [List.eq_of_mem_replicate hp]
          decide
      · exact hlt' p hp

end ServiceAdmin.Url
