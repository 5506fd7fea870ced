import ServiceAdmin.Proofs.Diagnostics.Masking

/-!
# Kinds of credentials

A pattern says what leads to a value and how much of the value is masked, and of the text before it
at most the last character counts.  What leads to a value has no character that begins a mask, so
whatever leads to a value in a text with masks did so in the text without them
(`Regular.value_of_shows`).

A text is settled if every value in it is masked.  Masking leaves settled texts as they are
(`Regular.maskFrom_of_settled`) and settles every text (`Regular.settled_maskFrom`), and a text that
is settled for one kind stays so where another is masked that spares it (`Settled.shown`).
-/

namespace ServiceAdmin.Diagnostics

open Text (isBlank)

/-- Every place of the pattern hides a mask; `b` is the character before the text. -/
def Pattern.AllMasked (p : Pattern) (b : Option Char) (t : List Char) : Prop :=
  ∀ front kept hidden r, t = front ++ (kept ++ hidden ++ r) →
    p (lastOr b front) (kept ++ hidden ++ r) = some (kept.length, hidden.length) → hidden = mask

/-- A kind of credential: behind what it may stand, what leads to its value, and how much of the
value is masked. -/
structure Kind where
  follows : Option Char → Bool
  /-- The value, if the text begins with what leads to one. -/
  lead : List Char → Option (List Char)
  size? : List Char → Option Nat
  /-- The characters that may be the last before a value. -/
  ends : Char → Bool

namespace Kind

variable {k k' : Kind}

def pattern (k : Kind) : Pattern := fun before s =>
  if k.follows before then
    (k.lead s).bind fun v => (k.size? v).map fun n => (s.length - v.length, n)
  else none

/-! ## What leads to a value -/

/-- Nothing that leads to a value begins in `s`, where `x` stands behind it. -/
def Barren (k : Kind) (s x : List Char) : Prop :=
  ∀ front r, s = front ++ r → r ≠ [] → k.lead (r ++ x) = none

section Barren

variable {c : Char} {s t x : List Char}

theorem barren_nil : k.Barren [] x := by
  intro front r h hr
  exact absurd (List.append_eq_nil_iff.1 h.symm).2 hr

theorem barren_cons (hc : k.lead (c :: s ++ x) = none) (hs : k.Barren s x) :
    k.Barren (c :: s) x := by
  intro front r h hr
  cases front with
  | nil =>
    obtain rfl : c :: s = r := h
    exact hc
  | cons d front => exact hs front r (List.cons.inj h).2 hr

theorem barren_append (hs : k.Barren s (t ++ x)) (ht : k.Barren t x) : k.Barren (s ++ t) x := by
  induction s with
  | nil => exact ht
  | cons c s ih =>
    refine barren_cons ?_ (ih ?_)
    · have hc := hs [] (c :: s) rfl (List.cons_ne_nil _ _)
      simpa using hc
    · intro front r h hr
      exact hs (c :: front) r (congrArg _ h) hr

theorem barren_of_forall (h : ∀ c ∈ s, ∀ y, k.lead (c :: y) = none) : k.Barren s x := by
  induction s with
  | nil => exact barren_nil
  | cons c s ih =>
    exact barren_cons (h c List.mem_cons_self _) (ih fun d hd => h d (List.mem_cons_of_mem _ hd))

end Barren

/-- `kept` leads to the value `v`, and would to others; nothing begins within it that leads to a
value, also if a mask takes the place of `v`. -/
structure LeadsTo (k : Kind) (kept v : List Char) : Prop where
  lead : ∀ x, (∀ c ∈ x.head?, isBlank c = false ∨ v.head? = some c) → k.lead (kept ++ x) = some x
  unmasked : '[' ∉ kept
  ends : ∃ c, kept.getLast? = some c ∧ k.ends c = true
  barren : ∀ x, k.Barren kept.tail (mask ++ x)

theorem LeadsTo.ne_nil {kept v : List Char} (h : k.LeadsTo kept v) : kept ≠ [] := by
  rintro rfl
  obtain ⟨c, hc, -⟩ := h.ends
  cases hc

/-- What is to be known of a kind. -/
structure Regular (k : Kind) : Prop where
  split : ∀ {s v}, k.lead s = some v → ∃ kept, s = kept ++ v ∧ k.LeadsTo kept v
  barren : ∀ x, k.Barren mask x
  ends : ∀ c ∈ mask, k.ends c = false
  size_le : ∀ {v n}, k.size? v = some n → n ≤ v.length
  /-- Whether there is a value shows in its first character. -/
  size_head : ∀ {v v'}, v'.head? = v.head? → (k.size? v).isSome = true → (k.size? v').isSome = true
  /-- A mask in place of the value ends where the value did. -/
  size_mask : ∀ {hidden s t n}, k.size? (hidden ++ s) = some hidden.length → t.head? = s.head? →
    k.size? (mask ++ t) = some n → n = mask.length

/-- A value that is masked behind the character `last`, before `s`. -/
structure Hides (k : Kind) (last : Char) (hidden s : List Char) : Prop where
  ends : k.ends last = true
  size : k.size? (hidden ++ s) = some hidden.length

/-- What a place splits a text into. -/
theorem Regular.place (hk : k.Regular) {b : Option Char} {s : List Char} {i n : Nat}
    (h : k.pattern b s = some (i, n)) :
    ∃ kept hidden r, s = kept ++ (hidden ++ r) ∧ i = kept.length ∧ n = hidden.length ∧
      k.follows b = true ∧ k.LeadsTo kept (hidden ++ r) ∧
        k.size? (hidden ++ r) = some hidden.length := by
  rw [pattern] at h
  split at h
  · next hb =>
    obtain ⟨v, hv, h⟩ := Option.bind_eq_some_iff.1 h
    obtain ⟨n, hn, h⟩ := Option.map_eq_some_iff.1 h
    obtain ⟨kept, rfl, hlead⟩ := hk.split hv
    have hlength : (v.take n).length = n := List.length_take_of_le (hk.size_le hn)
    cases h
    refine ⟨kept, v.take n, v.drop n, ?_, by simp, hlength.symm, hb, ?_, ?_⟩
    · rw [List.take_append_drop]
    · rwa [List.take_append_drop]
    · rw [List.take_append_drop, hlength, hn]
  · cases h

theorem Regular.lawful (hk : k.Regular) : k.pattern.Lawful where
  pos h := by
    obtain ⟨kept, hidden, r, -, rfl, -, -, hlead, -⟩ := hk.place h
    exact List.length_pos_iff.2 hlead.ne_nil
  le h := by
    obtain ⟨kept, hidden, r, rfl, rfl, rfl, -⟩ := hk.place h
    simp only [List.length_append]
    omega

/-- The recursion of masking, place by place. -/
theorem Regular.maskFrom_induction (hk : k.Regular)
    {P : Option Char → List Char → List Char → Prop} (hnil : ∀ b, P b [] [])
    (hplain : ∀ b c s, k.pattern b (c :: s) = none → ∀ t, t = maskFrom k.pattern (some c) 0 s →
      P (some c) s t → P b (c :: s) (c :: t))
    (hplace : ∀ b kept hidden s, k.follows b = true → k.LeadsTo kept (hidden ++ s) →
      k.size? (hidden ++ s) = some hidden.length → ∀ t,
        t = maskFrom k.pattern (lastOr b (kept ++ hidden)) 0 s →
          P (lastOr b (kept ++ hidden)) s t → P b (kept ++ (hidden ++ s)) (kept ++ (mask ++ t)))
    (b : Option Char) (s : List Char) : P b s (maskFrom k.pattern b 0 s) := by
  refine hk.lawful.maskFrom_induction hnil (fun b c s hnone ih => hplain b c s hnone _ rfl ih)
    (fun b kept hidden s _ hpattern ih => ?_) b s
  obtain ⟨kept', hidden', r, hs, hi, hm, hb, hlead, hsize⟩ := hk.place hpattern
  rw [List.append_assoc] at hs
  obtain ⟨rfl, htail⟩ := List.append_inj hs hi
  obtain ⟨rfl, rfl⟩ := List.append_inj htail hm
  rw [List.append_assoc, List.append_assoc]
  exact hplace b kept hidden s hb hlead hsize _ rfl ih

/-! ## What masking shows -/

/-- `t` shows `s`, but for masks in place of some of the values; `b` is the character before `t`. -/
inductive Shows (k : Kind) : Option Char → List Char → List Char → Prop
  | nil {b : Option Char} : Shows k b [] []
  | keep {b : Option Char} {c : Char} {s t : List Char} :
      Shows k (some c) s t → Shows k b (c :: s) (c :: t)
  | hide {c : Char} {hidden s t : List Char} : k.Hides c hidden s → Shows k (some ']') s t →
      Shows k (some c) (hidden ++ s) (mask ++ t)

section Shows

variable {b : Option Char} {s t w x : List Char} {c : Char}

theorem Shows.keepAll (h : k.Shows (lastOr b w) s t) : k.Shows b (w ++ s) (w ++ t) := by
  induction w generalizing b with
  | nil => exact h
  | cons c w ih =>
    rw [lastOr_cons] at h
    exact .keep (ih h)

/-- What stands before all masks is shown. -/
theorem Shows.of_append (h : k.Shows b s (w ++ x)) (hw : '[' ∉ w) :
    ∃ s', s = w ++ s' ∧ k.Shows (lastOr b w) s' x := by
  induction w generalizing b s with
  | nil => exact ⟨s, rfl, h⟩
  | cons c w ih =>
    obtain ⟨hc, hw⟩ := not_or.1 (mt List.mem_cons.2 hw)
    generalize ht : c :: w ++ x = t at h
    cases h with
    | nil => cases ht
    | keep h =>
      cases ht
      obtain ⟨s', rfl, h'⟩ := ih h hw
      exact ⟨s', rfl, by rwa [lastOr_cons]⟩
    | hide _ _ => exact absurd (List.cons.inj ht).1.symm hc

/-- Where no value may begin nothing is masked. -/
theorem Shows.append (h : k.Shows (some c) (w ++ s) t) (hc : k.ends c = false)
    (hw : ∀ d ∈ w, k.ends d = false) : ∃ t', t = w ++ t' ∧ k.Shows (lastOr (some c) w) s t' := by
  induction w generalizing c t with
  | nil => exact ⟨t, rfl, h⟩
  | cons d w ih =>
    obtain ⟨hd, hw⟩ := List.forall_mem_cons.1 hw
    generalize hs : d :: w ++ s = s' at h
    cases h with
    | nil => cases hs
    | keep h =>
      cases hs
      obtain ⟨t', rfl, h'⟩ := ih h hd hw
      exact ⟨t', rfl, by rwa [lastOr_cons]⟩
    | hide hhides _ => exact absurd (hhides.ends.symm.trans hc) (by decide)

theorem Shows.head (h : k.Shows (some c) s t) (hc : k.ends c = false) : t.head? = s.head? := by
  cases h with
  | nil => rfl
  | keep _ => rfl
  | hide hhides _ => exact absurd (hhides.ends.symm.trans hc) (by decide)

/-- Masking shows what stands around the values. -/
theorem Regular.shows_maskFrom (hk : k.Regular) (before b : Option Char) (s : List Char) :
    k.Shows b s (maskFrom k.pattern before 0 s) := by
  refine hk.maskFrom_induction (P := fun _ s t => ∀ b, k.Shows b s t) (fun _ _ => .nil)
    (fun _ c s _ t _ ih b => .keep (ih _)) (fun _ kept hidden s _ hlead hsize t _ ih b => ?_)
    before s b
  obtain ⟨c, hlast, hends⟩ := hlead.ends
  refine .keepAll ?_
  rw [lastOr, hlast]
  exact .hide ⟨hends, hsize⟩ (ih _)

end Shows

/-! ## Settled texts -/

/-- All values in the text are masked; `b` is the character before the text. -/
def Settled (k : Kind) (b : Option Char) (t : List Char) : Prop :=
  ∀ front r v n, t = front ++ r → k.follows (lastOr b front) = true → k.lead r = some v →
    k.size? v = some n → v.take n = mask

/-- Masking `k'` leaves the masks of `k` as they are, and makes no values of `k`. -/
structure Spares (k' k : Kind) : Prop where
  behind : ∀ {last hidden s}, k'.Hides last hidden s → (k.lead s).isSome = true →
    ∀ before, k.follows (lastOr before hidden) = true
  /-- What is a value of both kinds gets a mask of the same length, or had none. -/
  value : ∀ {last hidden s t n}, k'.Hides last hidden s → k.ends last = true →
    t.head? = s.head? → k.size? (mask ++ t) = some n → n = mask.length ∨
      ∃ c rest, hidden = c :: rest ∧ isBlank c = false ∧ c ≠ '[' ∧ ∀ x, (k.size? (c :: x)).isSome

section Settled

variable {b : Option Char} {c : Char} {s t v w : List Char} {n : Nat}

theorem Regular.settled_iff (hk : k.Regular) : k.Settled b t ↔ k.pattern.AllMasked b t := by
  constructor
  · rintro h front kept hidden r rfl hplace
    obtain ⟨kept', hidden', r', hs, hi, hm, hb, hlead, hsize⟩ := hk.place hplace
    rw [List.append_assoc] at h hs
    obtain ⟨rfl, htail⟩ := List.append_inj hs hi
    obtain ⟨rfl, rfl⟩ := List.append_inj htail hm
    have hmask := h front _ _ _ rfl hb (hlead.lead _ fun c hc => .inr hc) hsize
    rwa [List.take_left] at hmask
  · rintro h front r v n rfl hb hlead hsize
    obtain ⟨kept, rfl, -⟩ := hk.split hlead
    have hlength : (v.take n).length = n := List.length_take_of_le (hk.size_le hsize)
    have hsplit : kept ++ v = kept ++ v.take n ++ v.drop n := by
      rw [List.append_assoc, List.take_append_drop]
    refine h front kept (v.take n) (v.drop n) (congrArg _ hsplit) ?_
    rw [← hsplit, pattern, if_pos hb, hlead, Option.bind_some, hsize, Option.map_some, hlength,
      List.length_append, Nat.add_sub_cancel]

theorem Regular.settled_nil (hk : k.Regular) : k.Settled b [] := by
  intro front r v n h _ hlead
  obtain ⟨-, rfl⟩ := List.append_eq_nil_iff.1 h.symm
  obtain ⟨kept, hsplit, h⟩ := hk.split hlead
  exact absurd (List.append_eq_nil_iff.1 hsplit.symm).1 h.ne_nil

theorem settled_cons (hc : k.follows b = true → ∀ v n, k.lead (c :: t) = some v →
    k.size? v = some n → v.take n = mask) (ht : k.Settled (some c) t) : k.Settled b (c :: t) := by
  intro front r v n h
  cases front with
  | nil =>
    obtain rfl : c :: t = r := h
    exact fun hb => hc hb v n
  | cons d front =>
    obtain ⟨rfl, htail⟩ := List.cons.inj h
    rw [lastOr_cons]
    exact ht front r v n htail

theorem Settled.drop (h : k.Settled b (w ++ t)) : k.Settled (lastOr b w) t := by
  rintro front r v n rfl hb
  rw [← lastOr_append] at hb
  exact h (w ++ front) r v n (List.append_assoc ..).symm hb

theorem Settled.append_barren (hw : k.Barren w t) (ht : k.Settled (lastOr b w) t) :
    k.Settled b (w ++ t) := by
  induction w generalizing b with
  | nil => exact ht
  | cons c w ih =>
    rw [lastOr_cons] at ht
    refine settled_cons (fun _ v n hlead => ?_) (ih (fun front r h => ?_) ht)
    · have hnone : k.lead (c :: (w ++ t)) = none := hw [] (c :: w) rfl (List.cons_ne_nil _ _)
      cases hnone.symm.trans hlead
    · exact hw (c :: front) r (congrArg _ h)

/-- Masking leaves a settled text as it is. -/
theorem Regular.maskFrom_of_settled (hk : k.Regular) (h : k.Settled b t) :
    maskFrom k.pattern b 0 t = t := by
  refine hk.maskFrom_induction (P := fun b s t => k.Settled b s → t = s) (fun _ _ => rfl)
    (fun _ c s _ t _ ih h => ?_) (fun b kept hidden s hb hlead hsize t _ ih h => ?_) b t h
  · rw [ih (h.drop (w := [c]))]
  · have hhidden : hidden = mask := by
      have hmask := h [] _ _ _ rfl hb (hlead.lead _ fun c hc => .inr hc) hsize
      rwa [List.take_left] at hmask
    have hrest : k.Settled (lastOr b (kept ++ hidden)) s := by
      rw [← List.append_assoc] at h
      exact h.drop
    rw [ih hrest, hhidden]

theorem take_mask_append (x : List Char) : (mask ++ x).take mask.length = mask := List.take_left

/-- A mask at the front of a value is shown as a value that is masked. -/
theorem Regular.take_eq_mask (hk : k.Regular) (hk' : k'.Regular) (h : k'.Shows (some c) s t)
    {m : Nat} (htake : (c :: s).take m = mask) (hm : k.size? (c :: s) = some m)
    (hn : k.size? (c :: t) = some n) : (c :: t).take n = mask := by
  have hlength : m = mask.length := by rw [← htake, List.length_take_of_le (hk.size_le hm)]
  obtain ⟨s', hs⟩ : ∃ s', c :: s = mask ++ s' :=
    ⟨(c :: s).drop m, by rw [← htake, List.take_append_drop]⟩
  obtain ⟨rfl, rfl⟩ : c = '[' ∧ s = mask.tail ++ s' := List.cons.inj hs
  obtain ⟨t', rfl, h'⟩ := h.append (hk'.ends _ (by decide))
    fun d hd => hk'.ends d (List.mem_of_mem_tail hd)
  have hhead := h'.head (hk'.ends _ (by decide))
  have hmask : k.size? (mask ++ s') = some mask.length := hlength ▸ hm
  rw [hk.size_mask hmask hhead hn]
  exact take_mask_append t'

/-- A value in what masking shows is masked, or it was a value before. -/
theorem Regular.value_of_shows (hk : k.Regular) (hk' : k'.Regular) (hs : Spares k' k)
    (h : k'.Shows b s t) (hlead : k.lead t = some v) (hsize : k.size? v = some n) :
    v.take n = mask ∨ ∃ v' m, k.lead s = some v' ∧ k.size? v' = some m ∧
      (v'.take m = mask → v.take n = mask) := by
  obtain ⟨kept, rfl, hkept⟩ := hk.split hlead
  obtain ⟨s', rfl, h'⟩ := h.of_append hkept.unmasked
  obtain ⟨last, hlast, hends⟩ := hkept.ends
  rw [lastOr, hlast] at h'
  generalize hb : (some last).or b = b' at h'
  -- The value begins as it did without the masks, or with one of them.
  cases h' with
  | nil => exact .inr ⟨[], n, hkept.lead [] (by simp), hsize, id⟩
  | @keep _ c s t h' =>
    have hsome : (k.size? (c :: s)).isSome = true :=
      hk.size_head (v := c :: t) rfl (Option.isSome_of_eq_some hsize)
    obtain ⟨m, hm⟩ := Option.isSome_iff_exists.1 hsome
    exact .inr ⟨c :: s, m, hkept.lead _ fun d hd => .inr hd, hm,
      fun htake => hk.take_eq_mask hk' h' htake hm hsize⟩
  | hide hhides h' =>
    cases hb
    have hhead := h'.head (hk'.ends _ (by decide))
    rcases hs.value hhides hends hhead hsize with hn | ⟨c, rest, rfl, hc, hne, hsome⟩
    · subst hn
      exact .inl (take_mask_append _)
    · obtain ⟨m, hm⟩ := Option.isSome_iff_exists.1 (hsome _)
      refine .inr ⟨_, m, hkept.lead _ fun d hd => .inl ?_, hm, fun htake => ?_⟩
      · cases hd
        exact hc
      · cases m with
        | zero => cases htake
        | succ m => exact absurd (List.cons.inj htake).1 hne

/-- Masking settles every text. -/
theorem Regular.settled_maskFrom (hk : k.Regular) (hs : Spares k k) (before b : Option Char)
    (s : List Char)
    (hb : k.follows b = true → (k.lead s).isSome = true → k.follows before = true) :
    k.Settled b (maskFrom k.pattern before 0 s) := by
  refine hk.maskFrom_induction (P := fun before s t => ∀ b, (k.follows b = true →
    (k.lead s).isSome = true → k.follows before = true) → k.Settled b t)
    (fun _ _ _ => hk.settled_nil) (fun before c s hnone t ht ih b hb => ?_)
    (fun before kept hidden s _ hlead hsize t ht ih b hb => ?_) before s b hb
  · -- Where no place begins, what leads to a value would have made one.
    refine settled_cons (fun hfollows v n hlead hsize => ?_) (ih _ fun h _ => h)
    have hshows : k.Shows b (c :: s) (c :: t) := ht ▸ .keep (hk.shows_maskFrom _ _ s)
    refine (hk.value_of_shows hk hs hshows hlead hsize).resolve_right ?_
    rintro ⟨v', m, hlead', hsize', -⟩
    have hbefore := hb hfollows (Option.isSome_of_eq_some hlead')
    rw [pattern, if_pos hbefore, hlead', Option.bind_some, hsize'] at hnone
    cases hnone
  · -- A place shows its mask as the value, and nothing else leads to one before the rest.
    have hshows : k.Shows (some ']') s t := ht ▸ hk.shows_maskFrom _ _ s
    have hhead := hshows.head (hk.ends _ (by decide))
    obtain ⟨last, -, hends⟩ := hlead.ends
    have hrest : k.Settled (some ']') t := by
      refine ih _ fun _ hsome => ?_
      rw [lastOr_append]
      exact hs.behind ⟨hends, hsize⟩ hsome _
    have hvalue : k.lead (kept ++ (mask ++ t)) = some (mask ++ t) := by
      refine hlead.lead _ fun c hc => .inl ?_
      cases hc
      decide
    obtain ⟨d, kept, rfl⟩ := List.exists_cons_of_ne_nil hlead.ne_nil
    refine settled_cons (fun _ v n hv hn => ?_)
      (.append_barren (hlead.barren t) (.append_barren (hk.barren t) hrest))
    obtain rfl := Option.some.inj (hvalue.symm.trans hv)
    rw [hk.size_mask hsize hhead hn]
    exact take_mask_append t

/-- A text that is settled stays so where a kind is masked that spares it. -/
theorem Settled.shown (hk : k.Regular) (hk' : k'.Regular) (hs : Spares k' k)
    (h : k'.Shows b s t) {before : Option Char}
    (hb : k.follows b = true → (k.lead s).isSome = true → k.follows before = true)
    (hsettled : k.Settled before s) : k.Settled b t := by
  induction h generalizing before with
  | nil => exact hk.settled_nil
  | @keep b c s t h ih =>
    refine settled_cons (fun hfollows v n hlead hsize => ?_)
      (ih (fun h _ => h) (hsettled.drop (w := [c])))
    rcases hk.value_of_shows hk' hs (.keep (b := b) h) hlead hsize with
      hmask | ⟨v', m, hlead', hsize', hmask⟩
    · exact hmask
    · have hbefore := hb hfollows (Option.isSome_of_eq_some hlead')
      exact hmask (hsettled [] _ v' m rfl hbefore hlead' hsize')
  | hide hhides h ih =>
    exact .append_barren (hk.barren _) (ih (fun _ hsome => hs.behind hhides hsome _) hsettled.drop)

end Settled

end Kind

end ServiceAdmin.Diagnostics
