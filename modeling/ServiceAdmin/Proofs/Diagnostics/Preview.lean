import ServiceAdmin.Diagnostics.Preview
import ServiceAdmin.Proofs.Diagnostics.BearerToken
import ServiceAdmin.Proofs.Text.Trimmed

/-!
# Previews that hold a token

A preview may be cut anywhere, in the token too.  The token of the preview is then the beginning of
the token with three dots, which are token characters, and it is masked with them.  What stands
before the token is written on one line: no word is put together by that (`infix_of_joined`).
-/

namespace ServiceAdmin.Diagnostics

open Text (isBlank isWordChar forall_ascii toNat_lt_of_isAlphanum)

/-! ## Joined lines -/

/-- The whole text on one line; it stands behind a space if `spaced`. -/
def joined (spaced : Bool) : List Char → List Char
  | [] => []
  | c :: s =>
    if isLineBreak c then
      if spaced then joined true s else ' ' :: joined true s
    else c :: joined (c = ' ') s

/-- A word without spaces at the front of the line is at the front of the text. -/
theorem prefix_of_joined {p w b : List Char} (hw : ' ' ∉ w) (h : joined false p = w ++ b) :
    w <+: p := by
  induction w generalizing p b with
  | nil => exact List.nil_prefix
  | cons c w ih =>
    obtain ⟨hc, hrest⟩ := not_or.1 (mt List.mem_cons.2 hw)
    cases p with
    | nil => cases h
    | cons d p =>
      rw [joined] at h
      split at h
      · rw [if_neg Bool.false_ne_true, List.cons_append] at h
        exact absurd (List.cons.inj h).1 hc
      · obtain ⟨rfl, htail⟩ := List.cons.inj h
        rw [decide_eq_false (Ne.symm hc)] at htail
        exact List.cons_prefix_cons.2 ⟨rfl, ih hrest htail⟩

/-- A word without spaces on the line is in the text. -/
theorem infix_of_joined {spaced : Bool} {p a w b : List Char} {c : Char} (hw : ' ' ∉ c :: w)
    (h : joined spaced p = a ++ (c :: w) ++ b) : c :: w <:+: p := by
  obtain ⟨hc, hrest⟩ := not_or.1 (mt List.mem_cons.2 hw)
  induction p generalizing spaced a with
  | nil => cases a <;> cases h
  | cons d p ih =>
    have hbehind {spaced : Bool} {e : Char} (he : e = ' ')
        (h : e :: joined spaced p = a ++ (c :: w) ++ b) : c :: w <:+: d :: p := by
      cases a with
      | nil => exact absurd ((List.cons.inj h).1.symm.trans he) (Ne.symm hc)
      | cons _ a => exact List.infix_cons (ih (List.cons.inj h).2)
    rw [joined] at h
    split at h
    · split at h
      · exact List.infix_cons (ih h)
      · exact hbehind rfl h
    by_cases hd : d = ' '
    · exact hbehind hd h
    cases a with
    | nil =>
      obtain ⟨rfl, htail⟩ := List.cons.inj h
      rw [decide_eq_false hd] at htail
      exact (List.cons_prefix_cons.2 ⟨rfl, prefix_of_joined hrest htail⟩).isInfix
    | cons _ a => exact List.infix_cons (ih (List.cons.inj h).2)

theorem eq_nil_of_joined {p : List Char} (h : joined false p = []) : p = [] := by
  cases p with
  | nil => rfl
  | cons c p =>
    rw [joined] at h
    split at h <;> cases h

/-- The line ends as the text does, or in a space. -/
theorem getLast?_joined {spaced : Bool} {p : List Char} :
    ∀ c ∈ (joined spaced p).getLast?, c = ' ' ∨ c ∈ p.getLast? := by
  induction p generalizing spaced with
  | nil => simp [joined]
  | cons d p ih =>
    have hcons {c : Char} (h : c ∈ p.getLast?) : c ∈ (d :: p).getLast? := by
      rw [List.getLast?_cons, h]
      rfl
    have hbehind {e : Char} {spaced : Bool} (he : joined spaced p = [] → e = ' ' ∨ p = [] ∧ e = d) :
        ∀ c ∈ (e :: joined spaced p).getLast?, c = ' ' ∨ c ∈ (d :: p).getLast? := by
      intro c hc
      rw [List.getLast?_cons] at hc
      cases hlast : (joined spaced p).getLast? with
      | some c' =>
        rw [hlast] at hc
        cases hc
        exact (ih c' hlast).imp_right hcons
      | none =>
        rw [hlast] at hc
        cases hc
        rcases he (List.getLast?_eq_none_iff.1 hlast) with rfl | ⟨rfl, rfl⟩
        · exact .inl rfl
        · exact .inr rfl
    rw [joined]
    split
    · split
      · exact fun c hc => (ih c hc).imp_right hcons
      · exact hbehind fun _ => .inl rfl
    · refine hbehind fun hnil => ?_
      by_cases hd : d = ' '
      · exact .inl hd
      · rw [decide_eq_false hd] at hnil
        exact .inr ⟨eq_nil_of_joined hnil, rfl⟩

/-! ## Previews of what stands before a token -/

/-- A preview is cut within `p`, or goes on behind the line of `p`, whatever stands there. -/
theorem previewFrom_append (limit size : Nat) (spaced : Bool) (p : List Char) :
    (∃ shown, ∀ x, x ≠ [] → previewFrom limit size spaced (p ++ x) = shown) ∨
      ∃ size' spaced', ∀ x, previewFrom limit size spaced (p ++ x) =
        joined spaced p ++ previewFrom limit size' spaced' x := by
  induction p generalizing size spaced with
  | nil => exact .inr ⟨size, spaced, fun x => rfl⟩
  | cons c p ih =>
    by_cases hlimit : limit ≤ size
    · refine .inl ⟨['.', '.', '.'], fun x _ => ?_⟩
      rw [List.cons_append, previewFrom, if_pos hlimit]
    -- The first character is shown as `shown`, and the preview goes on behind it.
    have hstep (size' : Nat) (spaced' : Bool) (shown : List Char)
        (hcut : ∀ x, previewFrom limit size spaced (c :: p ++ x) =
          shown ++ previewFrom limit size' spaced' (p ++ x))
        (hjoined : joined spaced (c :: p) = shown ++ joined spaced' p) :
        (∃ shown, ∀ x, x ≠ [] → previewFrom limit size spaced (c :: p ++ x) = shown) ∨
          ∃ size' spaced', ∀ x, previewFrom limit size spaced (c :: p ++ x) =
            joined spaced (c :: p) ++ previewFrom limit size' spaced' x := by
      rcases ih size' spaced' with ⟨rest, hrest⟩ | ⟨size'', spaced'', hrest⟩
      · exact .inl ⟨shown ++ rest, fun x hx => by rw [hcut, hrest x hx]⟩
      · exact .inr ⟨size'', spaced'', fun x => by rw [hcut, hrest, hjoined, List.append_assoc]⟩
    by_cases hbreak : isLineBreak c = true
    · cases spaced with
      | true =>
        refine hstep size true [] (fun x => ?_) ?_
        · rw [List.cons_append, previewFrom, if_neg hlimit, if_pos hbreak, if_pos rfl,
            List.nil_append]
        · rw [joined, if_pos hbreak, if_pos rfl, List.nil_append]
      | false =>
        refine hstep (size + 1) true [' '] (fun x => ?_) ?_
        · rw [List.cons_append, previewFrom, if_neg hlimit, if_pos hbreak,
            if_neg Bool.false_ne_true]
          rfl
        · rw [joined, if_pos hbreak, if_neg Bool.false_ne_true]
          rfl
    · refine hstep (size + c.utf8Size) (c = ' ') [c] (fun x => ?_) ?_
      · rw [List.cons_append, previewFrom, if_neg hlimit, if_neg hbreak]
        rfl
      · rw [joined, if_neg hbreak]
        rfl

/-! ## Previews of a token -/

/-- A character of one octet that a preview shows as it is. -/
structure IsPlain (c : Char) : Prop where
  size : c.utf8Size = 1
  unbroken : isLineBreak c = false

/-- Whether a word is followed by a space that is not shown. -/
def spacedAfter (spaced : Bool) (w : List Char) : Bool := w.foldl (fun _ c => c = ' ') spaced

/-- A preview shows a word, or as much of it as there is room for. -/
theorem previewFrom_word {c : Char} {w : List Char} (hw : ∀ d ∈ c :: w, IsPlain d)
    (limit size : Nat) (spaced : Bool) (s : List Char) :
    previewFrom limit size spaced (c :: w ++ s) =
      if size + (c :: w).length ≤ limit then
        c :: w ++ previewFrom limit (size + (c :: w).length) (spacedAfter spaced (c :: w)) s
      else (c :: w).take (limit - size) ++ ['.', '.', '.'] := by
  induction w generalizing c size spaced with
  | nil =>
    have hc := hw c List.mem_cons_self
    rw [List.cons_append, previewFrom, List.length_singleton]
    by_cases hlimit : limit ≤ size
    · rw [if_pos hlimit, if_neg (by omega), Nat.sub_eq_zero_of_le hlimit]
      rfl
    · rw [if_neg hlimit, if_neg (by simp [hc.unbroken]), if_pos (by omega), hc.size]
      rfl
  | cons d w ih =>
    have hc := hw c List.mem_cons_self
    rw [List.cons_append, previewFrom, List.length_cons]
    by_cases hlimit : limit ≤ size
    · rw [if_pos hlimit, if_neg (by omega), Nat.sub_eq_zero_of_le hlimit]
      rfl
    · have hroom : limit - size = limit - (size + 1) + 1 := by omega
      have hsum : size + ((d :: w).length + 1) = size + 1 + (d :: w).length := by omega
      rw [if_neg hlimit, if_neg (by simp [hc.unbroken]), hc.size,
        ih fun e he => hw e (List.mem_cons_of_mem _ he), hroom, hsum]
      split <;> rfl

/-- A token of `n` letters and digits. -/
structure IsToken (n : Nat) (t : List Char) : Prop where
  length : t.length = n
  chars : ∀ c ∈ t, c.isAlphanum = true

theorem isPlain_of_isAlphanum {c : Char} (h : c.isAlphanum = true) : IsPlain c := by
  have hc := forall_ascii
    (P := fun c => c.isAlphanum = true → c.utf8Size = 1 ∧ isLineBreak c = false)
    (by decide) (toNat_lt_of_isAlphanum h) h
  exact ⟨hc.1, hc.2⟩

theorem IsToken.isPlain {n : Nat} {t : List Char} (ht : IsToken n t) :
    ∀ c ∈ bearerWord ++ ' ' :: t, IsPlain c := by
  have hword : ∀ c ∈ bearerWord ++ [' '], c.utf8Size = 1 ∧ isLineBreak c = false := by decide
  intro c hc
  rw [List.append_cons, List.mem_append] at hc
  rcases hc with hc | hc
  · exact ⟨(hword c hc).1, (hword c hc).2⟩
  · exact isPlain_of_isAlphanum (ht.chars c hc)

theorem isTokenChar_of_isAlphanum {c : Char} (h : c.isAlphanum = true) : isTokenChar c = true := by
  simp [isTokenChar, h]

theorem IsToken.spacedAfter {n : Nat} {t : List Char} (ht : IsToken n t) (hn : 0 < n)
    (spaced : Bool) (w : List Char) : Diagnostics.spacedAfter spaced (w ++ t) = false := by
  obtain ⟨t, c, rfl⟩ := (List.eq_nil_or_concat t).resolve_left fun h => by
    have := ht.length
    rw [h, List.length_nil] at this
    omega
  have hc : c ≠ ' ' := by
    rintro rfl
    exact absurd (ht.chars ' ' (by simp)) (by decide)
  simp [Diagnostics.spacedAfter, hc]

/-- What is shown behind a token delimits it, unless it is the mark of a cut. -/
theorem previewFrom_delimits {s : List Char} (hs : Delimits s) (limit size : Nat) :
    previewFrom limit size false s = ['.', '.', '.'] ∨
      Delimits (previewFrom limit size false s) := by
  cases s with
  | nil => exact .inr hs
  | cons c s =>
    rw [previewFrom]
    split
    · exact .inl rfl
    split
    · rw [if_neg Bool.false_ne_true]
      refine .inr fun d hd => .inr ?_
      cases hd
      decide
    · refine .inr fun d hd => ?_
      cases hd
      exact hs c rfl

/-- Of a token behind the word `bearer` a preview shows nothing, or another token. -/
theorem previewFrom_token {s : List Char} (hs : Delimits s) {n : Nat} (hn : 0 < n)
    (limit size : Nat) (spaced : Bool) :
    (∃ shown, ∀ t, IsToken n t →
      previewFrom limit size spaced (bearerWord ++ ' ' :: t ++ s) = shown) ∨
    ∃ (f : List Char → List Char) (s' : List Char), Delimits s' ∧ ∀ t, IsToken n t →
      previewFrom limit size spaced (bearerWord ++ ' ' :: t ++ s) =
          bearerWord ++ ' ' :: f t ++ s' ∧
        f t ≠ [] ∧ ∀ c ∈ f t, isTokenChar c = true := by
  have hlength {t : List Char} (ht : IsToken n t) : (bearerWord ++ ' ' :: t).length = 7 + n := by
    rw [List.length_append, List.length_cons, ht.length]
    show 6 + (n + 1) = 7 + n
    omega
  have hshown {t : List Char} (ht : IsToken n t) :
      previewFrom limit size spaced (bearerWord ++ ' ' :: t ++ s) =
        if size + (7 + n) ≤ limit then
          bearerWord ++ ' ' :: t ++ previewFrom limit (size + (7 + n)) false s
        else (bearerWord ++ ' ' :: t).take (limit - size) ++ ['.', '.', '.'] := by
    have hspaced := ht.spacedAfter hn spaced (bearerWord ++ [' '])
    rw [List.append_assoc, List.singleton_append] at hspaced
    rw [← hlength ht, ← hspaced]
    exact previewFrom_word ht.isPlain limit size spaced s
  have hdots {t : List Char} (ht : ∀ c ∈ t, c.isAlphanum = true) :
      ∀ c ∈ t ++ ['.', '.', '.'], isTokenChar c = true := by
    have hdot : ∀ c ∈ ['.', '.', '.'], isTokenChar c = true := by decide
    intro c hc
    exact (List.mem_append.1 hc).elim (fun hc => isTokenChar_of_isAlphanum (ht c hc)) (hdot c)
  by_cases hroom : size + (7 + n) ≤ limit
  · rcases previewFrom_delimits hs limit (size + (7 + n)) with hcut | hs'
    · refine .inr ⟨fun t => t ++ ['.', '.', '.'], [], by simp [Delimits], fun t ht => ⟨?_, by simp,
        hdots ht.chars⟩⟩
      rw [hshown ht, if_pos hroom, hcut]
      simp
    · refine .inr ⟨id, _, hs', fun t ht =>
        ⟨?_, ?_, fun c hc => isTokenChar_of_isAlphanum (ht.chars c hc)⟩⟩
      · rw [hshown ht, if_pos hroom, id]
      · rintro rfl
        exact absurd ht.length (Nat.ne_of_lt hn)
  have hseven : (bearerWord ++ [' ']).length = 7 := rfl
  -- The cut is before the token, or in it or behind it.
  by_cases hword : limit - size ≤ 7
  · refine .inl ⟨(bearerWord ++ [' ']).take (limit - size) ++ ['.', '.', '.'], fun t ht => ?_⟩
    rw [hshown ht, if_neg hroom, List.append_cons bearerWord, List.take_append_of_le_length hword]
  · refine .inr ⟨fun t => t.take (limit - size - 7) ++ ['.', '.', '.'], [], by simp [Delimits],
      fun t ht => ⟨?_, by simp, hdots fun c hc => ht.chars c (List.mem_of_mem_take hc)⟩⟩
    rw [hshown ht, if_neg hroom, List.append_cons bearerWord, List.take_append,
      hseven, List.take_of_length_le (by rw [hseven]; omega)]
    simp

/-! ## Trimming -/

theorem delimits_trimEndChars {s : List Char} (hs : Delimits s) :
    Delimits (Text.trimEndChars s) := by
  obtain ⟨r, hr⟩ := Text.isPrefix_trimEndChars s
  intro c hc
  refine hs c ?_
  rw [← hr, List.head?_append, hc]
  rfl

/-- Trimming does not reach a token. -/
theorem trimChars_token (p : List Char) {t : List Char} (hne : t ≠ [])
    (ht : ∀ c ∈ t, isTokenChar c = true) (s : List Char) :
    Text.trimChars (p ++ (bearerWord ++ ' ' :: t ++ s)) =
      p.dropWhile isBlank ++ (bearerWord ++ ' ' :: t ++ Text.trimEndChars s) := by
  have hstart : Text.trimStartChars (p ++ (bearerWord ++ ' ' :: t ++ s)) =
      p.dropWhile isBlank ++ (bearerWord ++ ' ' :: t ++ s) :=
    Text.dropWhile_append_cons (by decide) p _
  obtain ⟨t, c, rfl⟩ := (List.eq_nil_or_concat t).resolve_left hne
  have hc : isBlank c = false := isBlank_of_isTokenChar (ht c (by simp))
  have hsplit (s : List Char) : p.dropWhile isBlank ++ (bearerWord ++ ' ' :: (t ++ [c]) ++ s) =
      (p.dropWhile isBlank ++ (bearerWord ++ ' ' :: t)) ++ c :: s := by
    simp
  rw [Text.trimChars, hstart, List.concat_eq_append, hsplit, Text.trimEndChars_append_cons hc,
    ← hsplit]

/-! ## What is left of a preview -/

/-- A place for a bearer token, set off from a text that holds no other credential before it. -/
structure Lone (p s : List Char) : Prop where
  header : ¬ authorizationWord <:+: p.map Char.toLower
  bearer : ¬ bearerWord <:+: p.map Char.toLower
  before : ∀ c ∈ p.getLast?, isWordChar c = false
  behind : Delimits s

theorem map_toLower_of_afterWord? {word s : List Char} (hword : ∀ w ∈ word, w ≠ 's' ∧ w ≠ 'k')
    (h : afterWord? word s = some []) : s.map Char.toLower = word := by
  induction word generalizing s with
  | nil => cases h; rfl
  | cons w word ih =>
    cases s with
    | nil => cases h
    | cons c s =>
      rw [afterWord?] at h
      split at h
      · next hc =>
        obtain ⟨hs, hk⟩ := hword w List.mem_cons_self
        have hc : c.toLower = w := by simpa [isLetter, hs, hk] using hc
        rw [List.map_cons, hc, ih (fun v hv => hword v (List.mem_cons_of_mem _ hv)) h]
      · cases h

/-- A word that is not in the text is not on its line either. -/
theorem not_afterWord?_of_joined {word p x : List Char} (hne : word ≠ [])
    (hword : ∀ w ∈ word, w ≠ 's' ∧ w ≠ 'k' ∧ w ≠ ' ') (hp : ¬ word <:+: p.map Char.toLower)
    (hx : x <:+: joined false p) : afterWord? word x ≠ some [] := by
  intro h
  have hlower := map_toLower_of_afterWord? (fun w hw => ⟨(hword w hw).1, (hword w hw).2.1⟩) h
  have hspace : ' ' ∉ x := fun hmem =>
    (hword ' ' (hlower ▸ List.mem_map_of_mem hmem)).2.2 rfl
  cases x with
  | nil => exact hne hlower.symm
  | cons c x =>
    obtain ⟨a, b, hx⟩ := hx
    exact hp (hlower ▸ (infix_of_joined hspace hx.symm).map Char.toLower)

section Lines

variable {p s q : List Char} (h : Lone p s) (hq : q <:+ joined false p)

include h hq

theorem Lone.not_endsInHeader : ¬ EndsInHeader q := by
  rintro ⟨front, word, gap, value, rfl, hword, -, -⟩
  refine not_afterWord?_of_joined (by decide) (by decide) h.header ?_ hword
  exact .trans ⟨front, gap ++ value, (List.append_assoc _ _ _).symm⟩ hq.isInfix

theorem Lone.not_endsInBearer : ¬ EndsInBearer q := by
  rintro ⟨front, word, gap, value, rfl, -, hword, -, -, -⟩
  refine not_afterWord?_of_joined (by decide) (by decide) h.bearer ?_ hword
  exact .trans ⟨front, gap ++ value, (List.append_assoc _ _ _).symm⟩ hq.isInfix

theorem Lone.not_isWordChar_getLast? : ∀ c ∈ q.getLast?, isWordChar c = false := by
  intro c hc
  obtain ⟨r, hr⟩ := hq
  have hlast : c ∈ (joined false p).getLast? := by
    rw [← hr, List.getLast?_append, hc]
    rfl
  rcases getLast?_joined c hlast with rfl | hc
  · decide +kernel
  · exact h.before c hc

end Lines

/-- What is left of a preview is the same for all tokens of the same length. -/
theorem redactChars_preview {p s : List Char} (h : Lone p s) {n : Nat} (hn : 0 < n) (limit : Nat)
    {t₁ t₂ : List Char} (h₁ : IsToken n t₁) (h₂ : IsToken n t₂) :
    redactChars (Text.trimChars (previewFrom limit 0 false (p ++ (bearerWord ++ ' ' :: t₁ ++ s)))) =
      redactChars (Text.trimChars
        (previewFrom limit 0 false (p ++ (bearerWord ++ ' ' :: t₂ ++ s)))) := by
  rcases previewFrom_append limit 0 false p with ⟨shown, hshown⟩ | ⟨size, spaced, hshown⟩
  · rw [hshown _ (by simp), hshown _ (by simp)]
  rw [hshown, hshown]
  rcases previewFrom_token h.behind hn limit size spaced with
    ⟨shown, hshown⟩ | ⟨f, s', hs', hshown⟩
  · rw [hshown t₁ h₁, hshown t₂ h₂]
  have hline : (joined false p).dropWhile isBlank <:+ joined false p := List.dropWhile_suffix _
  have hword : afterWord? bearerWord bearerWord = some [] := rfl
  have key {t : List Char} (ht : IsToken n t) := by
    obtain ⟨htoken, hne, hchars⟩ := hshown t ht
    have hredact := redactChars_bearer (h.not_endsInHeader hline) (h.not_endsInBearer hline)
      (h.not_isWordChar_getLast? hline) hword hne hchars
      (delimits_trimEndChars hs')
    rwa [← trimChars_token (joined false p) hne hchars s', ← htoken] at hredact
  rw [key h₁, key h₂]

/-- **A redacted preview does not depend on the token.** -/
theorem redact_preview {p s : List Char} (h : Lone p s) {n : Nat} (hn : 0 < n) (limit : Nat)
    {t₁ t₂ : List Char} (h₁ : IsToken n t₁) (h₂ : IsToken n t₂) :
    redact (preview (String.ofList (p ++ (bearerWord ++ ' ' :: t₁ ++ s))) limit) =
      redact (preview (String.ofList (p ++ (bearerWord ++ ' ' :: t₂ ++ s))) limit) := by
  have hblank (t : List Char) :
      Text.isAllBlank (String.ofList (p ++ (bearerWord ++ ' ' :: t ++ s))) = false := by
    refine List.all_eq_false.2 ⟨'b', ?_, by decide⟩
    rw [String.toList_ofList]
    exact List.mem_append_right _ (List.mem_append_left _ (List.mem_append_left _ (by decide)))
  simp only [redact, preview, hblank, String.toList_ofList, Bool.false_eq_true, if_false,
    redactChars_preview h hn limit h₁ h₂]

end ServiceAdmin.Diagnostics
