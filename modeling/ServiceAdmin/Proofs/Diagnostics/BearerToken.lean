import ServiceAdmin.Proofs.Diagnostics.Credentials

/-!
# Bearer tokens are masked

A bearer token leaves no trace in a redacted text, unless the word `bearer` before it is itself
taken for a credential: for the value of an `authorization:` header or for a token.
`bearerMasked_of_not_endsIn` is the positive half, `not_bearerMasked` the other one.
-/

namespace ServiceAdmin.Diagnostics

open Text (isBlank isWordChar forall_ascii toNat_lt_of_isAlphanum)

/-! ## Characters -/

theorem isTokenChar_induction {P : Char → Prop}
    (hascii : ∀ n < 128, isTokenChar (Char.ofNat n) = true → P (Char.ofNat n))
    (hlongS : P '\u017F') (hkelvin : P '\u212A') {c : Char} (h : isTokenChar c = true) : P c := by
  by_cases hc : c.toNat < 128
  · exact forall_ascii (P := fun c => isTokenChar c = true → P c) hascii hc h
  · have hne : ∀ d : Char, d.toNat < 128 → c ≠ d := by
      rintro d hd rfl
      exact hc hd
    have halnum : c.isAlphanum = false :=
      Bool.eq_false_iff.2 fun halnum => hc (toNat_lt_of_isAlphanum halnum)
    simp only [isTokenChar, halnum, hne '-' (by decide), hne '.' (by decide),
      hne '_' (by decide), hne '~' (by decide), hne '+' (by decide), hne '/' (by decide),
      decide_false, Bool.false_or, Bool.or_eq_true] at h
    rcases h with h | h
    · refine isLetter_induction (P := P) (by decide) ?_ hlongS hkelvin
        (List.mem_singleton.2 rfl : 's' ∈ ['s']) h
      intro n hn w hw hl
      obtain rfl := List.mem_singleton.1 hw
      exact hascii n hn (by simp [isTokenChar, hl])
    · refine isLetter_induction (P := P) (by decide) ?_ hlongS hkelvin
        (List.mem_singleton.2 rfl : 'k' ∈ ['k']) h
      intro n hn w hw hl
      obtain rfl := List.mem_singleton.1 hw
      exact hascii n hn (by simp [isTokenChar, hl])

/-- The letters of the word `bearer` could stand in a token. -/
theorem isTokenChar_of_isLetter {w c : Char} (hw : w ∈ bearerWord) (h : isLetter w c = true) :
    isTokenChar c = true :=
  isLetter_induction (P := fun c => isTokenChar c = true) (by decide) (by decide)
    (by decide) (by decide) hw h

theorem isBlank_of_isTokenChar {c : Char} (h : isTokenChar c = true) : isBlank c = false :=
  isTokenChar_induction (P := fun c => isBlank c = false) (by decide) (by decide)
    (by decide) h

theorem not_isLetter_colon_of_isTokenChar {c : Char} (h : isTokenChar c = true) :
    isLetter ':' c = false :=
  isTokenChar_induction (P := fun c => isLetter ':' c = false) (by decide)
    (by decide) (by decide) h

/-- What may follow a token: nothing, or a text that begins with a double quote or a blank. -/
def Delimits (s : List Char) : Prop := ∀ c ∈ s.head?, c = '"' ∨ isBlank c = true

section Delimiter

variable {c : Char} (h : c = '"' ∨ isBlank c = true)

include h

theorem not_isTokenChar_of_delimiter : isTokenChar c = false := by
  rcases h with rfl | h
  · decide
  · refine Bool.eq_false_iff.2 fun htoken => ?_
    rw [isBlank_of_isTokenChar htoken] at h
    cases h

theorem not_isLetter_of_delimiter {word : List Char}
    (hword : word = authorizationWord ∨ word = bearerWord) :
    ∀ w ∈ word, isLetter w c = false := by
  intro w hw
  rcases h with rfl | h
  · rcases hword with rfl | rfl <;> revert w <;> decide
  · refine Bool.eq_false_iff.2 fun hletter => ?_
    rw [not_isBlank_of_isLetter hword hw hletter] at h
    cases h

end Delimiter

/-- The first letter of the word `bearer` continues neither a header nor another such word. -/
theorem exists_cons_of_bearer {word : List Char} (h : afterWord? bearerWord word = some []) :
    ∃ b rest, word = b :: rest ∧ (∀ w ∈ authorizationWord, isLetter w b = false) ∧
      (∀ w ∈ bearerWord.tail, isLetter w b = false) ∧ isHeaderChar b = true ∧ b ≠ '=' := by
  cases word with
  | nil => cases h
  | cons b rest =>
    have hb : isLetter 'b' b = true := by
      cases hb : isLetter 'b' b with
      | true => rfl
      | false => exact absurd ((if_neg (Bool.eq_false_iff.1 hb)).symm.trans h) (by simp)
    refine ⟨b, rest, rfl, ?_⟩
    exact isLetter_induction (P := fun b => (∀ w ∈ authorizationWord, isLetter w b = false) ∧
      (∀ w ∈ bearerWord.tail, isLetter w b = false) ∧ isHeaderChar b = true ∧ b ≠ '=')
      (by decide) (by decide) (by decide) (by decide)
      (List.mem_singleton.2 rfl : 'b' ∈ ['b']) hb

theorem isBlank_of_isHeaderChar {c : Char} (h : isHeaderChar c = true) : isBlank c = false := by
  simp only [isHeaderChar, Bool.and_eq_true, Bool.not_eq_true'] at h
  exact h.1

/-! ## The pass over the headers -/

theorem afterWord?_eq_none {word s : List Char} {w : Char} (hw : w ∈ word)
    (h : ∀ c ∈ s, isLetter w c = false) : afterWord? word s = none := by
  induction word generalizing s with
  | nil => cases hw
  | cons v vs ih =>
    cases s with
    | nil => rfl
    | cons c s =>
      rw [afterWord?]
      split
      · next hc =>
        rcases List.mem_cons.1 hw with rfl | hw
        · rw [h c List.mem_cons_self] at hc
          cases hc
        · exact ih hw fun d hd => h d (List.mem_cons_of_mem _ hd)
      · rfl

theorem authorizationPattern_of_none {before : Option Char} {s : List Char}
    (h : afterWord? authorizationWord s = none) : authorizationPattern before s = none := by
  simp only [authorizationPattern, h, Option.bind_eq_bind, Option.bind_none]

/-- A text without a colon holds no header, whatever delimiter stands behind it. -/
theorem authorizationPattern_append {before : Option Char} {r s : List Char}
    (hr : ∀ c ∈ r, isLetter ':' c = false) (hs : Delimits s) :
    authorizationPattern before (r ++ s) = none := by
  refine authorizationPattern_of_none ?_
  have hnone : afterWord? authorizationWord r = none := afterWord?_eq_none (by decide) hr
  cases s with
  | nil => rw [List.append_nil, hnone]
  | cons c s =>
    rw [afterWord?_append_cons (not_isLetter_of_delimiter (hs c rfl) (.inl rfl)), hnone]
    rfl

theorem delimits_maskFrom_authorization {s : List Char} (hs : Delimits s) (before : Option Char) :
    Delimits (maskFrom authorizationPattern before 0 s) := by
  cases s with
  | nil => exact hs
  | cons c s =>
    have hnone : authorizationPattern before (c :: s) = none :=
      authorizationPattern_append (r := []) (by simp) hs
    rw [maskFrom_of_none hnone]
    exact hs

/-- Masking the headers leaves an exposed bearer token as it is. -/
theorem maskAll_authorization_bearer {p word token s : List Char} (hp : ¬ EndsInHeader p)
    (hword : afterWord? bearerWord word = some []) (htoken : ∀ c ∈ token, isTokenChar c = true)
    (hs : Delimits s) :
    maskAll authorizationPattern (p ++ (word ++ ' ' :: token ++ s)) =
      maskAll authorizationPattern p ++
        (word ++ ' ' :: token ++ maskFrom authorizationPattern none 0 s) := by
  obtain ⟨_, hsplit, -, -, hletters⟩ := exists_append_of_afterWord? hword
  rw [List.append_nil] at hsplit
  subst hsplit
  have hcolon : ∀ c ∈ word ++ ' ' :: token, isLetter ':' c = false := by
    intro c hc
    rcases List.mem_append.1 hc with hc | hc
    · obtain ⟨w, hw, hl⟩ := hletters c hc
      exact not_isLetter_colon_of_isTokenChar (isTokenChar_of_isLetter hw hl)
    · rcases List.mem_cons.1 hc with rfl | hc
      · decide
      · exact not_isLetter_colon_of_isTokenChar (htoken c hc)
  have hclosed : Closed authorizationPattern none p (word ++ ' ' :: token ++ s) := by
    obtain ⟨b, rest, rfl, hletter, -, hvalue, -⟩ := exists_cons_of_bearer hword
    exact closed_authorizationPattern hletter (isBlank_of_isHeaderChar hvalue) (.inr hp)
  have hplain : maskFrom authorizationPattern (lastOr none p) 0 (word ++ ' ' :: token ++ s) =
      word ++ ' ' :: token ++ maskFrom authorizationPattern none 0 s := by
    rw [maskFrom_before (fun _ _ _ => rfl) none]
    refine maskFrom_of_no_place ?_
    rintro front r hr -
    refine authorizationPattern_append (fun c hc => hcolon c ?_) hs
    rw [hr]
    exact List.mem_append_right _ hc
  rw [maskAll, maskFrom_append lawful_authorizationPattern hclosed, hplain]
  rfl

/-! ## The pass over the bearer tokens -/

theorem bearerPattern_of_delimits {before : Option Char} {c : Char} {s : List Char}
    (h : c = '"' ∨ isBlank c = true) : bearerPattern before (c :: s) = none := by
  have hword : afterWord? bearerWord (c :: s) = none := by
    have hc := afterWord?_append_cons (not_isLetter_of_delimiter h (.inr rfl)) [] s
    rw [List.nil_append] at hc
    rw [hc]
    rfl
  rw [bearerPattern_eq, hword]
  split <;> rfl

/-- Behind a delimiter it makes no difference what stood before it. -/
theorem maskFrom_bearer_of_delimits {s : List Char} (hs : Delimits s) (b₁ b₂ : Option Char) :
    maskFrom bearerPattern b₁ 0 s = maskFrom bearerPattern b₂ 0 s := by
  cases s with
  | nil => rfl
  | cons c s =>
    rw [maskFrom_of_none (bearerPattern_of_delimits (hs c rfl)),
      maskFrom_of_none (bearerPattern_of_delimits (hs c rfl))]

/-- An exposed bearer token is a place of the pattern. -/
theorem bearerPattern_token {before : Option Char} {word token s : List Char}
    (hbefore : before.any isWordChar = false) (hword : afterWord? bearerWord word = some [])
    (hne : token ≠ []) (htoken : ∀ c ∈ token, isTokenChar c = true) (hs : Delimits s) :
    bearerPattern before (word ++ [' '] ++ token ++ s) =
      some ((word ++ [' ']).length, token.length) := by
  obtain ⟨t, ts, rfl⟩ := List.exists_cons_of_ne_nil hne
  have hrest : afterWord? bearerWord (word ++ [' '] ++ (t :: ts) ++ s) =
      some (' ' :: t :: ts ++ s) := by
    have h := afterWord?_append hword (' ' :: t :: ts ++ s)
    simpa using h
  have hvalue : skipBlanks (' ' :: t :: ts ++ s) = t :: ts ++ s := by
    have hblank : isBlank t = false := isBlank_of_isTokenChar (htoken t List.mem_cons_self)
    have hspace : isBlank ' ' = true := by decide
    simp [skipBlanks, hspace, hblank]
  have hrun : (t :: ts ++ s).takeWhile isTokenChar = t :: ts := by
    rw [List.takeWhile_append_of_pos htoken]
    cases s with
    | nil => simp
    | cons c s => simp [not_isTokenChar_of_delimiter (hs c rfl)]
  have hpadding : s.takeWhile (· = '=') = [] := by
    cases s with
    | nil => rfl
    | cons c s =>
      have hc : c ≠ '=' := by
        rintro rfl
        exact absurd (hs _ rfl) (by decide)
      simp [hc]
  rw [bearerPattern_eq, if_neg (Bool.eq_false_iff.1 hbefore), hrest]
  simp only [Option.bind_some, hvalue, run?, hrun, List.length_append, List.length_cons]
  rw [if_neg (by omega)]
  simp only [Option.map_some, List.drop_left' (List.length_cons ..), hpadding]
  congr 2
  simp
  omega

/-- Masking the tokens masks one that is exposed. -/
theorem maskAll_bearer_token {p word token s : List Char} (hp : ¬ EndsInBearer p)
    (hlast : ∀ c ∈ p.getLast?, isWordChar c = false) (hword : afterWord? bearerWord word = some [])
    (hne : token ≠ []) (htoken : ∀ c ∈ token, isTokenChar c = true) (hs : Delimits s) :
    maskAll bearerPattern (p ++ (word ++ ' ' :: token ++ s)) =
      maskAll bearerPattern p ++ (word ++ ' ' :: mask ++ maskFrom bearerPattern none 0 s) := by
  have hclosed : Closed bearerPattern none p (word ++ ' ' :: token ++ s) := by
    obtain ⟨b, rest, rfl, -, hletter, hvalue, hpadding⟩ := exists_cons_of_bearer hword
    exact closed_bearerPattern hletter (isBlank_of_isHeaderChar hvalue) hpadding (.inr hp)
  have hbefore : (lastOr none p).any isWordChar = false := by
    rw [lastOr, Option.or_none]
    cases h : p.getLast? with
    | none => rfl
    | some c => exact hlast c h
  have hplace : maskFrom bearerPattern (lastOr none p) 0 (word ++ [' '] ++ token ++ s) =
      word ++ [' '] ++ mask ++ maskFrom bearerPattern none 0 s := by
    rw [maskFrom_of_place (by simp) (bearerPattern_token hbefore hword hne htoken hs),
      maskFrom_bearer_of_delimits hs _ none]
  rw [maskAll, maskFrom_append lawful_bearerPattern hclosed]
  simpa [maskAll] using hplace

/-! ## Both passes -/

theorem not_isHeaderChar_of_place {before : Option Char} {kept hidden r : List Char}
    (h : authorizationPattern before (kept ++ hidden ++ r) = some (kept.length, hidden.length)) :
    ∀ c ∈ r.head?, isHeaderChar c = false := by
  obtain ⟨rest, hrest, hrun, hkept⟩ := authorizationPattern_eq_some h
  obtain ⟨t, ht, -⟩ := exists_append_of_afterWord? hrest
  have hsuffix : skipBlanks rest <:+ kept ++ hidden ++ r :=
    (List.dropWhile_suffix _).trans ⟨t, ht.symm⟩
  have hvalue : skipBlanks rest = hidden ++ r := by
    rw [List.suffix_iff_eq_drop.1 hsuffix, ← hkept, List.append_assoc, List.drop_left]
  rw [hvalue] at hrun
  exact Text.head_of_length_takeWhile (run?_eq_some hrun).1.symm

/-- What the pass over the headers leaves at the end of a text. -/
theorem maskAll_authorization_tail (p : List Char) :
    maskAll authorizationPattern p = p ∨
      ∃ front shown t, p = front ++ t ∧ maskAll authorizationPattern p = shown ++ mask ++ t ∧
        ∀ c ∈ t.head?, isHeaderChar c = false :=
  maskFrom_tail lawful_authorizationPattern (P := fun r => ∀ c ∈ r.head?, isHeaderChar c = false)
    (fun _ _ _ _ => not_isHeaderChar_of_place) none p

theorem not_isWordChar_getLast?_masked {p : List Char}
    (h : ∀ c ∈ p.getLast?, isWordChar c = false) :
    ∀ c ∈ (maskAll authorizationPattern p).getLast?, isWordChar c = false := by
  rcases maskAll_authorization_tail p with hp | ⟨front, shown, t, rfl, hp, -⟩
  · rwa [hp]
  · rw [hp]
    intro c hc
    rw [List.getLast?_append] at hc h
    cases ht : t.getLast? with
    | none =>
      rw [ht, Option.none_or, List.getLast?_append] at hc
      cases hc
      decide +kernel
    | some d =>
      rw [ht] at hc h
      exact h c hc

/-- The pass over the headers lets no bearer token reach the end of a text. -/
theorem endsInBearer_of_masked {p : List Char} (h : EndsInBearer (maskAll authorizationPattern p)) :
    EndsInBearer p := by
  rcases maskAll_authorization_tail p with hp | ⟨front, shown, t, rfl, hp, ht⟩
  · rwa [hp] at h
  obtain ⟨before, word, gap, value, hsplit, hbefore, hword, hne, hgap, hvalue⟩ := h
  have hends : shown ++ mask ++ t = before ++ (word ++ (gap ++ value)) := by
    rw [← hp, hsplit]
    simp only [List.append_assoc]
  have hchars : ']' ∉ word ++ (gap ++ value) := by
    intro hc
    rcases List.mem_append.1 hc with hc | hc
    · obtain ⟨_, hw, -, -, hletters⟩ := exists_append_of_afterWord? hword
      rw [List.append_nil] at hw
      obtain ⟨w, hw, hl⟩ := hletters _ (hw ▸ hc)
      exact absurd (isTokenChar_of_isLetter hw hl) (by decide)
    · rcases List.mem_append.1 hc with hc | hc
      · exact absurd (hgap _ hc) (by decide)
      · exact absurd (hvalue _ hc) (by decide)
  have hstart : t ≠ word ++ (gap ++ value) := by
    obtain ⟨b, rest, rfl, -, -, hb, -⟩ := exists_cons_of_bearer hword
    rintro rfl
    exact absurd (ht b rfl) (by simp [hb])
  -- A token behind the mask began behind the place; one that began before holds the mask's end.
  rcases List.append_eq_append_iff.1 hends with ⟨a, rfl, ha⟩ | ⟨a, hmask, ha⟩
  · have hne' : a ≠ [] := by
      rintro rfl
      exact hstart ha
    obtain ⟨init, last, rfl⟩ := (List.eq_nil_or_concat a).resolve_left hne'
    refine ⟨front ++ init.concat last, word, gap, value, by simp [ha], ?_, hword, hne, hgap,
      hvalue⟩
    intro c hc
    refine hbefore c ?_
    simpa using hc
  · have hne' : a ≠ [] := by
      rintro rfl
      exact hstart ha.symm
    obtain ⟨init, last, rfl⟩ := (List.eq_nil_or_concat a).resolve_left hne'
    have hlast := congrArg List.getLast? hmask
    rw [List.concat_eq_append, ← List.append_assoc, List.getLast?_concat, List.getLast?_append]
      at hlast
    cases hlast
    exact absurd (ha ▸ by simp) hchars

/-- **An exposed bearer token is masked.**  What is left of the text does not depend on it. -/
theorem redactChars_bearer {p word token s : List Char} (hheader : ¬ EndsInHeader p)
    (hbearer : ¬ EndsInBearer p) (hlast : ∀ c ∈ p.getLast?, isWordChar c = false)
    (hword : afterWord? bearerWord word = some []) (hne : token ≠ [])
    (htoken : ∀ c ∈ token, isTokenChar c = true) (hs : Delimits s) :
    redactChars (p ++ (word ++ ' ' :: token ++ s)) =
      maskAll memberPattern (maskAll bearerPattern (maskAll authorizationPattern p) ++
        (word ++ ' ' :: mask ++
          maskFrom bearerPattern none 0 (maskFrom authorizationPattern none 0 s))) := by
  rw [redactChars, maskAll_authorization_bearer hheader hword htoken hs,
    maskAll_bearer_token (fun h => hbearer (endsInBearer_of_masked h))
      (not_isWordChar_getLast?_masked hlast) hword hne htoken
      (delimits_maskFrom_authorization hs none)]

/-! ## Texts -/

/-- A token as it stands behind the word `bearer`. -/
structure BearerToken where
  text : String
  nonempty : text.toList ≠ []
  chars : ∀ c ∈ text.toList, c.isAlphanum = true ∨ c ∈ ['-', '.', '_', '~', '+', '/']

theorem BearerToken.isTokenChar (t : BearerToken) :
    ∀ c ∈ t.text.toList, isTokenChar c = true := by
  intro c hc
  rcases t.chars c hc with h | h
  · simp [Diagnostics.isTokenChar, h]
  · revert h
    generalize c = d
    revert d
    decide

theorem afterWord?_of_map_toLower {word s : List Char} (h : s.map Char.toLower = word) :
    afterWord? word s = some [] := by
  subst h
  induction s with
  | nil => rfl
  | cons c s ih => simp [afterWord?, isLetter, ih]

/-- Whether the text redacted is the same for all tokens behind the word between `p` and `s`. -/
def BearerMasked (p word s : String) : Prop :=
  ∀ t₁ t₂ : BearerToken,
    redact (p ++ word ++ " " ++ t₁.text ++ s) = redact (p ++ word ++ " " ++ t₂.text ++ s)

/-- Where a token is set off from what stands around it: before the word `bearer`, in whatever
letters, stands no word character, and behind the token a double quote or a blank. -/
structure SetOff (p word s : String) : Prop where
  before : ∀ c ∈ p.toList.getLast?, isWordChar c = false
  word : word.toList.map Char.toLower = "bearer".toList
  behind : Delimits s.toList

/-- **Bearer tokens are masked.**  Nothing of a token is left, if the word before it is no part of
another credential: of the value of an `authorization:` header, or of a token. -/
theorem bearerMasked_of_not_endsIn {p word s : String} (h : SetOff p word s)
    (hheader : ¬ EndsInHeader p.toList) (hbearer : ¬ EndsInBearer p.toList) :
    BearerMasked p word s := by
  have key (t : BearerToken) := redactChars_bearer hheader hbearer h.before
    (afterWord?_of_map_toLower h.word) t.nonempty t.isTokenChar h.behind
  have hchars (t : BearerToken) : (p ++ word ++ " " ++ t.text ++ s).toList =
      p.toList ++ (word.toList ++ ' ' :: t.text.toList ++ s.toList) := by
    simp
  intro t₁ t₂
  rw [redact, redact, hchars, hchars, key, key]

theorem bearerMasked_behind_list :
    SetOff "authorization: a, bearer b; '" "BEARER" "\"" ∧
      ¬ EndsInHeader "authorization: a, bearer b; '".toList ∧
      ¬ EndsInBearer "authorization: a, bearer b; '".toList ∧
      BearerMasked "authorization: a, bearer b; '" "BEARER" "\"" := by
  have hset : SetOff "authorization: a, bearer b; '" "BEARER" "\"" :=
    ⟨by decide +kernel, by decide +kernel, by simp [Delimits]⟩
  have hheader : ¬ EndsInHeader "authorization: a, bearer b; '".toList := by decide +kernel
  have hbearer : ¬ EndsInBearer "authorization: a, bearer b; '".toList := by decide +kernel
  exact ⟨hset, hheader, hbearer, bearerMasked_of_not_endsIn hset hheader hbearer⟩

/-- Behind the name of a header the word `bearer` is taken for the value, and the token stays. -/
theorem not_bearerMasked : ¬ ∀ p word s, SetOff p word s → BearerMasked p word s := by
  intro h
  have hset : SetOff "Authorization: " "Bearer" "" :=
    ⟨by decide +kernel, by decide +kernel, by simp [Delimits]⟩
  have hsame := h _ _ _ hset ⟨"abc", by decide, by decide⟩ ⟨"xyz", by decide, by decide⟩
  exact absurd hsame (by decide +kernel)

/-- A word `bearer` behind another one is taken for a token, and the token stays. -/
example : redact "bearer bearer abc" = "bearer [REDACTED] abc" := by decide +kernel

end ServiceAdmin.Diagnostics
