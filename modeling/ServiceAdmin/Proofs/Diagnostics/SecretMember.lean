import ServiceAdmin.Json.Compact
import ServiceAdmin.Proofs.Diagnostics.BearerToken

/-!
# Secret members are masked

The string of a secret member leaves no trace in the redacted text of an object, unless it has a
double quote, at whose escape the mask ends, or ends within the value of an `authorization:` header,
whose mask takes in what stands behind the string.  `redactedObject_secret` is the positive half,
`not_redactedObject_secret` the other one.
-/

namespace ServiceAdmin.Diagnostics

open Text (isBlank forall_ascii)
open Json (Value Numeral writeChar writeString compactMembers compactMembers_append)

/-! ## The text before the string -/

/-- What stands before the string of a member: its name, a colon and a double quote. -/
def memberHead (name : List Char) : List Char := '"' :: name ++ ['"', ':', '"']

theorem afterSecretName?_append {name : List Char} (h : name ∈ secretNames) (s : List Char) :
    afterSecretName? (name ++ '"' :: s) = some s := by
  simp only [secretNames, List.mem_cons, List.not_mem_nil, or_false] at h
  rcases h with rfl | rfl | rfl | rfl <;> rfl

theorem afterMark?_self {mark : Char} (h : isBlank mark = false) (s : List Char) :
    afterMark? mark (mark :: s) = some s := by
  have hskip : skipBlanks (mark :: s) = mark :: s := by simp [skipBlanks, h]
  unfold afterMark?
  rw [hskip]
  exact if_pos rfl

/-- A secret member is a place of the pattern up to the next double quote. -/
theorem memberPattern_memberHead {before : Option Char} {name value : List Char}
    (h : name ∈ secretNames) (hvalue : '"' ∉ value) (s : List Char) :
    memberPattern before (memberHead name ++ value ++ '"' :: s) =
      some ((memberHead name).length, value.length) := by
  have hrun : (value ++ '"' :: s).takeWhile (· ≠ '"') = value := by
    have hall : ∀ c ∈ value, decide (c ≠ '"') = true := fun c hc =>
      decide_eq_true (ne_of_mem_of_not_mem hc hvalue)
    rw [List.takeWhile_append_of_pos hall, List.takeWhile_cons_of_neg (by decide), List.append_nil]
  have hsplit : memberHead name ++ value ++ '"' :: s =
      '"' :: (name ++ '"' :: ':' :: '"' :: (value ++ '"' :: s)) := by
    simp [memberHead]
  rw [hsplit, memberPattern_quote, afterSecretName?_append h, Option.bind_some,
    afterMark?_self (by decide), Option.bind_some, afterMark?_self (by decide),
    Option.map_some, hrun]
  congr 2
  simp only [memberHead, List.length_append, List.length_cons, List.length_nil]
  omega

/-- Neither of the two words begins within the head of a member. -/
theorem afterWord?_memberHead {word name r front : List Char} {c : Char}
    (hword : word = authorizationWord ∨ word = bearerWord) (h : name ∈ secretNames)
    (hc : c = ',' ∨ c = '\x7b') (hr : c :: memberHead name = front ++ r) (hne : r ≠ [])
    (x : List Char) : afterWord? word (r ++ x) = none := by
  obtain ⟨init, last, rfl⟩ := (List.eq_nil_or_concat r).resolve_left hne
  rw [List.concat_eq_append] at hr ⊢
  have hhead : c :: memberHead name = (c :: '"' :: name ++ ['"', ':']) ++ ['"'] := by
    simp [memberHead]
  rw [hhead, ← List.append_assoc] at hr
  obtain ⟨hinit, hlast⟩ := List.append_inj' hr rfl
  cases hlast
  have hnone : afterWord? word init = none := by
    have hsuffix : init = (c :: '"' :: name ++ ['"', ':']).drop front.length := by
      rw [hinit, List.drop_left]
    have hfinite : (c :: '"' :: name ++ ['"', ':']).length ≤ 17 ∧ afterWord? word [] = none ∧
        ∀ i < 17, afterWord? word ((c :: '"' :: name ++ ['"', ':']).drop i) = none := by
      simp only [secretNames, List.mem_cons, List.not_mem_nil, or_false] at h
      rcases hword with rfl | rfl <;> rcases hc with rfl | rfl <;>
        rcases h with rfl | rfl | rfl | rfl <;> decide
    rw [hsuffix]
    by_cases hi : front.length < 17
    · exact hfinite.2.2 _ hi
    · rw [List.drop_eq_nil_of_le (by omega)]
      exact hfinite.2.1
  rw [List.append_assoc, List.singleton_append,
    afterWord?_append_cons (not_isLetter_of_delimiter (.inl rfl) hword), hnone]
  rfl

/-! ## The three passes -/

theorem mem_maskFrom {p : Pattern} {c : Char} {before : Option Char} {k : Nat} {s : List Char}
    (h : c ∈ maskFrom p before k s) : c ∈ s ∨ c ∈ mask := by
  induction s generalizing before k with
  | nil => cases k <;> exact .inl h
  | cons d s ih =>
    cases k with
    | succ k => exact (ih h).imp_left (List.mem_cons_of_mem _)
    | zero =>
      rw [maskFrom] at h
      split at h
      · rcases List.mem_append.1 h with h | h
        · rcases List.mem_append.1 h with h | h
          · exact .inl (List.mem_of_mem_take h)
          · exact .inr h
        · exact (ih h).imp_left (List.mem_cons_of_mem _)
      · rcases List.mem_cons.1 h with rfl | h
        · exact .inl List.mem_cons_self
        · exact (ih h).imp_left (List.mem_cons_of_mem _)

theorem delimits_quote (s : List Char) : Delimits ('"' :: s) := by
  intro c hc
  cases hc
  exact .inl rfl

section Passes

variable {p name value s : List Char} {c : Char} (hname : name ∈ secretNames)
  (hc : c = ',' ∨ c = '\x7b')

include hname hc

/-- Masking the headers leaves the head of a member as it is. -/
theorem maskAll_authorization_member (hp : c = ',' ∨ p = []) (hvalue : ¬ EndsInHeader value) :
    maskAll authorizationPattern (p ++ (c :: memberHead name ++ (value ++ '"' :: s))) =
      maskAll authorizationPattern p ++ (c :: memberHead name ++
        (maskAll authorizationPattern value ++
          maskFrom authorizationPattern none 0 ('"' :: s))) := by
  have hbefore (b : Option Char) (s : List Char) :=
    maskFrom_before (p := authorizationPattern) (fun _ _ _ => rfl) b none s
  have hfront : Closed authorizationPattern none p
      (c :: memberHead name ++ (value ++ '"' :: s)) := by
    rcases hp with rfl | rfl
    · exact closed_authorizationPattern (by decide) (by decide) (.inl (by decide))
    · exact closed_nil
  have hquote : Closed authorizationPattern none value ('"' :: s) :=
    closed_authorizationPattern (not_isLetter_of_delimiter (.inl rfl) (.inl rfl))
      (by decide) (.inr hvalue)
  have hhead : maskFrom authorizationPattern (lastOr none p) 0
      (c :: memberHead name ++ (value ++ '"' :: s)) = _ :=
    maskFrom_of_no_place fun front r hr hne =>
      authorizationPattern_of_none (afterWord?_memberHead (.inl rfl) hname hc hr hne _)
  rw [maskAll, maskFrom_append lawful_authorizationPattern hfront, hhead,
    hbefore _ (value ++ '"' :: s), maskFrom_append lawful_authorizationPattern hquote,
    hbefore (lastOr none value)]
  rfl

/-- Masking the tokens leaves the head of a member as it is. -/
theorem maskAll_bearer_member :
    maskAll bearerPattern (p ++ (c :: memberHead name ++ (value ++ '"' :: s))) =
      maskAll bearerPattern p ++ (c :: memberHead name ++
        (maskFrom bearerPattern (some '"') 0 value ++
          maskFrom bearerPattern none 0 ('"' :: s))) := by
  have hfront : Closed bearerPattern none p (c :: memberHead name ++ (value ++ '"' :: s)) := by
    rcases hc with rfl | rfl <;>
      exact closed_bearerPattern (by decide) (by decide) (by decide) (.inl (by decide))
  have hquote : Closed bearerPattern (some '"') value ('"' :: s) :=
    closed_bearerPattern (by decide) (by decide) (by decide) (.inl (by decide))
  have hlast (b : Option Char) : lastOr b (c :: memberHead name) = some '"' := by
    simp [memberHead, lastOr_append]
  have hhead : maskFrom bearerPattern (lastOr none p) 0
      (c :: memberHead name ++ (value ++ '"' :: s)) = c :: memberHead name ++
        maskFrom bearerPattern (lastOr (lastOr none p) (c :: memberHead name)) 0
          (value ++ '"' :: s) := by
    refine maskFrom_of_no_place fun front r hr hne => ?_
    rw [bearerPattern_eq, afterWord?_memberHead (.inr rfl) hname hc hr hne]
    split <;> rfl
  rw [maskAll, maskFrom_append lawful_bearerPattern hfront, hhead, hlast,
    maskFrom_append lawful_bearerPattern hquote, maskFrom_bearer_of_delimits (delimits_quote s)]
  rfl

/-- Masking the members masks a string without double quotes. -/
theorem maskAll_member (hvalue : '"' ∉ value) :
    maskAll memberPattern (p ++ (c :: memberHead name ++ (value ++ '"' :: s))) =
      maskAll memberPattern (p ++ [c]) ++
        (memberHead name ++ mask ++ maskFrom memberPattern none 0 ('"' :: s)) := by
  have hfront : Closed memberPattern none (p ++ [c]) (memberHead name ++ value ++ '"' :: s) := by
    rw [memberHead, List.cons_append, List.cons_append, List.cons_append]
    exact closed_memberPattern hc
  have hsplit : p ++ (c :: memberHead name ++ (value ++ '"' :: s)) =
      p ++ [c] ++ (memberHead name ++ value ++ '"' :: s) := by
    simp
  have hne : memberHead name ≠ [] := List.cons_ne_nil _ _
  rw [hsplit, maskAll, maskFrom_append lawful_memberPattern hfront,
    maskFrom_of_place hne (memberPattern_memberHead hname hvalue s),
    maskFrom_before (fun _ _ _ => rfl) _ none]
  rfl

/-- **A secret member is masked.**  What is left of the text does not depend on its string. -/
theorem redactChars_member (hp : c = ',' ∨ p = []) (hquote : '"' ∉ value)
    (hheader : ¬ EndsInHeader value) :
    redactChars (p ++ (c :: memberHead name ++ (value ++ '"' :: s))) =
      maskAll memberPattern (maskAll bearerPattern (maskAll authorizationPattern p) ++ [c]) ++
        (memberHead name ++ mask ++ maskFrom memberPattern none 0
          ('"' :: maskFrom bearerPattern (some '"') 0
            (maskFrom authorizationPattern (some '"') 0 s))) := by
  have hempty : c = ',' ∨ maskAll bearerPattern (maskAll authorizationPattern p) = [] := by
    refine hp.imp_right fun hp => ?_
    rw [hp]
    rfl
  have hauthorization (s : List Char) : maskFrom authorizationPattern none 0 ('"' :: s) =
      '"' :: maskFrom authorizationPattern (some '"') 0 s :=
    maskFrom_of_none (authorizationPattern_of_none rfl)
  have hbearer (s : List Char) : maskFrom bearerPattern none 0 ('"' :: s) =
      '"' :: maskFrom bearerPattern (some '"') 0 s :=
    maskFrom_of_none (bearerPattern_of_delimits (.inl rfl))
  have hmasked :
      '"' ∉ maskFrom bearerPattern (some '"') 0 (maskAll authorizationPattern value) := by
    have hmask : '"' ∉ mask := by decide
    intro h
    rcases mem_maskFrom h with h | h
    · exact (mem_maskFrom h).elim hquote hmask
    · exact hmask h
  rw [redactChars, maskAll_authorization_member hname hc hp hheader, hauthorization,
    maskAll_bearer_member hname hc, hbearer, maskAll_member hname hc hmasked]

end Passes

/-! ## Objects -/

theorem intercalate_cons (item : List Char) (items : List (List Char)) :
    [','].intercalate (item :: items) = item ++ items.flatMap (',' :: ·) := by
  induction items generalizing item with
  | nil => simp [List.intercalate]
  | cons next items ih =>
    rw [List.flatMap_cons, List.cons_append, ← ih next]
    simp [List.intercalate]

theorem intercalate_append_cons (first : List Char) (items : List (List Char)) (item : List Char)
    (rest : List (List Char)) :
    [','].intercalate (first :: items ++ item :: rest) =
      [','].intercalate (first :: items) ++ ',' :: (item ++ rest.flatMap (',' :: ·)) := by
  rw [List.cons_append, intercalate_cons, intercalate_cons]
  simp

/-- The text of a string without its quotes. -/
def written (s : String) : List Char := s.toList.flatMap writeChar

/-- A member stands in the text of its object behind a brace or a comma. -/
theorem exists_compact_member (numeral : Numeral → List Char) {name : String}
    (hname : name.toList ∈ secretNames) (before after : List (String × Value)) :
    ∃ p c s, (c = ',' ∨ c = '\x7b') ∧ (c = ',' ∨ p = []) ∧ ∀ v,
      (Value.object (before ++ (name, .string v) :: after)).compact numeral =
        p ++ (c :: memberHead name.toList ++ (written v ++ '"' :: s)) := by
  have hplain : writeString name = '"' :: name.toList ++ ['"'] := by
    have hwritten : ∀ word ∈ secretNames, word.flatMap writeChar = word := by decide
    rw [writeString, hwritten _ hname]
  have hmember (v : String) (rest : List Char) :
      writeString name ++ ':' :: (Value.string v).compact numeral ++ rest =
        memberHead name.toList ++ (written v ++ '"' :: rest) := by
    rw [hplain, Value.compact, writeString, memberHead]
    simp [written]
  cases before with
  | nil =>
    refine ⟨[], '\x7b', (compactMembers numeral after).flatMap (',' :: ·) ++ ['\x7d'],
      .inr rfl, .inr rfl, fun v => ?_⟩
    rw [List.nil_append, Value.compact, compactMembers, intercalate_cons, List.cons_append,
      List.append_assoc, hmember]
    rfl
  | cons m before =>
    refine ⟨'\x7b' :: [','].intercalate (compactMembers numeral (m :: before)), ',',
      (compactMembers numeral after).flatMap (',' :: ·) ++ ['\x7d'], .inl rfl, .inl rfl,
      fun v => ?_⟩
    rw [Value.compact, compactMembers_append, compactMembers, compactMembers,
      intercalate_append_cons]
    simp only [List.cons_append, List.append_assoc, ← hmember]

/-- A string that is masked as a whole. -/
structure Maskable (v : String) : Prop where
  quote : '"' ∉ v.toList
  header : ¬ EndsInHeader (written v)

theorem writeChar_of_le {c : Char} (h : 128 ≤ c.toNat) : writeChar c = [c] := by
  have hne (d : Char) (hd : d.toNat < 128) : c ≠ d := by
    rintro rfl
    omega
  rw [writeChar, if_neg (hne _ (by decide)), if_neg (hne _ (by decide)), if_neg (hne _ (by decide)),
    if_neg (hne _ (by decide)), if_neg (hne _ (by decide)), if_neg (hne _ (by decide)),
    if_neg (hne _ (by decide)), if_neg (by omega)]

/-- Only a double quote is written with one. -/
theorem quote_notMem_writeChar {c : Char} (h : c ≠ '"') : '"' ∉ writeChar c := by
  by_cases hc : c.toNat < 128
  · exact forall_ascii (P := fun c => c ≠ '"' → '"' ∉ writeChar c) (by decide) hc h
  · rw [writeChar_of_le (by omega), List.mem_singleton]
    exact h.symm

theorem Maskable.quote_notMem_written {v : String} (h : Maskable v) : '"' ∉ written v := by
  intro hquote
  obtain ⟨c, hc, hwritten⟩ := List.mem_flatMap.1 hquote
  exact quote_notMem_writeChar (ne_of_mem_of_not_mem hc h.quote) hwritten

/-- The redacted text of an object. -/
def redactedObject (numeral : Numeral → List Char) (members : List (String × Value)) : String :=
  redact (String.ofList ((Value.object members).compact numeral))

/-- **Secret members are masked.**  Nothing of the string of a secret member is left, if it has no
double quote and does not end within the value of an `authorization:` header. -/
theorem redactedObject_secret (numeral : Numeral → List Char) {name : String}
    (hname : name.toList ∈ secretNames) (before after : List (String × Value)) {v₁ v₂ : String}
    (h₁ : Maskable v₁) (h₂ : Maskable v₂) :
    redactedObject numeral (before ++ (name, .string v₁) :: after) =
      redactedObject numeral (before ++ (name, .string v₂) :: after) := by
  obtain ⟨p, c, s, hc, hp, htext⟩ := exists_compact_member numeral hname before after
  have key {v : String} (h : Maskable v) :=
    redactChars_member (s := s) hname hc hp h.quote_notMem_written h.header
  rw [redactedObject, redactedObject, redact, redact, String.toList_ofList, String.toList_ofList,
    htext, htext, key h₁, key h₂]

theorem redactedObject_secret_behind_header :
    "secret".toList ∈ secretNames ∧ Maskable "a\\b authorization: x, bearer y" ∧ Maskable "" ∧
      redactedObject (fun _ => []) [("note", .string "authorization:"),
          ("secret", .string "a\\b authorization: x, bearer y"), ("password", .null)] =
        redactedObject (fun _ => []) [("note", .string "authorization:"),
          ("secret", .string ""), ("password", .null)] := by
  have hname : "secret".toList ∈ secretNames := by decide
  have h₁ : Maskable "a\\b authorization: x, bearer y" := ⟨by decide, by decide +kernel⟩
  have h₂ : Maskable "" := ⟨by decide, by decide +kernel⟩
  exact ⟨hname, h₁, h₂, redactedObject_secret _ hname [("note", .string "authorization:")]
    [("password", .null)] h₁ h₂⟩

/-- The mask ends at the first double quote of the string, and the rest of the string stays. -/
theorem not_redactedObject_secret : ¬ ∀ (numeral : Numeral → List Char) (name : String),
    name.toList ∈ secretNames → ∀ (before after : List (String × Value)) (v₁ v₂ : String),
      redactedObject numeral (before ++ (name, .string v₁) :: after) =
        redactedObject numeral (before ++ (name, .string v₂) :: after) := by
  intro h
  have hsame := h (fun _ => []) "password" (by decide) [] [] "a\"b" ""
  exact absurd hsame (by decide +kernel)

/-- Within the value of a header, the mask of the header takes the end of the string with it. -/
example : redactedObject (fun _ => []) [("secret", .string "authorization:"), ("id", .string "a")] =
    "\x7b\"secret\":\"[REDACTED]\"id\":\"a\"\x7d" := by decide +kernel

end ServiceAdmin.Diagnostics
