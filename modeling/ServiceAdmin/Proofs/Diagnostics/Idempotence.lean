import ServiceAdmin.Proofs.Diagnostics.Kinds

/-!
# Redacting twice

No pass of redaction makes a credential, neither of its own kind nor of those masked before: what
leads to a value has no character of a mask, and a value that begins with a mask is the mask.  So
what is left of a text is settled for all three kinds, and redacting it again leaves it as it is
(`redact_redact`).
-/

namespace ServiceAdmin.Diagnostics

open Kind

/-! ## The three passes -/

theorem header_spares_header : Spares header header where
  behind _ _ _ := rfl
  value h _ ht hn := .inl (regular_header.size_mask h.size ht hn)

theorem bearer_spares_header : Spares bearer header where
  behind _ _ _ := rfl
  value {last hidden s t n} h _ _ _ := by
    obtain ⟨⟨c, rest, rfl, hc⟩, -⟩ := exists_of_bearer_size h.size
    refine .inr ⟨c, rest, rfl, isBlank_of_isTokenChar hc, ?_, fun x => ?_⟩
    · rintro rfl
      exact absurd hc (by decide)
    · have hheader : isHeaderChar c = true := isTokenChar_induction
        (P := fun c => isHeaderChar c = true) (by decide) (by decide) (by decide) hc
      exact isSome_run?.trans hheader

theorem bearer_spares_bearer : Spares bearer bearer where
  behind {last hidden s} h hlead before := by
    rcases (exists_of_bearer_size h.size).2 with hhead | ⟨front, rfl⟩
    · cases s with
      | nil => cases hlead
      | cons c s =>
        have hletter : isLetter 'b' c = false := by
          refine Bool.eq_false_iff.2 fun hb => ?_
          have htoken := isTokenChar_of_isLetter (by decide : 'b' ∈ bearerWord) hb
          cases htoken.symm.trans (hhead c rfl)
        rw [lead_bearer_of_ne hletter] at hlead
        cases hlead
    · rw [lastOr_append]
      exact (by decide +kernel : bearer.follows (some '=') = true)
  value {last hidden s t n} _ _ _ hn := by
    cases (size_bearer_mask t).symm.trans hn

theorem member_spares_header : Spares member header where
  behind _ _ _ := rfl
  value {last hidden s t n} h hends _ _ := by
    obtain rfl : last = '"' := of_decide_eq_true h.ends
    exact absurd hends (by decide)

theorem member_spares_bearer : Spares member bearer where
  behind {last hidden s} h hlead before := by
    have hhead := Text.head_of_length_takeWhile (Option.some.inj h.size)
    cases s with
    | nil => cases hlead
    | cons c s =>
      obtain rfl : c = '"' := by simpa using hhead c rfl
      cases hlead
  value {last hidden s t n} _ _ _ hn := by
    cases (size_bearer_mask t).symm.trans hn

theorem member_spares_member : Spares member member where
  behind _ _ _ := rfl
  value h _ ht hn := .inl (regular_member.size_mask h.size ht hn)

/-- Every credential in the text is masked. -/
def Redacted (s : List Char) : Prop :=
  ∀ p ∈ [authorizationPattern, bearerPattern, memberPattern], p.AllMasked none s

theorem redacted_iff {s : List Char} : Redacted s ↔
    header.Settled none s ∧ bearer.Settled none s ∧ member.Settled none s := by
  rw [Redacted, authorizationPattern_eq, bearerPattern_eq_pattern, memberPattern_eq,
    regular_header.settled_iff, regular_bearer.settled_iff, regular_member.settled_iff]
  simp only [List.forall_mem_cons, List.not_mem_nil, false_imp_iff, implies_true, and_true]

theorem redacted_redactChars (s : List Char) : Redacted (redactChars s) := by
  rw [redacted_iff, redactChars, maskAll, maskAll, maskAll, authorizationPattern_eq,
    bearerPattern_eq_pattern, memberPattern_eq]
  have hheader := regular_header.settled_maskFrom header_spares_header none none s fun h _ => h
  generalize maskFrom header.pattern none 0 s = s at hheader ⊢
  have hbearer := regular_bearer.settled_maskFrom bearer_spares_bearer none none s fun h _ => h
  have hheader := hheader.shown regular_header regular_bearer bearer_spares_header
    (regular_bearer.shows_maskFrom none none s) fun h _ => h
  generalize maskFrom bearer.pattern none 0 s = s at hheader hbearer ⊢
  have hshows := regular_member.shows_maskFrom none none s
  exact ⟨hheader.shown regular_header regular_member member_spares_header hshows fun h _ => h,
    hbearer.shown regular_bearer regular_member member_spares_bearer hshows fun h _ => h,
    regular_member.settled_maskFrom member_spares_member none none s fun h _ => h⟩

theorem redactChars_of_redacted {s : List Char} (h : Redacted s) : redactChars s = s := by
  obtain ⟨hheader, hbearer, hmember⟩ := redacted_iff.1 h
  rw [redactChars, maskAll, maskAll, maskAll, authorizationPattern_eq, bearerPattern_eq_pattern,
    memberPattern_eq, regular_header.maskFrom_of_settled hheader,
    regular_bearer.maskFrom_of_settled hbearer, regular_member.maskFrom_of_settled hmember]

/-- **Redaction is idempotent.**  In what is left of a text every credential is masked, and such
texts are exactly those that redaction leaves as they are. -/
theorem redact_redact (x : String) : redact (redact x) = redact x ∧ Redacted (redact x).toList ∧
    (redact x = x ↔ Redacted x.toList) := by
  have hchars (x : String) : (redact x).toList = redactChars x.toList := String.toList_ofList
  have hredacted (x : String) : Redacted (redact x).toList := by
    rw [hchars]
    exact redacted_redactChars x.toList
  have hleft {x : String} (h : Redacted x.toList) : redact x = x := by
    rw [redact, redactChars_of_redacted h, String.ofList_toList]
  exact ⟨hleft (hredacted x), hredacted x, fun h => h ▸ hredacted x, hleft⟩

end ServiceAdmin.Diagnostics
