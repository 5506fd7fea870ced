import ServiceAdmin.Diagnostics.Hint
import ServiceAdmin.Error
import ServiceAdmin.Proofs.Text.Occurrence

/-!
# Causes and hints

The text of an error with its causes has the words of each of them (`describe_tellsAll`).  No word
for a certificate that is not trusted arises where the texts are joined, so that the hint follows
exactly if one of the texts has such a word.
-/

namespace ServiceAdmin.Diagnostics

open Text (infix_append_cons_iff infix_cons_iff_of_head)

/-! ## Joined causes -/

theorem intercalate_append_cause (message cause : String) (kept : List String) :
    ": ".intercalate ((message ++ ": " ++ cause) :: kept) =
      ": ".intercalate (message :: cause :: kept) := by
  cases kept with
  | nil => rfl
  | cons next kept =>
    rw [String.intercalate_cons_of_ne_nil (List.cons_ne_nil _ _),
      String.intercalate_cons_of_ne_nil (List.cons_ne_nil _ _),
      String.intercalate_cons_of_ne_nil (List.cons_ne_nil _ _)]
    simp only [String.append_assoc]

/-- **The message is followed by some of its causes, in their order.** -/
theorem exists_describe_eq (message : String) (causes : List String) :
    ∃ kept, kept.Sublist causes ∧
      describe message causes = ": ".intercalate (message :: kept) := by
  induction causes generalizing message with
  | nil => exact ⟨[], .slnil, rfl⟩
  | cons cause causes ih =>
    rw [describe]
    split
    · obtain ⟨kept, hkept, htext⟩ := ih message
      exact ⟨kept, hkept.cons cause, htext⟩
    · obtain ⟨kept, hkept, htext⟩ := ih (message ++ ": " ++ cause)
      exact ⟨cause :: kept, hkept.cons_cons cause, htext.trans (intercalate_append_cause _ _ _)⟩

theorem prefix_describe (message : String) (causes : List String) :
    message.toList <+: (describe message causes).toList := by
  induction causes generalizing message with
  | nil => exact List.prefix_rfl
  | cons cause causes ih =>
    rw [describe]
    split
    · exact ih message
    · refine List.IsPrefix.trans ?_ (ih (message ++ ": " ++ cause))
      rw [String.append_assoc, String.toList_append]
      exact List.prefix_append _ _

/-- **No cause is lost**: what is not appended is in the text already. -/
theorem infix_describe {message : String} {causes : List String} :
    ∀ text ∈ message :: causes, text.toList <:+: (describe message causes).toList := by
  refine List.forall_mem_cons.2 ⟨(prefix_describe message causes).isInfix, ?_⟩
  induction causes generalizing message with
  | nil => exact fun _ h => nomatch h
  | cons cause causes ih =>
    rw [describe]
    refine List.forall_mem_cons.2 ⟨?_, ih⟩
    refine List.IsInfix.trans ?_ (prefix_describe _ causes).isInfix
    split
    · next hcontains => exact Text.contains_iff.1 hcontains
    · rw [String.toList_append]
      exact List.infix_append_right

/-! ## Words across joints -/

/-- A word that does not arise where the texts of a message are joined, and that is not in the words
around them. -/
structure IsMarker (word : List Char) : Prop where
  ne_nil : word ≠ []
  no_colon : ':' ∉ word
  no_quote : '\'' ∉ word
  no_space : word.head? ≠ some ' '
  not_before : ¬ word <:+: "Request to ".toList
  not_behind : ¬ word <:+: " failed".toList

theorem isMarker_of_mem : ∀ marker ∈ certificateMarkers, IsMarker marker.toList := by
  intro marker hmarker
  have hall : ∀ marker ∈ certificateMarkers, marker.toList ≠ [] ∧ ':' ∉ marker.toList ∧
      '\'' ∉ marker.toList ∧ marker.toList.head? ≠ some ' ' ∧
      Text.contains "Request to " marker = false ∧ Text.contains " failed" marker = false := by
    decide
  obtain ⟨hne, hcolon, hquote, hspace, hbefore, hbehind⟩ := hall marker hmarker
  exact ⟨hne, hcolon, hquote, hspace, fun h => Bool.eq_false_iff.1 hbefore (Text.contains_iff.2 h),
    fun h => Bool.eq_false_iff.1 hbehind (Text.contains_iff.2 h)⟩

section Marker

variable {word : List Char} (h : IsMarker word)

include h

theorem IsMarker.infix_cause_iff (s t : List Char) :
    word <:+: s ++ ':' :: ' ' :: t ↔ word <:+: s ∨ word <:+: t := by
  rw [infix_append_cons_iff h.no_colon, infix_cons_iff_of_head h.ne_nil h.no_space]

theorem IsMarker.infix_intercalate_iff (message : String) (kept : List String) :
    word <:+: (": ".intercalate (message :: kept)).toList ↔
      ∃ text ∈ message :: kept, word <:+: text.toList := by
  induction kept generalizing message with
  | nil => simp [String.intercalate_singleton]
  | cons cause kept ih =>
    have htext : (": ".intercalate (message :: cause :: kept)).toList =
        message.toList ++ ':' :: ' ' :: (": ".intercalate (cause :: kept)).toList := by
      rw [String.intercalate_cons_of_ne_nil (List.cons_ne_nil _ _), String.append_assoc,
        String.toList_append, String.toList_append]
      rfl
    rw [htext, h.infix_cause_iff, ih]
    simp only [List.mem_cons, exists_eq_or_imp]

/-- A marker in the text of an error with its causes is in one of them. -/
theorem IsMarker.infix_describe_iff (message : String) (causes : List String) :
    word <:+: (describe message causes).toList ↔
      ∃ text ∈ message :: causes, word <:+: text.toList := by
  constructor
  · obtain ⟨kept, hkept, htext⟩ := exists_describe_eq message causes
    rw [htext, h.infix_intercalate_iff]
    rintro ⟨text, hmem, hword⟩
    exact ⟨text, (hkept.cons_cons message).subset hmem, hword⟩
  · rintro ⟨text, hmem, hword⟩
    exact hword.trans (infix_describe text hmem)

/-- A marker in the message of a failed request is in its URL or in the reason. -/
theorem IsMarker.infix_failure_iff (url reason : String) :
    word <:+: (TransportError.failure url reason).message.toList ↔
      word <:+: url.toList ∨ word <:+: reason.toList := by
  have htext : (TransportError.failure url reason).message.toList =
      "Request to ".toList ++ '\'' :: (url.toList ++ '\'' ::
        (" failed".toList ++ ':' :: ' ' :: reason.toList)) := by
    show (toString "Request to '" ++ toString url ++ toString "' failed: " ++
      toString reason).toList = _
    simp [toString]
  rw [htext, infix_append_cons_iff h.no_quote, infix_append_cons_iff h.no_quote,
    h.infix_cause_iff, or_iff_right h.not_before, or_iff_right h.not_behind]

end Marker

theorem hint?_eq_some_iff {message hint : String} :
    hint? message = some hint ↔ hint = skipSslValidationHint ∧
      ∃ marker ∈ certificateMarkers, marker.toList <:+: message.toList := by
  have hany : certificateMarkers.any (Text.contains message) = true ↔
      ∃ marker ∈ certificateMarkers, marker.toList <:+: message.toList := by
    simp only [List.any_eq_true, Text.contains_iff]
  rw [hint?, ← hany]
  split
  · next h => simp [h, eq_comm]
  · next h => simp [h]

/-! ## What is told of an error -/

/-- The text tells an error and all its causes. -/
structure TellsAll (message : String) (causes : List String) (told : String) : Prop where
  outermost : message.toList <+: told.toList
  all : ∀ text ∈ message :: causes, text.toList <:+: told.toList
  joined : ∃ kept, kept.Sublist causes ∧ told = ": ".intercalate (message :: kept)

/-- The words by which a text speaks of a certificate that is not trusted. -/
def distrust : List String :=
  ["unknown authority", "UnknownIssuer", "self signed certificate", "self-signed certificate",
    "unable to get local issuer certificate"]

/-- **No cause of an error is lost, and the hint is exact**: it follows the message of a failed
request exactly if the URL, the error or one of its causes speaks of a certificate that is not
trusted. -/
theorem describe_tellsAll (url message : String) (causes : List String) :
    TellsAll message causes (describe message causes) ∧
      ∀ hint, hint? (TransportError.failure url (describe message causes)).message = some hint ↔
        hint = "Hint: try --skip-ssl-validation at your own risk." ∧ ∃ marker ∈ distrust,
          ∃ text ∈ url :: message :: causes, marker.toList <:+: text.toList := by
  refine ⟨⟨prefix_describe message causes, infix_describe, exists_describe_eq message causes⟩,
    fun hint => ?_⟩
  have hmarkers : distrust = certificateMarkers := rfl
  rw [hint?_eq_some_iff, hmarkers]
  refine and_congr_right fun _ => exists_congr fun marker => and_congr_right fun hmarker => ?_
  have h := isMarker_of_mem marker hmarker
  rw [h.infix_failure_iff, h.infix_describe_iff]
  simp only [List.mem_cons, exists_eq_or_imp]

/-- A cause that is told already is not told again. -/
example : describe "a" ["b", "a: b", "c"] = "a: b: c" := by decide

end ServiceAdmin.Diagnostics
