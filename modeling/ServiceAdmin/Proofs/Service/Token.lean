import ServiceAdmin.Proofs.Text.Pieces
import ServiceAdmin.Service.Token

/-!
# Usable tokens

A usable token is read back from what the platform prints of it.
-/

namespace ServiceAdmin.Service

open Text

/-- A usable token. -/
structure Token where
  text : String
  usable : isUsableToken text.toList = true

instance : Inhabited Token := ⟨"token", by decide⟩

/-- What the platform prints of a token. -/
def Token.output (t : Token) : String := "bearer " ++ t.text

theorem notMem_of_isUsableToken {token : List Char} (h : isUsableToken token = true) {c : Char}
    (hc : isBlank c = true ∨ isControl c = true) : c ∉ token := by
  intro hmem
  rw [isUsableToken, Bool.and_eq_true] at h
  have hany : (token.any fun c => isBlank c || isControl c) = true :=
    List.any_eq_true.2 ⟨c, hmem, by rcases hc with hc | hc <;> simp [hc]⟩
  rw [hany] at h
  exact absurd h.2 Bool.false_ne_true

theorem dropLineFeed_append {s t : List Char} (hne : t ≠ []) (ht : '\n' ∉ t) :
    dropLineFeed (s ++ t) = s ++ t := by
  obtain ⟨c, u, hcu⟩ := List.exists_cons_of_ne_nil (mt List.reverse_eq_nil_iff.1 hne)
  have hc : c ∈ t := List.mem_reverse.1 (hcu ▸ List.mem_cons_self)
  rw [dropLineFeed, List.reverse_append, hcu]
  split
  · next heq =>
    cases (List.cons.inj heq).1
    exact absurd hc ht
  · rfl

/-- **The token that is printed is the token that is read.** -/
theorem extractToken_output (t : Token) : extractToken t.output = .ok t.text := by
  have hne : t.text.toList ≠ [] := by
    intro h
    have husable := t.usable
    rw [h] at husable
    cases husable
  have hfeed : '\n' ∉ t.text.toList := notMem_of_isUsableToken t.usable (.inr (by decide))
  have hspace : ' ' ∉ t.text.toList := notMem_of_isUsableToken t.usable (.inl (by decide))
  have hpieces : pieces ' ' (dropLineFeed t.output.toList) =
      [['b', 'e', 'a', 'r', 'e', 'r'], t.text.toList] := by
    rw [Token.output, String.toList_append, dropLineFeed_append hne hfeed]
    show pieces ' ' (['b', 'e', 'a', 'r', 'e', 'r'] ++ ' ' :: t.text.toList) = _
    rw [pieces_append_cons _ (by decide), pieces_of_notMem hspace]
  rw [extractToken, hpieces]
  simp [t.usable]

example : extractToken "bearer eyJ0.x-1" = .ok "eyJ0.x-1" := by rfl

end ServiceAdmin.Service
