import Mathlib.Data.List.Basic
import ServiceAdmin.Proofs.Url.Server

/-!
# Seams of URLs

A URL is continued behind exactly one slash: either it ends without one, and the slash is put in, or
it ends in one.  Origins end without a slash (`isStem_origin`).
-/

namespace ServiceAdmin.Url

variable {s t base suffix : String}

/-- A text that is not empty and does not end in a slash. -/
structure IsStem (s : String) : Prop where
  ne_empty : s ≠ ""
  no_slash : s.toList.getLast? ≠ some '/'

/-- A stem and one slash. -/
def EndsInOneSlash (s : String) : Prop := ∃ stem, IsStem stem ∧ s = stem ++ "/"

/-- The suffix stands behind the base, and between them is exactly one slash, which may belong to
the base. -/
def IsJoined (base suffix url : String) : Prop :=
  suffix.toList.head? ≠ some '/' ∧
    ∃ stem, IsStem stem ∧ (base = stem ∨ base = stem ++ "/") ∧ url = stem ++ "/" ++ suffix

theorem isStem_of_notMem (hne : s ≠ "") (h : '/' ∉ s.toList) : IsStem s :=
  ⟨hne, fun hlast => h (List.mem_of_getLast? hlast)⟩

theorem IsStem.append (h : IsStem t) (s : String) : IsStem (s ++ t) where
  ne_empty hempty := h.ne_empty (String.append_eq_empty_iff.1 hempty).2
  no_slash := by
    have hne : t.toList ≠ [] := fun hnil => h.ne_empty (String.toList_eq_nil_iff.1 hnil)
    rw [String.toList_append, List.getLast?_append_of_ne_nil _ hne]
    exact h.no_slash

theorem IsStem.endsInOneSlash (h : IsStem s) : EndsInOneSlash (s ++ "/") := ⟨s, h, rfl⟩

theorem IsStem.isJoined (h : IsStem base) (hsuffix : suffix.toList.head? ≠ some '/') :
    IsJoined base suffix (base ++ "/" ++ suffix) := ⟨hsuffix, base, h, .inl rfl, rfl⟩

theorem EndsInOneSlash.isJoined (h : EndsInOneSlash base)
    (hsuffix : suffix.toList.head? ≠ some '/') : IsJoined base suffix (base ++ suffix) := by
  obtain ⟨stem, hstem, rfl⟩ := h
  exact ⟨hsuffix, stem, hstem, .inr rfl, rfl⟩

/-! ## Origins -/

theorem isStem_null : IsStem "null" := ⟨by decide, by decide⟩

/-- Neither a host nor a port has a slash. -/
theorem isStem_server {url : Url} (h : IsServerUrl url) :
    IsStem (url.scheme ++ "://" ++ (url.host.getD .empty).text ++ portText url.port) := by
  obtain ⟨host, hhost, hserver⟩ := h.host
  have hinner : ∀ c ∈ (host.text ++ portText url.port).toList, IsInner c := by
    rw [String.toList_append, toList_portText]
    exact List.forall_mem_append.2 ⟨isInner_text hserver, isInner_portChars url.port⟩
  have hne : host.text ++ portText url.port ≠ "" := fun hempty =>
    text_ne_nil hserver (String.toList_eq_nil_iff.2 (String.append_eq_empty_iff.1 hempty).1)
  rw [hhost, Option.getD_some, String.append_assoc]
  refine (isStem_of_notMem hne fun hslash => ?_).append _
  exact absurd (hinner '/' hslash).ends (by decide)

theorem isStem_originWithin (depth : Nat) {url : Url} (h : parse s = .ok url) :
    IsStem (originWithin depth url) := by
  -- the URL in a blob: URL was read as well
  induction depth generalizing s url with
  | zero =>
    rw [originWithin]
    split
    · next hscheme => exact isStem_server (isServerUrl_of_parse h hscheme)
    · exact isStem_null
  | succ depth ih =>
    rw [originWithin]
    split
    · next hscheme => exact isStem_server (isServerUrl_of_parse h hscheme)
    split
    · split
      · next hinner => exact ih hinner
      · exact isStem_null
    · exact isStem_null

/-- **An origin ends without a slash.** -/
theorem isStem_origin {url : Url} (h : parse s = .ok url) : IsStem url.origin :=
  isStem_originWithin _ h

end ServiceAdmin.Url
