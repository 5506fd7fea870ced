import ServiceAdmin.Proofs.Url.Label
import ServiceAdmin.Proofs.Url.Server

/-!
# Servers in one domain

The host of a URL that was read is accepted again unchanged (`isStable_of_parse`), and so is the
host that has words in place of its first label (`isServer_neighbour`, `isStable_neighbour`).
-/

namespace ServiceAdmin.Url

open Domain (IsWords)

/-! ## Hosts that were read -/

theorem exists_ofText?_of_wellKnownHost {s : List Char} {name : String}
    (h : wellKnownHost s = .ok (.domain name)) :
    ∃ t, Domain.ofText? t = some name.toList := by
  unfold wellKnownHost at h
  split at h
  · unfold bracketedHost at h
    split at h
    · split at h <;> cases h
    · cases h
  · split at h
    · cases h
    · cases h
    · next found _ hfound =>
      split at h
      · split at h <;> cases h
      · cases h
        rw [String.toList_ofList]
        unfold Domain.ofOctets? at hfound
        split at hfound
        · exact ⟨_, hfound⟩
        · cases hfound

/-- **The host of a URL is accepted again unchanged.** -/
theorem isStable_of_parse {s : String} {url : Url} (h : parse s = .ok url)
    (hscheme : hasTupleOrigin url.scheme = true) :
    ∀ host, url.host = some host → host.IsStable := by
  intro host hhost
  obtain ⟨⟨t, host', hhost', hread⟩, -, -⟩ := parts_of_parse h hscheme
  cases hhost.symm.trans hhost'
  cases host with
  | domain name =>
    obtain ⟨t, hname⟩ := exists_ofText?_of_wellKnownHost hread
    exact .inr (Domain.ofText?_again hname)
  | _ => trivial

/-! ## Another first label -/

variable {front rest p t : List Char} {name : String}

theorem getLast?_hostLabels (hfront : '.' ∉ front) (hne : rest ≠ []) :
    (hostLabels (front ++ '.' :: rest)).getLast? = (hostLabels rest).getLast? := by
  have hpieces : (Text.pieces '.' (front ++ '.' :: rest)).reverse =
      (Text.pieces '.' rest).reverse ++ [front] := by
    rw [Text.pieces_append_cons _ hfront, List.reverse_cons]
  have hjoin := Text.intercalate_pieces '.' rest
  -- by the labels from the last one on, of which an empty one is dropped
  obtain ⟨last, inner, hinner⟩ := List.exists_cons_of_ne_nil
    (mt List.reverse_eq_nil_iff.1 (Text.pieces_ne_nil '.' rest))
  have hlabels : Text.pieces '.' rest = inner.reverse ++ [last] := by
    rw [← List.reverse_reverse (Text.pieces '.' rest), hinner, List.reverse_cons]
  simp only [hostLabels, hpieces, hinner, List.cons_append]
  cases last with
  | cons c last =>
    rw [Text.pieces_append_cons _ hfront, hlabels]
    simp [List.getLast?_cons]
  | nil =>
    cases inner with
    | nil =>
      rw [hlabels] at hjoin
      exact absurd hjoin.symm hne
    | cons label inner => simp [List.getLast?_cons]

/-- Whether a name ends in a number does not depend on its first label. -/
theorem endsInNumber_append (hfront : '.' ∉ front) (hne : rest ≠ []) :
    endsInNumber (front ++ '.' :: rest) = endsInNumber rest := by
  rw [endsInNumber, getLast?_hostLabels hfront hne]
  rfl

/-- **The neighbour of a domain is a domain.** -/
theorem isServer_neighbour (h : wellKnownHost t = .ok (.domain name))
    (hname : name.toList = front ++ '.' :: rest) (hfront : '.' ∉ front) (hne : rest ≠ [])
    (hp : IsWords p) : (Host.domain (String.ofList (p ++ '.' :: rest))).IsServer := by
  have hp' : '.' ∉ p := fun hdot => (hp.char_facts '.' hdot).2.2 rfl
  cases isServer_of_wellKnownHost h with
  | @domain name _ hchars hnumber =>
    rw [String.toList_ofList] at hname
    subst hname
    refine .domain (by simp) (List.forall_mem_append.2 ⟨?_, ?_⟩) ?_
    · exact fun c hc => (hp.char_facts c hc).1
    · exact (List.forall_mem_append.1 hchars).2
    · rwa [endsInNumber_append hp' hne, ← endsInNumber_append hfront hne]

/-- **The neighbour of a domain is accepted unchanged.** -/
theorem isStable_neighbour (h : wellKnownHost t = .ok (.domain name))
    (hname : name.toList = front ++ '.' :: rest) (hfront : '.' ∉ front) (hp : IsWords p) :
    (Host.domain (String.ofList (p ++ '.' :: rest))).IsStable := by
  obtain ⟨s, hs⟩ := exists_ofText?_of_wellKnownHost h
  rw [hname] at hs
  refine .inr ?_
  rw [String.toList_ofList]
  exact Domain.ofText?_replace hs hfront hp

end ServiceAdmin.Url
