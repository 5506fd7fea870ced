import ServiceAdmin.Proofs.Url.Address6
import ServiceAdmin.Proofs.Url.Domain
import ServiceAdmin.Url.Parse

/-!
# Hosts that are read again

The host of a well-known scheme is a server (`isServer_of_wellKnownHost`).  Its text is read as that
host (`wellKnownHost_text`), and nothing in the text is taken for the end of the host
(`splitHost_text`).
-/

namespace ServiceAdmin.Url

namespace Host

/-- A host that a URL with a well-known scheme can have. -/
inductive IsServer : Host → Prop
  | domain {name : List Char} (ne_nil : name ≠ []) (chars : ∀ c ∈ name, Domain.IsNameChar c)
      (not_number : endsInNumber name = false) : IsServer (.domain (String.ofList name))
  | address4 {n : Nat} (lt : n < 0x100000000) : IsServer (.address4 n)
  | address6 {ps : List Nat} (pieces : IsAddress6 ps) : IsServer (.address6 ps)

/-- The name of the host, if it has one, is accepted again unchanged.  Of a literal name this is
known; of others it depends on what Unicode says of their characters. -/
def IsStable : Host → Prop
  | .domain name => Domain.IsLiteral name.toList ∨ Domain.ofText? name.toList = some name.toList
  | _ => True

end Host

open Host (IsServer IsStable)

theorem isNameChar_of_ofOctets? {octets : List UInt8} {name : List Char}
    (h : Domain.ofOctets? octets = some name) : ∀ c ∈ name, Domain.IsNameChar c := by
  unfold Domain.ofOctets? at h
  split at h
  · exact Domain.isNameChar_of_ofText? h
  · cases h

theorem isServer_of_wellKnownHost {s : List Char} {host : Host} (h : wellKnownHost s = .ok host) :
    host.IsServer := by
  unfold wellKnownHost at h
  split at h
  · unfold bracketedHost at h
    split at h
    · split at h
      · next hpieces =>
        cases h
        exact .address6 (isAddress6_of_address6? hpieces)
      · cases h
    · cases h
  · split at h
    · cases h
    · cases h
    · next hne hname =>
      split at h
      · split at h
        · next hvalue =>
          cases h
          exact .address4 (lt_of_address4? hvalue)
        · cases h
      · next hnumber =>
        cases h
        exact .domain hne (isNameChar_of_ofOctets? hname) (Bool.eq_false_iff.2 hnumber)

/-! ## Names and addresses -/

theorem isNameChar_address4Text (n : Nat) : ∀ c ∈ (address4Text n).toList, Domain.IsNameChar c :=
  forall_mem_address4Text
    (fun d hd => Domain.isNameChar_of_isAlphanum ((by decide : ∀ d < 10,
      (Nat.digitChar d).isAlphanum = true) d hd)) Domain.isNameChar_dot n

theorem isLiteral_address4Text (n : Nat) : Domain.IsLiteral (address4Text n).toList := by
  have hchars : ∀ c ∈ (address4Text n).toList, c.toLower = c ∧ c ≠ 'x' :=
    forall_mem_address4Text (by decide) (by decide) n
  refine ⟨(List.map_congr_left fun c hc => (hchars c hc).1).trans (List.map_id _), ?_⟩
  refine List.any_eq_false.2 fun label hlabel hmark => ?_
  obtain ⟨rest, rfl⟩ := List.isPrefixOf_iff_prefix.1 hmark
  exact (hchars 'x' (Text.mem_of_mem_pieces hlabel 'x' List.mem_cons_self).1).2 rfl

theorem wellKnownHost_of_ofText? {name : List Char} (hne : name ≠ [])
    (hchars : ∀ c ∈ name, Domain.IsNameChar c) (hread : Domain.ofText? name = some name) :
    wellKnownHost name =
      if endsInNumber name then
        match address4? name with
        | some value => .ok (.address4 value)
        | none => .error .invalidAddress4
      else .ok (.domain (String.ofList name)) := by
  have hoctets := (Domain.ofOctets?_percentDecode hchars).trans hread
  unfold wellKnownHost
  split
  · -- a name has no bracket
    have hbracket := (hchars '[' List.mem_cons_self).allowed
    exact absurd hbracket (by decide)
  · rw [hoctets]
    cases name with
    | nil => exact absurd rfl hne
    | cons c name => rfl

theorem bracketedHost_append (s : List Char) :
    bracketedHost (s ++ [']']) =
      match address6? s with
      | some pieces => .ok (.address6 pieces)
      | none => .error .invalidAddress6 := by
  rw [bracketedHost, List.reverse_append, List.reverse_singleton, List.singleton_append]
  show (match address6? s.reverse.reverse with
    | some pieces => _
    | none => _) = _
  rw [List.reverse_reverse]

theorem toList_text_address6 (ps : List Nat) :
    (Host.address6 ps).text.toList = '[' :: ((address6Text ps).toList ++ [']']) := by
  rw [Host.text, String.toList_append, String.toList_append]
  rfl

/-- **The text of a server is read as that server.** -/
theorem wellKnownHost_text {host : Host} (h : host.IsServer) (hstable : host.IsStable) :
    wellKnownHost host.text.toList = .ok host := by
  cases h with
  | @domain name hne hchars hnumber =>
    rw [IsStable, String.toList_ofList] at hstable
    have hread : Domain.ofText? name = some name :=
      hstable.elim (Domain.ofText?_of_isLiteral hchars) id
    rw [Host.text, String.toList_ofList, wellKnownHost_of_ofText? hne hchars hread, hnumber]
    rfl
  | @address4 n hn =>
    have hchars := isNameChar_address4Text n
    have hread := Domain.ofText?_of_isLiteral hchars (isLiteral_address4Text n)
    have hnumber := endsInNumber_address4Text n
    have hne : (address4Text n).toList ≠ [] := by
      intro hnil
      rw [hnil] at hnumber
      cases hnumber
    rw [Host.text, wellKnownHost_of_ofText? hne hchars hread, hnumber, address4?_text hn]
    rfl
  | @address6 ps hps =>
    rw [toList_text_address6, wellKnownHost, bracketedHost_append, address6?_text hps]

/-! ## The characters of a host -/

/-- A character that may stand between the two slashes and the path of a URL, behind the
credentials. -/
structure IsInner (c : Char) : Prop where
  edge : isEdge c = false
  ends : endsAuthority true c = false
  ne_at : c ≠ '@'

instance (c : Char) : Decidable (IsInner c) :=
  decidable_of_iff (isEdge c = false ∧ endsAuthority true c = false ∧ c ≠ '@')
    ⟨fun h => ⟨h.1, h.2.1, h.2.2⟩, fun h => ⟨h.edge, h.ends, h.ne_at⟩⟩

theorem isInner_of_isNameChar {c : Char} (h : Domain.IsNameChar c) : IsInner c :=
  Text.forall_ascii (P := fun c => Domain.isForbidden c = false → IsInner c) (by decide) h.ascii
    h.allowed

theorem isInner_text {host : Host} (h : host.IsServer) : ∀ c ∈ host.text.toList, IsInner c := by
  cases h with
  | domain _ hchars _ =>
    rw [Host.text, String.toList_ofList]
    exact fun c hc => isInner_of_isNameChar (hchars c hc)
  | @address4 n _ => exact fun c hc => isInner_of_isNameChar (isNameChar_address4Text n c hc)
  | @address6 ps _ =>
    rw [toList_text_address6]
    refine List.forall_mem_cons.2 ⟨by decide, List.forall_mem_append.2 ⟨?_, ?_⟩⟩
    · exact forall_mem_address6Text (by decide) (by decide) ps
    · exact List.forall_mem_singleton.2 (by decide)

theorem text_ne_nil {host : Host} (h : host.IsServer) : host.text.toList ≠ [] := by
  cases h with
  | domain hne _ _ => rwa [Host.text, String.toList_ofList]
  | @address4 n _ =>
    intro hnil
    have hnumber := endsInNumber_address4Text n
    rw [show (address4Text n).toList = [] from hnil] at hnumber
    cases hnumber
  | address6 _ =>
    rw [toList_text_address6]
    exact List.cons_ne_nil _ _

/-! ## The end of a host -/

theorem splitHost_append {bracketed : Bool} {s : List Char} (rest : List Char)
    (h : ∀ c ∈ s, (c = ':' → bracketed = true) ∧ c ≠ '[' ∧ c ≠ ']') :
    splitHost bracketed (s ++ rest) =
      (s ++ (splitHost bracketed rest).1, (splitHost bracketed rest).2) := by
  induction s with
  | nil => rfl
  | cons c s ih =>
    obtain ⟨hcolon, hopen, hclose⟩ := h c List.mem_cons_self
    have hc : ¬ (decide (c = ':') && !bracketed) = true := by
      simp only [Bool.and_eq_true, decide_eq_true_eq, Bool.not_eq_true', not_and,
        Bool.not_eq_false]
      exact hcolon
    rw [List.cons_append, splitHost, if_neg hc]
    simp only [if_neg hopen, if_neg hclose, ih fun d hd => h d (List.mem_cons_of_mem c hd)]
    rfl

/-- **A server's text is cut off where it ends.** -/
theorem splitHost_text {host : Host} (h : host.IsServer) {rest : List Char}
    (hrest : rest = [] ∨ rest.head? = some ':') :
    splitHost false (host.text.toList ++ rest) = (host.text.toList, rest) := by
  have hend : splitHost false rest = ([], rest) := by
    rcases hrest with rfl | hrest
    · rfl
    · obtain ⟨rest, rfl⟩ := List.head?_eq_some_iff.1 hrest
      rfl
  have hplain {s : List Char} (hs : ∀ c ∈ s, Domain.IsNameChar c) :
      splitHost false (s ++ rest) = (s, rest) := by
    rw [splitHost_append, hend, List.append_nil]
    intro c hc
    have hallowed := (hs c hc).allowed
    refine ⟨?_, ?_, ?_⟩ <;> (rintro rfl; exact absurd hallowed (by decide))
  cases h with
  | domain _ hchars _ =>
    rw [Host.text, String.toList_ofList]
    exact hplain hchars
  | @address4 n _ => exact hplain (isNameChar_address4Text n)
  | @address6 ps _ =>
    have hinner : ∀ c ∈ (address6Text ps).toList, (c = ':' → true = true) ∧ c ≠ '[' ∧ c ≠ ']' :=
      forall_mem_address6Text (by decide) (by decide) ps
    have hclosed : splitHost true (']' :: rest) = ([']'], rest) := by
      rw [splitHost]
      simp [hend]
    rw [toList_text_address6, List.cons_append, List.append_assoc, List.singleton_append,
      splitHost]
    simp [splitHost_append _ hinner, hclosed]

end ServiceAdmin.Url
