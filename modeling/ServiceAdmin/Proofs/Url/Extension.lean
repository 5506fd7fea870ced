import ServiceAdmin.Proofs.Text.Runs
import ServiceAdmin.Proofs.Url.Path

/-!
# Longer paths

What is put behind the text of a URL that ends in a slash goes behind the segments of its path, and
no other part of the URL changes (`parse_append`).
-/

namespace ServiceAdmin.Url

open Text (dropWhile_of_head dropWhile_of_forall dropWhile_ne_nil dropWhile_append
  takeWhile_of_forall takeWhile_append drop_length_takeWhile)

/-- A text that may stand in a path, whatever that means for its segments. -/
def IsPathText (s : List Char) : Prop := ∀ c ∈ s, isEdge c = false ∧ c ≠ '?' ∧ c ≠ '#'

/-- The text ends in a slash. -/
def EndsInSlash (s : List Char) : Prop := s.getLast? = some '/'

namespace EndsInSlash

variable {s : List Char} {q : Char → Bool}

theorem all (hq : q '/' = false) (h : EndsInSlash s) : s.all q = false := by
  obtain ⟨front, rfl⟩ := List.getLast?_eq_some_iff.1 h
  rw [List.all_append, List.all_cons, hq, Bool.false_and, Bool.and_false]

/-- What stands at the end of such a text ends in a slash too. -/
theorem suffix {t : List Char} (h : EndsInSlash (s ++ t)) (ht : t ≠ []) : EndsInSlash t := by
  rw [EndsInSlash, List.getLast?_append] at h
  cases hlast : t.getLast? with
  | none => exact absurd (List.getLast?_eq_none_iff.1 hlast) ht
  | some c => rwa [hlast, Option.some_or, ← hlast] at h

theorem dropWhile (hq : s.all q = false) (h : EndsInSlash s) : EndsInSlash (s.dropWhile q) := by
  refine suffix (s := s.takeWhile q) ?_ (dropWhile_ne_nil hq)
  rwa [List.takeWhile_append_dropWhile]

end EndsInSlash

/-! ## The text that is read -/

theorem isDropped_of_not_isEdge {c : Char} (h : isEdge c = false) : isDropped c = false := by
  refine Bool.eq_false_iff.2 fun hdropped => ?_
  simp only [isDropped, Bool.or_eq_true, decide_eq_true_eq] at hdropped
  rcases hdropped with (rfl | rfl) | rfl <;> cases h

theorem cleaned_append {s t : List Char} (hs : EndsInSlash s) (ht : IsPathText t) :
    cleaned (s ++ t) = cleaned s ++ t := by
  have hedge : isEdge '/' = false := rfl
  have hend (t : List Char) (ht : IsPathText t) : ∀ c ∈ (s.dropWhile isEdge ++ t).reverse.head?,
      isEdge c = false := by
    intro c hc
    rw [List.head?_reverse, List.getLast?_append, hs.dropWhile (hs.all hedge)] at hc
    cases hlast : t.getLast? with
    | none =>
      rw [hlast] at hc
      cases hc
      exact hedge
    | some d =>
      rw [hlast] at hc
      cases hc
      exact (ht c (List.mem_of_getLast? hlast)).1
  have htrimmed (t : List Char) (ht : IsPathText t) :
      cleaned (s ++ t) = (s.dropWhile isEdge ++ t).filter (!isDropped ·) := by
    rw [cleaned, dropWhile_append (hs.all hedge), dropWhile_of_head (hend t ht),
      List.reverse_reverse]
  have hkept : t.filter (!isDropped ·) = t :=
    List.filter_eq_self.2 fun c hc => by simp [isDropped_of_not_isEdge (ht c hc).1]
  have hbase := htrimmed [] fun _ h => nomatch h
  rw [List.append_nil, List.append_nil] at hbase
  rw [htrimmed t ht, hbase, List.filter_append, hkept]

theorem endsInSlash_cleaned {s : List Char} (hs : EndsInSlash s) : EndsInSlash (cleaned s) := by
  have hfront := hs.dropWhile (q := isEdge) (hs.all rfl)
  obtain ⟨front, hsplit⟩ := List.getLast?_eq_some_iff.1 hfront
  have hhead : ∀ c ∈ (s.dropWhile isEdge).reverse.head?, isEdge c = false := by
    intro c hc
    rw [List.head?_reverse, hfront] at hc
    cases hc
    rfl
  rw [cleaned, dropWhile_of_head hhead, List.reverse_reverse, hsplit, List.filter_append]
  exact List.getLast?_eq_some_iff.2 ⟨_, rfl⟩

theorem scheme?_eq_some {s name rest : List Char} (h : scheme? s = some (name, rest)) :
    (∃ c ∈ s.head?, c.isAlpha = true) ∧ s.dropWhile isSchemeChar = ':' :: rest ∧
      name = (s.takeWhile isSchemeChar).map Char.toLower := by
  unfold scheme? at h
  split at h
  · cases h
  next c s =>
    by_cases hc : c.isAlpha = true
    · rw [if_pos hc] at h
      split at h
      · next hrest =>
        cases h
        exact ⟨⟨c, rfl, hc⟩, hrest, rfl⟩
      · cases h
    · rw [if_neg hc] at h
      cases h

theorem scheme?_append {s name rest : List Char} (h : scheme? s = some (name, rest))
    (t : List Char) : scheme? (s ++ t) = some (name, rest ++ t) := by
  obtain ⟨⟨c, hhead, hc⟩, hrest, rfl⟩ := scheme?_eq_some h
  obtain ⟨s, rfl⟩ := List.head?_eq_some_iff.1 hhead
  have hall : (c :: s).all isSchemeChar = false := by
    refine Bool.eq_false_iff.2 fun hall => ?_
    rw [dropWhile_of_forall (List.all_eq_true.1 hall)] at hrest
    cases hrest
  have hrest' : (c :: s ++ t).dropWhile isSchemeChar = ':' :: rest ++ t := by
    rw [dropWhile_append hall, hrest]
  rw [List.cons_append, scheme?, if_pos hc, ← List.cons_append, hrest', takeWhile_append hall]
  rfl

/-! ## Authority and path -/

theorem portFrom_append {port n : Nat} {s rest : List Char} (hs : EndsInSlash s)
    (h : portFrom port s = .ok (n, rest)) (t : List Char) :
    EndsInSlash rest ∧ portFrom port (s ++ t) = .ok (n, rest ++ t) := by
  induction s generalizing port with
  | nil => cases hs
  | cons c s ih =>
    rw [List.cons_append, portFrom]
    rw [portFrom] at h
    split at h
    · next hc =>
      have hne : s ≠ [] := by
        rintro rfl
        cases hs
        cases hc
      rw [if_pos hc]
      dsimp only at h ⊢
      split at h
      · cases h
      · next hport =>
        rw [if_neg hport]
        exact ih (hs.suffix (s := [c]) hne) h
    · next hc =>
      rw [if_neg hc]
      split at h
      · next hend =>
        cases h
        rw [if_pos hend]
        exact ⟨hs, rfl⟩
      · cases h

theorem readPort_append {scheme : String} {port : Option Nat} {s rest : List Char}
    (hs : EndsInSlash s) (h : readPort scheme s = .ok (port, rest)) (t : List Char) :
    EndsInSlash rest ∧ readPort scheme (s ++ t) = .ok (port, rest ++ t) := by
  unfold readPort at h ⊢
  cases hport : portFrom 0 s with
  | error fault =>
    rw [hport] at h
    cases h
  | ok found =>
    obtain ⟨n, r⟩ := found
    obtain ⟨hr, happend⟩ := portFrom_append hs hport t
    rw [hport] at h
    rw [happend]
    simp only [bind, Except.bind, List.length_append, Nat.add_right_cancel_iff] at h ⊢
    split at h
    · next hdefault =>
      cases h
      rw [if_pos hdefault]
      exact ⟨hr, rfl⟩
    · next hdefault =>
      cases h
      rw [if_neg hdefault]
      exact ⟨hr, rfl⟩

theorem splitTail_of_forall {wellKnown : Bool} {s : List Char} (h : ∀ c ∈ s, c ≠ '?' ∧ c ≠ '#') :
    splitTail wellKnown s = (s, none, none) := by
  have hall : ∀ c ∈ s, (c ≠ '?' && c ≠ '#') = true := fun c hc => by simp [h c hc]
  unfold splitTail
  dsimp only
  rw [takeWhile_of_forall hall, List.drop_length]

/-- A text without query and fragment has neither a question mark nor a number sign. -/
theorem forall_of_splitTail {wellKnown : Bool} {s path : List Char}
    (h : splitTail wellKnown s = (path, none, none)) : ∀ c ∈ s, c ≠ '?' ∧ c ≠ '#' := by
  have hsplit := List.takeWhile_append_dropWhile (p := fun c => c ≠ '?' && c ≠ '#') (l := s)
  have hdrop := drop_length_takeWhile (fun c => c ≠ '?' && c ≠ '#') s
  have hhead := List.head?_dropWhile_not (fun c => c ≠ '?' && c ≠ '#') s
  cases hrest : s.dropWhile fun c => c ≠ '?' && c ≠ '#' with
  | nil =>
    rw [hrest, List.append_nil] at hsplit
    intro c hc
    rw [← hsplit] at hc
    have hall := List.all_eq_true.1 List.all_takeWhile c hc
    simpa using hall
  | cons c rest =>
    rw [hrest] at hhead hdrop
    have hc : c = '?' ∨ c = '#' := by
      rcases Bool.and_eq_false_iff.1 hhead with h | h
      · exact .inl (Decidable.of_not_not (of_decide_eq_false h))
      · exact .inr (Decidable.of_not_not (of_decide_eq_false h))
    unfold splitTail at h
    dsimp only at h
    rw [hdrop] at h
    rcases hc with rfl | rfl <;> cases h

/-- The segments of a path behind a slash. -/
theorem hierarchicalPath_append {s : List Char} (hs : EndsInSlash s) :
    ∃ done : List (List Char), hierarchicalPath true s = pathOf (done.reverse ++ [[]]) ∧
      ∀ t, hierarchicalPath true (s ++ t) =
        pathOf (resolveDots false done (splitPath true t)) := by
  have hsplit (s : List Char) (hs : s = [] ∨ EndsInSlash s) :
      ∃ names, ∀ t, splitPath true (s ++ t) = names ++ splitPath true t := by
    rcases hs with rfl | hs
    · exact ⟨[], fun t => rfl⟩
    · obtain ⟨front, rfl⟩ := List.getLast?_eq_some_iff.1 hs
      refine ⟨splitPath true front, fun t => ?_⟩
      rw [List.append_assoc, List.singleton_append, splitPath_append_slash]
  cases s with
  | nil => cases hs
  | cons c s =>
    let behind := if isSlash true c then s else c :: s
    have hpath (t : List Char) : hierarchicalPath true (c :: s ++ t) =
        pathOf (resolveDots false [] (splitPath true (behind ++ t))) := by
      rw [List.cons_append, hierarchicalPath]
      dsimp only [behind]
      split <;> rfl
    have hbehind : behind = [] ∨ EndsInSlash behind := by
      dsimp only [behind]
      split
      · refine (Decidable.em (s = [])).imp_right fun hne => ?_
        exact EndsInSlash.suffix (s := [c]) hs hne
      · exact .inr hs
    obtain ⟨names, hnames⟩ := hsplit behind hbehind
    have hresolved (t : List Char) : hierarchicalPath true (c :: s ++ t) =
        pathOf (resolveDots false (settled false [] names) (splitPath true t)) := by
      rw [hpath, hnames, resolveDots_append (splitPath_ne_nil true t)]
    refine ⟨settled false [] names, ?_, hresolved⟩
    have hend := hresolved []
    have hlast : resolveDots false (settled false [] names) [[]] =
        (settled false [] names).reverse ++ [[]] :=
      resolveDots_of_plain _ (by simp [IsPlain, percentEncode, dots]) (by simp [IsDots])
    rwa [List.append_nil, splitPath, hlast] at hend

theorem wellKnownHost_ne_empty {s : List Char} {host : Host} (h : wellKnownHost s = .ok host) :
    host ≠ .empty := by
  rintro rfl
  unfold wellKnownHost at h
  split at h
  · unfold bracketedHost at h
    split at h
    · split at h <;> cases h
    · cases h
  · split at h
    · cases h
    · cases h
    · split at h
      · split at h <;> cases h
      · cases h

/-- The port behind a host, and what follows it. -/
def portBehind (scheme : String) (tail : List Char) : List Char →
    Except Fault (Option Nat × List Char)
  | _ :: digits => readPort scheme (digits ++ tail)
  | [] => .ok (none, tail)

theorem portBehind_append {scheme : String} {port : Option Nat} {tail behind rest : List Char}
    (htail : EndsInSlash tail) (h : portBehind scheme tail behind = .ok (port, rest))
    (t : List Char) :
    EndsInSlash rest ∧ portBehind scheme (tail ++ t) behind = .ok (port, rest ++ t) := by
  cases behind with
  | nil =>
    cases h
    exact ⟨htail, rfl⟩
  | cons c digits =>
    have hdigits : EndsInSlash (digits ++ tail) := by
      rw [EndsInSlash, List.getLast?_append, htail]
      rfl
    have hread := readPort_append hdigits h t
    rwa [List.append_assoc] at hread

/-- The parts that a text with a well-known scheme is read into. -/
theorem parseAuthority_eq {scheme : String} (hscheme : isWellKnown scheme = true) (s : List Char) :
    parseAuthority scheme s =
      let front := s.takeWhile (!endsAuthority true ·)
      let tail := s.drop front.length
      let (info, hostAndPort) := splitUserinfo front
      if info = some [] && hostAndPort.isEmpty && !tail.isEmpty then .error .emptyHost
      else
        let (hostText, behind) := splitHost false hostAndPort
        if hostText.isEmpty then .error .emptyHost
        else (wellKnownHost hostText).bind fun host =>
          (portBehind scheme tail behind).bind fun (port, rest) =>
            let (user, password) := userinfo (info.getD [])
            let (path, query, fragment) := splitTail true rest
            .ok ⟨scheme, user, password, some host, port, hierarchicalPath true path, query,
              fragment⟩ := by
  unfold parseAuthority
  rw [hscheme]
  -- With the readers of the parts kept closed, the two sides are compared branch by branch.
  have hnamed := @wellKnownHost_ne_empty
  generalize splitUserinfo = splitUserinfo, userinfo = userinfo, splitHost = splitHost,
    splitTail = splitTail, wellKnownHost = wellKnownHost at hnamed ⊢
  refine ite_congr rfl (fun _ => rfl) fun _ => ?_
  refine ite_congr (congrArg (· = true) (Bool.and_true _)) (fun _ => rfl) fun _ => ?_
  refine (if_pos rfl).trans ?_
  generalize splitUserinfo (s.takeWhile (!endsAuthority true ·)) = userinfoAndHost
  generalize splitHost false userinfoAndHost.2 = hostAndBehind
  cases hhost : wellKnownHost hostAndBehind.1 with
  | error fault => rfl
  | ok host =>
    have hne (b : Bool) : ¬ (decide (host = .empty) && b) = true := by simp [hnamed hhost]
    refine (if_neg (hne _)).trans ?_
    generalize hostAndBehind.2 = behind
    cases behind with
    | nil => exact if_neg (hne _)
    | cons c digits =>
      refine bind_congr fun found => ?_
      exact if_neg (hne _)

/-- What stands behind the text of a URL goes into its path. -/
theorem parseAuthority_append {scheme : String} (hscheme : isWellKnown scheme = true)
    {s t : List Char} {url : Url} (hs : EndsInSlash s) (h : parseAuthority scheme s = .ok url)
    (hquery : url.query = none) (hfragment : url.fragment = none) (ht : IsPathText t) :
    url.hostText? ≠ none ∧ ∃ r, EndsInSlash r ∧ url.path = hierarchicalPath true r ∧
      parseAuthority scheme (s ++ t) =
        .ok { url with path := hierarchicalPath true (r ++ t) } := by
  have hall : s.all (!endsAuthority true ·) = false := hs.all rfl
  have htail : EndsInSlash (s.drop (s.takeWhile (!endsAuthority true ·)).length) := by
    rw [drop_length_takeWhile]
    exact hs.dropWhile hall
  have hdrop : (s ++ t).drop (s.takeWhile (!endsAuthority true ·)).length =
      s.drop (s.takeWhile (!endsAuthority true ·)).length ++ t :=
    List.drop_append_of_le_length (List.takeWhile_prefix _).length_le
  rw [parseAuthority_eq hscheme] at h ⊢
  dsimp only at h ⊢
  rw [takeWhile_append hall, hdrop]
  generalize s.drop (s.takeWhile (!endsAuthority true ·)).length = tail at h htail ⊢
  generalize splitUserinfo (s.takeWhile (!endsAuthority true ·)) = userinfoAndHost at h ⊢
  generalize splitHost false userinfoAndHost.2 = hostAndBehind at h ⊢
  have hempty : (tail ++ t).isEmpty = tail.isEmpty := by
    cases tail with
    | nil => cases htail
    | cons c tail => rfl
  rw [hempty]
  split at h
  · cases h
  next hinfo =>
  split at h
  · cases h
  next hhostText =>
  rw [if_neg hinfo, if_neg hhostText]
  cases hhost : wellKnownHost hostAndBehind.1 with
  | error fault =>
    rw [hhost] at h
    cases h
  | ok host =>
    rw [hhost] at h
    cases hport : portBehind scheme tail hostAndBehind.2 with
    | error fault =>
      simp only [Except.bind, hport] at h
      cases h
    | ok found =>
      obtain ⟨port, rest⟩ := found
      obtain ⟨hrest, hport'⟩ := portBehind_append htail hport t
      simp only [Except.bind, hport] at h
      cases h
      have hsplit : splitTail true rest = ((splitTail true rest).1, none, none) :=
        Prod.ext rfl (Prod.ext hquery hfragment)
      have hchars := forall_of_splitTail hsplit
      have hchars' : ∀ c ∈ rest ++ t, c ≠ '?' ∧ c ≠ '#' := fun c hc =>
        (List.mem_append.1 hc).elim (hchars c) fun hc => (ht c hc).2
      refine ⟨?_, rest, hrest, ?_, ?_⟩
      · have hne := wellKnownHost_ne_empty hhost
        cases host with
        | empty => exact absurd rfl hne
        | _ => exact Option.some_ne_none _
      · rw [splitTail_of_forall hchars]
      · simp only [Except.bind, hport', splitTail_of_forall hchars', splitTail_of_forall hchars]

/-! ## The scheme -/

section Guards

variable {ε α β : Type} {c : Prop} [Decidable c] {a : α}

theorem of_guard_eq_ok {e : ε} {k : β → Except ε α} {x : Except ε α}
    (h : (if c then Except.error e >>= k else x) = .ok a) : x = .ok a := by
  split at h
  · cases h
  · exact h

theorem of_bind_eq_ok {x : Except ε β} {k : β → Except ε α} (h : x >>= k = .ok a) :
    ∃ b, x = .ok b ∧ k b = .ok a := by
  cases x with
  | error e => cases h
  | ok b => exact ⟨b, rfl, h⟩

theorem of_ite_bind_eq_ok {x y : Except ε β} {k : β → Except ε α}
    (h : (if c then x >>= k else y >>= k) = .ok a) : ∃ b, k b = .ok a := by
  split at h
  all_goals
    obtain ⟨b, -, h⟩ := of_bind_eq_ok h
    exact ⟨b, h⟩

end Guards

theorem parts_of_parseAuthority {scheme : String} {s : List Char} {url : Url}
    (h : parseAuthority scheme s = .ok url) :
    url.scheme = scheme ∧ ∃ path, url.path = hierarchicalPath (isWellKnown scheme) path := by
  unfold parseAuthority at h
  generalize splitUserinfo = splitUserinfo, userinfo = userinfo, splitHost = splitHost,
    splitTail = splitTail at h
  replace h := of_guard_eq_ok (of_guard_eq_ok h)
  obtain ⟨host, h⟩ := of_ite_bind_eq_ok h
  replace h := of_guard_eq_ok h
  dsimp only at h
  split at h
  all_goals
    obtain ⟨found, -, h⟩ := of_bind_eq_ok h
    replace h := of_guard_eq_ok h
    cases h
    exact ⟨rfl, _, rfl⟩

theorem scheme_of_parseFile {s : List Char} {url : Url} (h : parseFile s = .ok url) :
    url.scheme = "file" := by
  unfold parseFile at h
  dsimp only at h
  split at h
  · split at h
    · cases h
      rfl
    split at h
    · cases h
      rfl
    · obtain ⟨host, -, h⟩ := of_bind_eq_ok h
      split at h <;> (cases h; rfl)
  · cases h
    rfl
  · cases h
    rfl

theorem scheme_of_parseOther {scheme : String} {s : List Char} {url : Url}
    (h : parseOther scheme s = .ok url) : url.scheme = scheme := by
  unfold parseOther at h
  split at h
  · exact (parts_of_parseAuthority h).1
  · cases h
    rfl
  · cases h
    rfl

/-! ## URLs -/

theorem parse_eq_parseAuthority {s : String} {scheme : String} {rest : List Char}
    (hname : scheme? (cleaned s.toList) = some (scheme.toList, rest))
    (hknown : isWellKnown scheme = true) (hfile : scheme ≠ "file") :
    parse s = parseAuthority scheme (rest.dropWhile (isSlash true)) := by
  rw [parse, hname]
  dsimp only
  rw [String.ofList_toList, if_neg hfile, if_pos hknown]

theorem scheme_of_parse {s : String} {url : Url} (h : parse s = .ok url) :
    ∃ rest, scheme? (cleaned s.toList) = some (url.scheme.toList, rest) := by
  unfold parse at h
  split at h
  · cases h
  · next name rest hname =>
    have hscheme : url.scheme = String.ofList name := by
      dsimp only at h
      split at h
      · next hfile => exact (scheme_of_parseFile h).trans hfile.symm
      split at h
      · exact (parts_of_parseAuthority h).1
      · exact scheme_of_parseOther h
    exact ⟨rest, by rw [hname, hscheme, String.toList_ofList]⟩

theorem parse_append {base t : String} {url : Url} (hbase : EndsInSlash base.toList)
    (h : parse base = .ok url) (hscheme : url.scheme = "http" ∨ url.scheme = "https")
    (hquery : url.query = none) (hfragment : url.fragment = none) (ht : IsPathText t.toList) :
    url.hostText? ≠ none ∧ ∃ done : List (List Char), url.path = pathOf (done.reverse ++ [[]]) ∧
      parse (base ++ t) =
        .ok { url with path := pathOf (resolveDots false done (splitPath true t.toList)) } := by
  have hknown : isWellKnown url.scheme = true := by
    rcases hscheme with hscheme | hscheme <;> exact hscheme ▸ rfl
  have hfile : url.scheme ≠ "file" := by
    rcases hscheme with hscheme | hscheme <;> exact hscheme ▸ by decide
  obtain ⟨rest, hname⟩ := scheme_of_parse h
  have hname' :
      scheme? (cleaned (base ++ t).toList) = some (url.scheme.toList, rest ++ t.toList) := by
    rw [String.toList_append, cleaned_append hbase ht, scheme?_append hname]
  rw [parse_eq_parseAuthority hname hknown hfile] at h
  have hrest : EndsInSlash rest := by
    obtain ⟨-, hdrop, -⟩ := scheme?_eq_some hname
    have hclean := endsInSlash_cleaned hbase
    have hcolon := hclean.dropWhile (q := isSchemeChar) (hclean.all rfl)
    rw [hdrop] at hcolon
    refine EndsInSlash.suffix (s := [':']) hcolon ?_
    rintro rfl
    cases hcolon
  have hbehind : rest.all (isSlash true) = false := by
    refine Bool.eq_false_iff.2 fun hall => ?_
    rw [dropWhile_of_forall (List.all_eq_true.1 hall), parseAuthority_eq hknown] at h
    cases h
  rw [parse_eq_parseAuthority hname' hknown hfile, dropWhile_append hbehind]
  obtain ⟨hhost, r, hr, hpath, happend⟩ :=
    parseAuthority_append hknown (hrest.dropWhile hbehind) h hquery hfragment ht
  obtain ⟨done, hdone, hnames⟩ := hierarchicalPath_append hr
  exact ⟨hhost, done, hpath.trans hdone, by rw [happend, hnames]⟩

end ServiceAdmin.Url
