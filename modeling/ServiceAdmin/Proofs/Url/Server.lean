import ServiceAdmin.Proofs.Url.Extension
import ServiceAdmin.Proofs.Url.Host
import ServiceAdmin.Proofs.Url.Segment
import ServiceAdmin.Url.Origin

/-!
# URLs of servers

A URL with the origin of a server has a host that is a server, a port that is not the default one,
and a path of segments (`isServerUrl_of_parse`).  The text of a path behind its origin is read as
that path on the same server (`parse_origin_append`).
-/

namespace ServiceAdmin.Url

open Text (dropWhile_of_head dropWhile_of_forall)

/-- A URL with the origin of a server. -/
structure IsServerUrl (url : Url) : Prop where
  scheme : hasTupleOrigin url.scheme = true
  host : ∃ host, url.host = some host ∧ host.IsServer
  port : ∀ n, url.port = some n → n ≤ 65535 ∧ defaultPort? url.scheme ≠ some n
  path : ∃ names, url.path = pathOf names ∧ names ≠ [] ∧ ∀ name ∈ names, IsSegment name

/-- A path on the server of a URL. -/
def atPath (url : Url) (names : List (List Char)) : Url :=
  ⟨url.scheme, "", none, url.host, url.port, pathOf names, none, none⟩

/-! ## The schemes of servers -/

theorem mem_of_hasTupleOrigin {scheme : String} (h : hasTupleOrigin scheme = true) :
    scheme ∈ ["http", "https", "ws", "wss", "ftp"] := List.contains_iff_mem.1 h

theorem scheme_facts {scheme : String} (h : hasTupleOrigin scheme = true) :
    isWellKnown scheme = true ∧ scheme ≠ "file" ∧
      scheme? (scheme.toList ++ [':']) = some (scheme.toList, []) ∧
      ∀ c ∈ scheme.toList ++ [':'], isEdge c = false := by
  have hall : ∀ scheme ∈ ["http", "https", "ws", "wss", "ftp"], isWellKnown scheme = true ∧
      scheme ≠ "file" ∧ scheme? (scheme.toList ++ [':']) = some (scheme.toList, []) ∧
      ∀ c ∈ scheme.toList ++ [':'], isEdge c = false := by decide
  exact hall scheme (mem_of_hasTupleOrigin h)

theorem origin_of_hasTupleOrigin {url : Url} (h : hasTupleOrigin url.scheme = true) :
    url.origin = url.scheme ++ "://" ++ (url.host.getD .empty).text ++ portText url.port := by
  rw [origin, originWithin.eq_def]
  exact if_pos h

/-! ## Ports -/

/-- Nothing or a path stands behind the host and the port. -/
def IsTail (tail : List Char) : Prop := tail = [] ∨ ∃ path, tail = '/' :: path

/-- The digits of a port are read up to the path. -/
theorem portFrom_digits {port : Nat} {digits : List Char}
    (hdigits : ∀ c ∈ digits, c.isDigit = true) (hle : Nat.ofDigitChars 10 digits port ≤ 65535)
    {tail : List Char} (htail : IsTail tail) :
    portFrom port (digits ++ tail) = .ok (Nat.ofDigitChars 10 digits port, tail) := by
  induction digits generalizing port with
  | nil =>
    rw [List.nil_append, Nat.ofDigitChars_nil]
    rcases htail with rfl | ⟨path, rfl⟩ <;> rfl
  | cons c digits ih =>
    rw [Nat.ofDigitChars_cons, Nat.mul_comm] at hle ⊢
    have hsmall : port * 10 + (c.toNat - '0'.toNat) ≤ 65535 := by
      rw [Nat.ofDigitChars_eq_ofDigitChars_zero] at hle
      have hpos : 0 < 10 ^ digits.length := Nat.pow_pos (by decide)
      have hmul := Nat.le_mul_of_pos_left (port * 10 + (c.toNat - '0'.toNat)) hpos
      omega
    rw [List.cons_append, portFrom, if_pos (hdigits c List.mem_cons_self)]
    dsimp only
    rw [if_neg (Nat.not_lt.2 hsmall)]
    exact ih (fun d hd => hdigits d (List.mem_cons_of_mem c hd)) hle

theorem le_of_portFrom {port n : Nat} {s rest : List Char} (hport : port ≤ 65535)
    (h : portFrom port s = .ok (n, rest)) : n ≤ 65535 := by
  induction s generalizing port with
  | nil =>
    cases h
    exact hport
  | cons c s ih =>
    rw [portFrom] at h
    split at h
    · dsimp only at h
      split at h
      · cases h
      · next hsmall => exact ih (Nat.not_lt.1 hsmall) h
    · split at h
      · cases h
        exact hport
      · cases h

theorem port_facts {scheme : String} {tail behind rest : List Char} {port : Option Nat}
    (h : portBehind scheme tail behind = .ok (port, rest)) :
    ∀ n, port = some n → n ≤ 65535 ∧ defaultPort? scheme ≠ some n := by
  rintro n rfl
  cases behind with
  | nil => cases h
  | cons c digits =>
    rw [portBehind, readPort] at h
    cases hport : portFrom 0 (digits ++ tail) with
    | error fault =>
      rw [hport] at h
      cases h
    | ok found =>
      rw [hport] at h
      simp only [bind, Except.bind] at h
      split at h
      · cases h
      · next hdefault =>
        cases h
        simp only [Bool.or_eq_true, decide_eq_true_eq, not_or] at hdefault
        exact ⟨le_of_portFrom (Nat.zero_le _) hport, hdefault.2⟩

/-- What stands between a host and the path. -/
def portChars : Option Nat → List Char
  | none => []
  | some n => ':' :: Nat.toDigits 10 n

theorem toList_portText (port : Option Nat) : (portText port).toList = portChars port := by
  cases port with
  | none => rfl
  | some n =>
    rw [portText, String.toList_append, portChars]
    exact congrArg (':' :: ·) Nat.toList_repr

theorem portBehind_portChars {scheme : String} {port : Option Nat}
    (h : ∀ n, port = some n → n ≤ 65535 ∧ defaultPort? scheme ≠ some n) {tail : List Char}
    (htail : IsTail tail) : portBehind scheme tail (portChars port) = .ok (port, tail) := by
  cases port with
  | none => rfl
  | some n =>
    obtain ⟨hle, hdefault⟩ := h n rfl
    have hvalue := Nat.ofDigitChars_toDigits (b := 10) (n := n) (by decide) (by decide)
    have hread := portFrom_digits (isDigit_of_mem_toDigits n) (hvalue.trans_le hle) htail
    have hlength : ¬ tail.length = (Nat.toDigits 10 n ++ tail).length := by
      have hpos : 0 < (Nat.toDigits 10 n).length := Nat.length_toDigits_pos
      rw [List.length_append]
      omega
    rw [portChars, portBehind, readPort, hread, hvalue]
    simp only [bind, Except.bind]
    rw [if_neg]
    simp only [Bool.or_eq_true, decide_eq_true_eq, not_or]
    exact ⟨hlength, hdefault⟩

/-! ## URLs that were read -/

/-- Host, port and path of a URL with the origin of a server are read of parts of its text. -/
theorem parts_of_parse {s : String} {url : Url} (h : parse s = .ok url)
    (hscheme : hasTupleOrigin url.scheme = true) :
    (∃ t host, url.host = some host ∧ wellKnownHost t = .ok host) ∧
      (∃ tail behind rest, portBehind url.scheme tail behind = .ok (url.port, rest)) ∧
      ∃ t, url.path = hierarchicalPath true t := by
  obtain ⟨hknown, hfile, -, -⟩ := scheme_facts hscheme
  obtain ⟨rest, hname⟩ := scheme_of_parse h
  rw [parse_eq_parseAuthority hname hknown hfile, parseAuthority_eq hknown] at h
  dsimp only at h
  split at h
  · cases h
  split at h
  · cases h
  obtain ⟨host, hhost, h⟩ := of_bind_eq_ok h
  obtain ⟨⟨port, rest⟩, hport, h⟩ := of_bind_eq_ok h
  rw [← Except.ok.inj h]
  exact ⟨⟨_, host, rfl, hhost⟩, ⟨_, _, rest, hport⟩, _, rfl⟩

/-- **A URL with the origin of a server has a host, a port and a path of segments.** -/
theorem isServerUrl_of_parse {s : String} {url : Url} (h : parse s = .ok url)
    (hscheme : hasTupleOrigin url.scheme = true) : IsServerUrl url := by
  obtain ⟨⟨t, host, hhost, hread⟩, ⟨tail, behind, rest, hport⟩, ⟨path, hpath⟩⟩ :=
    parts_of_parse h hscheme
  exact {
    scheme := hscheme
    host := ⟨host, hhost, isServer_of_wellKnownHost hread⟩
    port := port_facts hport
    path := hpath ▸ exists_hierarchicalPath path }

/-! ## URLs that are read again -/

theorem dropWhile_isEdge_of_forall {s : List Char} (h : ∀ c ∈ s, isEdge c = false) :
    s.dropWhile isEdge = s :=
  dropWhile_of_head fun c hc => h c (List.mem_of_mem_head? hc)

theorem filter_isDropped_of_forall {s : List Char} (h : ∀ c ∈ s, isEdge c = false) :
    s.filter (!isDropped ·) = s :=
  List.filter_eq_self.2 fun c hc => by simp [isDropped_of_not_isEdge (h c hc)]

theorem cleaned_of_forall {s : List Char} (h : ∀ c ∈ s, isEdge c = false) : cleaned s = s := by
  have hback := dropWhile_isEdge_of_forall fun c hc => h c (List.mem_reverse.1 hc)
  rw [cleaned, dropWhile_isEdge_of_forall h, hback, List.reverse_reverse,
    filter_isDropped_of_forall h]

theorem splitUserinfo_of_notMem {s : List Char} (h : '@' ∉ s) : splitUserinfo s = (none, s) := by
  have hnone : s.reverse.dropWhile (· ≠ '@') = [] := by
    refine dropWhile_of_forall fun c hc => decide_eq_true ?_
    rintro rfl
    exact h (List.mem_reverse.1 hc)
  rw [splitUserinfo, hnone]

theorem isInner_portChars (port : Option Nat) : ∀ c ∈ portChars port, IsInner c := by
  cases port with
  | none => exact fun _ h => nomatch h
  | some n =>
    exact List.forall_mem_cons.2 ⟨by decide, forall_mem_toDigits (by decide) (by decide) n⟩

/-- **Host, port and path are read as they were written.** -/
theorem parseAuthority_server {scheme : String} (hscheme : hasTupleOrigin scheme = true)
    {host : Host} (hserver : host.IsServer) (hstable : host.IsStable) {port : Option Nat}
    (hport : ∀ n, port = some n → n ≤ 65535 ∧ defaultPort? scheme ≠ some n)
    {tail : List Char} (htail : IsTail tail) (hpath : ∀ c ∈ tail, c ≠ '?' ∧ c ≠ '#') :
    parseAuthority scheme (host.text.toList ++ portChars port ++ tail) =
      .ok ⟨scheme, "", none, some host, port, hierarchicalPath true tail, none, none⟩ := by
  have hinner : ∀ c ∈ host.text.toList ++ portChars port, IsInner c :=
    List.forall_mem_append.2 ⟨isInner_text hserver, isInner_portChars port⟩
  -- the authority ends where the path begins, has no credentials, and is cut behind the host
  have hfront : (host.text.toList ++ portChars port ++ tail).takeWhile (!endsAuthority true ·) =
      host.text.toList ++ portChars port := by
    rw [List.takeWhile_append_of_pos fun c hc => by simp [(hinner c hc).ends]]
    rcases htail with rfl | ⟨path, rfl⟩
    · rw [List.takeWhile_nil, List.append_nil]
    · rw [List.takeWhile_cons, if_neg (by decide), List.append_nil]
  have hinfo : splitUserinfo (host.text.toList ++ portChars port) =
      (none, host.text.toList ++ portChars port) :=
    splitUserinfo_of_notMem fun h => (hinner '@' h).ne_at rfl
  have hsplit : splitHost false (host.text.toList ++ portChars port) =
      (host.text.toList, portChars port) := by
    refine splitHost_text hserver ?_
    cases port with
    | none => exact .inl rfl
    | some n => exact .inr rfl
  have hnonempty : host.text.toList.isEmpty = false :=
    List.isEmpty_eq_false_iff.2 (text_ne_nil hserver)
  rw [parseAuthority_eq (scheme_facts hscheme).1]
  simp only [hfront, List.drop_left, hinfo, hsplit, hnonempty, wellKnownHost_text hserver hstable,
    Except.bind, portBehind_portChars hport htail, splitTail_of_forall hpath]
  rfl

/-- The text of a server stands behind the slashes in front of it. -/
theorem dropWhile_slashes {host : Host} (h : host.IsServer) (t : List Char) :
    ('/' :: '/' :: (host.text.toList ++ t)).dropWhile (isSlash true) = host.text.toList ++ t := by
  obtain ⟨c, rest, hcons⟩ := List.exists_cons_of_ne_nil (text_ne_nil h)
  have hends := (isInner_text h c (hcons ▸ List.mem_cons_self)).ends
  have hslash : isSlash true c = false := by
    simp only [endsAuthority, Bool.or_eq_false_iff] at hends
    exact hends.1.1
  rw [hcons]
  show (c :: (rest ++ t)).dropWhile (isSlash true) = _
  rw [List.dropWhile_cons, hslash]
  rfl

theorem isEdge_of_mem_flatMap {names : List (List Char)} (h : ∀ name ∈ names, IsSegment name) :
    ∀ c ∈ names.flatMap ('/' :: ·), isEdge c = false := by
  intro c hc
  obtain ⟨hascii, hallowed⟩ := isPathChar_of_mem_flatMap h c hc
  exact Text.forall_ascii (P := fun c => inPath c = false → isEdge c = false) (by decide)
    (by omega) hallowed

/-- **A server with a port and a path is read as it was written.** -/
theorem parse_server {scheme : String} (hscheme : hasTupleOrigin scheme = true) {host : Host}
    (hserver : host.IsServer) (hstable : host.IsStable) {port : Option Nat}
    (hport : ∀ n, port = some n → n ≤ 65535 ∧ defaultPort? scheme ≠ some n) {tail : String}
    (htail : IsTail tail.toList) (hpath : ∀ c ∈ tail.toList, c ≠ '?' ∧ c ≠ '#')
    (hedges : ∀ c ∈ tail.toList, isEdge c = false) :
    parse (scheme ++ "://" ++ host.text ++ portText port ++ tail) =
      .ok ⟨scheme, "", none, some host, port, hierarchicalPath true tail.toList, none, none⟩ := by
  obtain ⟨hknown, hfile, hname, hedge⟩ := scheme_facts hscheme
  have htext : (scheme ++ "://" ++ host.text ++ portText port ++ tail).toList =
      scheme.toList ++ [':'] ++
        '/' :: '/' :: (host.text.toList ++ (portChars port ++ tail.toList)) := by
    simp [toList_portText]
  have hclean : ∀ c ∈ (scheme ++ "://" ++ host.text ++ portText port ++ tail).toList,
      isEdge c = false := by
    intro c hc
    rw [htext] at hc
    rcases List.mem_append.1 hc with hc | hc
    · exact hedge c hc
    simp only [List.mem_cons, List.mem_append] at hc
    rcases hc with rfl | rfl | hc | hc | hc
    · rfl
    · rfl
    · exact (isInner_text hserver c hc).edge
    · exact (isInner_portChars port c hc).edge
    · exact hedges c hc
  have hread : scheme? (cleaned (scheme ++ "://" ++ host.text ++ portText port ++ tail).toList) =
      some (scheme.toList, '/' :: '/' ::
        (host.text.toList ++ (portChars port ++ tail.toList))) := by
    rw [cleaned_of_forall hclean, htext, scheme?_append hname, List.nil_append]
  rw [parse_eq_parseAuthority hread hknown hfile, dropWhile_slashes hserver, ← List.append_assoc,
    parseAuthority_server hscheme hserver hstable hport htail hpath]

/-- **The text of a path behind the origin of a URL is read as that path on the same server.** -/
theorem parse_origin_append {url : Url} (h : IsServerUrl url)
    (hstable : ∀ host, url.host = some host → host.IsStable) {names : List (List Char)}
    (hne : names ≠ []) (hnames : ∀ name ∈ names, IsSegment name) :
    parse (url.origin ++ (pathOf names).text) = .ok (url.atPath names) := by
  obtain ⟨host, hhost, hserver⟩ := h.host
  have htail : IsTail (pathOf names).text.toList := by
    obtain ⟨name, names, rfl⟩ := List.exists_cons_of_ne_nil hne
    exact .inr ⟨_, toList_text_pathOf _⟩
  have hpath : ∀ c ∈ (pathOf names).text.toList, c ≠ '?' ∧ c ≠ '#' := by
    intro c hc
    rw [toList_text_pathOf] at hc
    have hallowed := (isPathChar_of_mem_flatMap hnames c hc).2
    refine ⟨?_, ?_⟩ <;> (rintro rfl; exact absurd hallowed (by decide))
  have hedges : ∀ c ∈ (pathOf names).text.toList, isEdge c = false := by
    rw [toList_text_pathOf]
    exact isEdge_of_mem_flatMap hnames
  rw [origin_of_hasTupleOrigin h.scheme, hhost, Option.getD_some,
    parse_server h.scheme hserver (hstable host hhost) h.port htail hpath hedges, atPath, hhost,
    toList_text_pathOf, hierarchicalPath_segments hne hnames]

theorem origin_atPath {url : Url} (h : hasTupleOrigin url.scheme = true)
    (names : List (List Char)) : (url.atPath names).origin = url.origin := by
  have horigin : (url.atPath names).origin = _ := origin_of_hasTupleOrigin h
  rw [horigin, origin_of_hasTupleOrigin h]
  rfl

/-! ## Opaque origins -/

/-- An origin is opaque or begins with the scheme of a server. -/
theorem originWithin_cases (depth : Nat) (url : Url) :
    originWithin depth url = "null" ∨ ∃ scheme rest, hasTupleOrigin scheme = true ∧
      originWithin depth url = scheme ++ "://" ++ rest := by
  induction depth generalizing url with
  | zero =>
    rw [originWithin]
    split
    · next h => exact .inr ⟨_, _, h, String.append_assoc⟩
    · exact .inl rfl
  | succ depth ih =>
    rw [originWithin]
    split
    · next h => exact .inr ⟨_, _, h, String.append_assoc⟩
    split
    · split
      · exact ih _
      · exact .inl rfl
    · exact .inl rfl

/-- Nothing is cut off a front without blanks. -/
theorem exists_cleaned_append {s : List Char} (hne : s ≠ []) (h : ∀ c ∈ s, isEdge c = false)
    (t : List Char) : ∃ rest, cleaned (s ++ t) = s ++ rest := by
  have hfront : (s ++ t).dropWhile isEdge = s ++ t := by
    refine dropWhile_of_head fun c hc => ?_
    obtain ⟨d, s, rfl⟩ := List.exists_cons_of_ne_nil hne
    cases hc
    exact h _ List.mem_cons_self
  -- what is cut off at the end ends within `t`
  have hback : ∃ rest, (t.reverse ++ s.reverse).dropWhile isEdge = rest ++ s.reverse := by
    rw [List.dropWhile_append]
    split
    · exact ⟨[], dropWhile_isEdge_of_forall fun c hc => h c (List.mem_reverse.1 hc)⟩
    · exact ⟨_, rfl⟩
  obtain ⟨rest, hrest⟩ := hback
  rw [cleaned, hfront, List.reverse_append, hrest, List.reverse_append, List.reverse_reverse,
    List.filter_append, filter_isDropped_of_forall h]
  exact ⟨_, rfl⟩

/-- **What is read behind an origin has the scheme of a server.** -/
theorem hasTupleOrigin_of_parse_origin_append {url again : Url} {t : String}
    (h : parse (url.origin ++ "/" ++ t) = .ok again) : hasTupleOrigin again.scheme = true := by
  obtain ⟨rest, hname⟩ := scheme_of_parse h
  rcases originWithin_cases url.path.text.length url with horigin | ⟨scheme, host, hscheme, horigin⟩
  · -- a slash, and not a colon, stands behind what could be a scheme
    have htext : (url.origin ++ "/" ++ t).toList = "null/".toList ++ t.toList := by
      rw [origin, horigin, String.toList_append]
      rfl
    obtain ⟨rest', hclean⟩ :=
      exists_cleaned_append (s := "null/".toList) (by decide) (by decide) t.toList
    rw [htext, hclean] at hname
    cases hname
  · obtain ⟨-, -, hread, hedge⟩ := scheme_facts hscheme
    have htext : (url.origin ++ "/" ++ t).toList =
        scheme.toList ++ [':'] ++ ("//" ++ host ++ "/" ++ t).toList := by
      rw [origin, horigin]
      simp
    obtain ⟨rest', hclean⟩ := exists_cleaned_append (by simp) hedge
      ("//" ++ host ++ "/" ++ t).toList
    rw [htext, hclean, scheme?_append hread] at hname
    have hsame := (Prod.ext_iff.1 (Option.some.inj hname)).1
    rwa [← String.toList_inj.1 hsame]

end ServiceAdmin.Url
