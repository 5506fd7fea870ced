import ServiceAdmin.Http.Exchange
import ServiceAdmin.Proofs.Text.Ascii
import ServiceAdmin.Proofs.Text.Base64

/-!
# Messages with a token

A header field can hold every text without control characters, ASCII or not, because the octets of
other characters are 128 or more (`isFieldValue_of_not_isControl`).  A token that a header field can
hold makes a message to every URL, and is all that the message has for its authorization, unless the
URL has a user name or a password: they stand before the token (`authorizes_of_credentials`).
-/

namespace ServiceAdmin.Http

open Text (isControl forall_ascii)

/-- The octets of a character that is not ASCII. -/
theorem le_of_mem_utf8EncodeChar {c : Char} (hc : 128 ≤ c.toNat) :
    ∀ b ∈ String.utf8EncodeChar c, 128 ≤ b.toNat := by
  have hval : c.val.toNat = c.toNat := rfl
  have hoctet {n m k : Nat} (h : 0 < m ∧ 128 ≤ k ∧ m + k ≤ 256) :
      128 ≤ (UInt8.ofNat (n % m + k)).toNat := by
    have hmod := Nat.mod_lt n h.1
    rw [UInt8.toNat_ofNat', Nat.mod_eq_of_lt (by omega)]
    omega
  rw [String.utf8EncodeChar.eq_1, if_neg (by omega)]
  simp only [apply_ite (fun octets : List UInt8 => ∀ b ∈ octets, 128 ≤ b.toNat),
    List.forall_mem_cons, List.not_mem_nil, false_imp_iff, implies_true, and_true]
  split
  · exact ⟨hoctet (by decide), hoctet (by decide)⟩
  split
  · exact ⟨hoctet (by decide), hoctet (by decide), hoctet (by decide)⟩
  · exact ⟨hoctet (by decide), hoctet (by decide), hoctet (by decide), hoctet (by decide)⟩

theorem isFieldOctet_of_not_isControl {c : Char} (h : isControl c = false) :
    ∀ b ∈ String.utf8EncodeChar c, isFieldOctet b = true := by
  by_cases hc : c.toNat < 128
  · exact forall_ascii (P := fun c => isControl c = false →
      ∀ b ∈ String.utf8EncodeChar c, isFieldOctet b = true) (by decide +kernel) hc h
  · intro b hb
    have hle := le_of_mem_utf8EncodeChar (Nat.not_lt.1 hc) b hb
    have hspace : 0x20 ≤ b := UInt8.le_iff_toNat_le.2 (Nat.le_trans (by decide) hle)
    have hdelete : b ≠ 0x7F := by
      rintro rfl
      exact absurd hle (by decide)
    simp [isFieldOctet, hspace, hdelete]

/-- **A header field can hold every text without control characters.** -/
theorem isFieldValue_of_not_isControl {s : String} (h : ∀ c ∈ s.toList, isControl c = false) :
    isFieldValue s = true := by
  rw [isFieldValue, Text.Utf8.encode, List.all_eq_true]
  intro b hb
  obtain ⟨c, hc, hb⟩ := List.mem_flatMap.1 hb
  exact isFieldOctet_of_not_isControl (h c hc) b hb

/-! ## Authorization -/

/-- The values that the message has in fields of this name. -/
def Message.fields (m : Message) (name : String) : List String :=
  (m.headers.filter (·.1 = name)).map (·.2)

/-- The URL tells a user name and a password, each in percent-encoding.  One of the two is enough,
and a password that is no text counts as none. -/
structure Tells (url : Url) (user : String) (password : Option String) : Prop where
  username : Text.Utf8.decode? (Url.percentDecode url.username.toList) = .ok user
  secret : password = url.password.bind fun p =>
    (Text.Utf8.decode? (Url.percentDecode p.toList)).toOption
  nonempty : user ≠ "" ∨ password ≠ none

/-- The value of a header field has the user name and the password in Base64. -/
def IsBasic (user : String) (password : Option String) (value : String) : Prop :=
  ∃ text, value = "Basic " ++ text ∧
    Text.Base64.decode? text.toList =
      some (Text.Utf8.encode (user ++ ":" ++ password.getD ""))

/-- The message is authorized by the token, and before it by what the URL tells. -/
structure Authorizes (m : Message) (url : Url) (token : String) : Prop where
  bare : (∀ user password, ¬ Tells url user password) → m.fields "authorization" = [token]
  basic : ∀ user password, Tells url user password →
    ∃ value, IsBasic user password value ∧ m.fields "authorization" = [value, token]

theorem credentials?_eq_some_iff {url : Url} {c : Credentials} :
    credentials? url = some c ↔ Tells url c.user c.password := by
  have hread {user : String} : percentText? url.username = some user ↔
      Text.Utf8.decode? (Url.percentDecode url.username.toList) = .ok user := by
    unfold percentText?
    cases Text.Utf8.decode? (Url.percentDecode url.username.toList) <;> simp [Except.toOption]
  constructor
  · intro h
    obtain ⟨user, huser, h⟩ := Option.bind_eq_some_iff.1 h
    by_cases hnone : user = "" ∧ url.password.bind percentText? = none
    · rw [if_pos hnone] at h
      cases h
    · rw [if_neg hnone] at h
      cases h
      exact ⟨hread.1 huser, rfl, Decidable.not_and_iff_not_or_not.1 hnone⟩
  · rintro ⟨huser, hpassword, hnonempty⟩
    refine Option.bind_eq_some_iff.2 ⟨c.user, hread.2 huser, ?_⟩
    show (if c.user = "" ∧ url.password.bind percentText? = none then none else _) = _
    have hsame : url.password.bind percentText? = c.password := hpassword.symm
    rw [hsame, if_neg (Decidable.not_and_iff_not_or_not.2 hnonempty)]

theorem Credentials.isBasic (c : Credentials) : IsBasic c.user c.password c.basic := by
  refine ⟨_, rfl, ?_⟩
  rw [String.toList_ofList]
  exact Text.Base64.decode?_encode _

theorem Message.fields_authorization (m : Message) :
    m.fields "authorization" = (m.credentials.map (·.basic)).toList ++ [m.authorization] := by
  unfold fields headers
  cases m.credentials with
  | none => simp
  | some c => simp

theorem Message.fields_accept (m : Message) : m.fields "accept" = [applicationJson] := by
  unfold fields headers
  cases m.credentials with
  | none => simp
  | some c => simp

theorem authorizes_of_credentials {m : Message} {url : Url}
    (h : m.credentials = credentials? url) : Authorizes m url m.authorization where
  bare := by
    intro hnone
    have hcredentials : m.credentials = none := by
      rw [h, Option.eq_none_iff_forall_ne_some]
      exact fun c hc => hnone _ _ (credentials?_eq_some_iff.1 hc)
    rw [Message.fields_authorization, hcredentials]
    rfl
  basic := by
    intro user password htold
    have hcredentials : m.credentials = some ⟨user, password⟩ :=
      h.trans (credentials?_eq_some_iff.2 htold)
    refine ⟨_, Credentials.isBasic ⟨user, password⟩, ?_⟩
    rw [Message.fields_authorization, hcredentials]
    rfl

/-! ## Messages to URLs -/

theorem message_of_isFieldValue {method : Method} {url token : String} {u : Url}
    (hurl : Url.parse url = .ok u) (htoken : isFieldValue token = true) :
    message method url token = .ok ⟨method, target u, credentials? u, token, none⟩ := by
  unfold message
  rw [hurl]
  exact if_pos htoken

theorem hostText?_target (url : Url) : (target url).hostText? = url.hostText? := by
  unfold target
  split <;> rfl

theorem scheme_target (url : Url) : (target url).scheme = url.scheme := by
  unfold target
  split <;> rfl

/-- A request to a URL of a server makes a message. -/
theorem message_eq {r : Request} {url : Url} (hparse : Url.parse r.url = .ok url)
    (hhost : url.hostText? ≠ none) (hscheme : url.scheme = "http" ∨ url.scheme = "https")
    (hpayload : r.payload.any (!isFieldValue ·.contentType) = false)
    (htoken : isFieldValue r.token = true) :
    r.message = .ok ⟨r.method, target url, credentials? url, r.token, r.payload⟩ := by
  have hsendable :
      unsendable? ⟨r.method, target url, credentials? url, r.token, none⟩ r.payload = none := by
    have hknown : ¬ (url.scheme ≠ "http" && url.scheme ≠ "https") = true := by
      rcases hscheme with h | h <;> simp [h]
    unfold unsendable?
    dsimp only
    rw [hostText?_target, scheme_target, if_neg hhost, hpayload, if_neg Bool.false_ne_true,
      if_neg hknown]
  simp only [Request.message, message_of_isFieldValue hparse htoken, bind, Except.bind,
    hsendable]

end ServiceAdmin.Http
