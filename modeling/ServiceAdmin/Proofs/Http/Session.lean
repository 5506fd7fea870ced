import ServiceAdmin.Proofs.Dialogue
import ServiceAdmin.Proofs.Http.Message
import ServiceAdmin.Proofs.Url.Server

/-!
# Requests one after the other

A request sends at most one message, and takes one reply of the peer for it.  What a request sends
and how it ends is told by the request and by its reply (`Kept`).  In a session the requests before
it only decide which reply that is: one was taken for each message that they sent
(`session_of_requests`).
-/

namespace ServiceAdmin.Http

/-- The peer gives its replies in their order.  When none is left it ends every connection. -/
def peer : Dialogue.Handler network (List Delivery)
  | _, [] => (.closed, [])
  | _, delivery :: replies => (delivery, replies)

/-- How a request ended, what it sent, and the replies that it left. -/
structure Sending where
  result : Except TransportError Response
  sent : List Message
  left : List Delivery

def Request.sending (r : Request) (replies : List Delivery) : Sending :=
  let (result, sent, left) := r.exchange.run peer replies
  ⟨result, sent, left⟩

/-- Requests that are sent one after the other to the same peer. -/
def session : List Request → List Delivery → List Sending
  | [], _ => []
  | r :: requests, replies =>
    r.sending replies :: session requests (r.sending replies).left

def sentBy (sendings : List Sending) : List Message := sendings.flatMap (·.sent)

/-! ## What a request must do -/

/-- A request to an `http` URL, with a token and a content type that header fields can hold. -/
structure IsSendable (r : Request) (url : Url) : Prop where
  parsed : Url.parse r.url = .ok url
  scheme : url.scheme = "http"
  token : isFieldValue r.token = true
  contentType : ∀ p ∈ r.payload, isFieldValue p.contentType = true

/-- The message is what the request gives. -/
structure Carries (m : Message) (r : Request) (u : Url) : Prop where
  method : m.method = r.method
  url : m.url = target u
  accept : m.fields "accept" = [applicationJson]
  authorization : Authorizes m u r.token
  payload : m.payload = r.payload

/-- How a request ends for which this was delivered. -/
def Delivery.Means (r : Request) (result : Except TransportError Response) : Delivery → Prop
  | replied status _ => ∃ body, result = .ok ⟨status, body⟩
  | cutShort status =>
    if r.method ∈ [.get, .post] then ∃ message, result = .error (.bodyUnreadable r.url message)
    else ∃ body, result = .ok ⟨status, body⟩
  | closed => ∃ message, result = .error (.failure r.url message)
  | unreachable _ => ∃ message, result = .error (.failure r.url message)

/-- What a request sends, and how it ends, when these replies are left. -/
structure Kept (r : Request) (replies : List Delivery) (s : Sending) : Prop where
  /-- For each message one reply is taken. -/
  once : s.sent.length ≤ 1 ∧ s.left = replies.drop s.sent.length
  /-- What is no URL, and a token that no header field can hold, is refused. -/
  refused : (∀ url, Url.parse r.url ≠ .ok url) ∨ isFieldValue r.token = false →
    s.sent = [] ∧ ∃ reason, s.result = .error (.invalidRequest r.url reason)
  /-- No message is sent to what is no URI. -/
  unsent : ∀ url, IsSendable r url → isUri (target url) = false →
    s.sent = [] ∧ ∃ message, s.result = .error (.failure r.url message)
  sent : ∀ url, IsSendable r url → isUri (target url) = true →
    ∃ m, s.sent = [m] ∧ Carries m r url ∧ (replies.headD .closed).Means r s.result

variable {r : Request} {m : Message} {url : Url} {replies : List Delivery}

/-! ## One request -/

theorem sending_of_error {e : TransportError} (h : r.message = .error e) :
    r.sending replies = ⟨.error e, [], replies⟩ := by
  unfold Request.sending Request.exchange
  rw [h]
  rfl

theorem sending_of_not_isUri (h : r.message = .ok m) (huri : isUri m.url = false) :
    r.sending replies = ⟨.error (.failure r.url (badUri m.url)), [], replies⟩ := by
  unfold Request.sending Request.exchange
  rw [h]
  dsimp only
  rw [huri]
  rfl

theorem sending_of_isUri (h : r.message = .ok m) (huri : isUri m.url = true) :
    r.sending replies = ⟨(replies.headD .closed).response r m, [m], replies.drop 1⟩ := by
  unfold Request.sending Request.exchange
  rw [h]
  dsimp only
  rw [if_pos huri]
  cases replies <;> rfl

/-- For each message that a request sends it takes one reply. -/
theorem once_sending (r : Request) (replies : List Delivery) :
    (r.sending replies).sent.length ≤ 1 ∧
      (r.sending replies).left = replies.drop (r.sending replies).sent.length := by
  cases hmessage : r.message with
  | error e =>
    rw [sending_of_error hmessage]
    exact ⟨Nat.zero_le 1, rfl⟩
  | ok m =>
    cases huri : isUri m.url with
    | false =>
      rw [sending_of_not_isUri hmessage huri]
      exact ⟨Nat.zero_le 1, rfl⟩
    | true =>
      rw [sending_of_isUri hmessage huri]
      exact ⟨Nat.le_refl 1, rfl⟩

theorem message_refused
    (h : (∀ url, Url.parse r.url ≠ .ok url) ∨ isFieldValue r.token = false) :
    ∃ reason, r.message = .error (.invalidRequest r.url reason) := by
  simp only [Request.message, message]
  cases hparse : Url.parse r.url with
  | error fault => exact ⟨fault.message, rfl⟩
  | ok url =>
    have htoken : isFieldValue r.token = false := h.resolve_left fun hnone => hnone url hparse
    rw [htoken]
    exact ⟨badFieldValue, rfl⟩

theorem IsSendable.message (h : IsSendable r url) :
    r.message = .ok ⟨r.method, target url, credentials? url, r.token, r.payload⟩ := by
  have hserver : url.hostText? ≠ none := by
    have hscheme : Url.hasTupleOrigin url.scheme = true := by
      rw [h.scheme]
      rfl
    obtain ⟨host, hhost, hkind⟩ := (Url.isServerUrl_of_parse h.parsed hscheme).host
    rw [Url.hostText?, hhost]
    cases host with
    | empty => cases hkind
    | _ => exact Option.some_ne_none _
  have hpayload : r.payload.any (!isFieldValue ·.contentType) = false := by
    cases hcontent : r.payload with
    | none => rfl
    | some p =>
      have hvalue := h.contentType p hcontent
      simp [hvalue]
  exact message_eq h.parsed hserver (.inl h.scheme) hpayload h.token

theorem means_response (r : Request) (m : Message) (d : Delivery) :
    d.Means r (d.response r m) := by
  cases d with
  | replied status body => exact ⟨_, rfl⟩
  | closed => exact ⟨_, rfl⟩
  | unreachable reason => exact ⟨_, rfl⟩
  | cutShort status =>
    unfold Delivery.Means Delivery.response
    cases r.method <;> exact ⟨_, rfl⟩

/-- Every request does what it must. -/
theorem kept_sending (r : Request) (replies : List Delivery) :
    Kept r replies (r.sending replies) where
  once := once_sending r replies
  refused h := by
    obtain ⟨reason, hmessage⟩ := message_refused h
    rw [sending_of_error hmessage]
    exact ⟨rfl, reason, rfl⟩
  unsent url h huri := by
    rw [sending_of_not_isUri h.message huri]
    exact ⟨rfl, _, rfl⟩
  sent url h huri := by
    rw [sending_of_isUri h.message huri]
    exact ⟨_, rfl, ⟨rfl, rfl, Message.fields_accept _, authorizes_of_credentials rfl, rfl⟩,
      means_response r _ _⟩

/-! ## Sessions -/

/-- The requests before take one reply for each message that they send. -/
theorem session_append (before after : List Request) (replies : List Delivery) :
    session (before ++ after) replies =
      session before replies ++
        session after (replies.drop (sentBy (session before replies)).length) := by
  induction before generalizing replies with
  | nil => rfl
  | cons r before ih =>
    have hsent : (sentBy (session (r :: before) replies)).length =
        (r.sending replies).sent.length +
          (sentBy (session before (r.sending replies).left)).length := by
      simp [session, sentBy]
    rw [hsent, ← List.drop_drop, ← (once_sending r replies).2, List.cons_append, session, ih]
    rfl

theorem length_session (requests : List Request) (replies : List Delivery) :
    (session requests replies).length = requests.length := by
  induction requests generalizing replies with
  | nil => rfl
  | cons r requests ih => rw [session, List.length_cons, ih, List.length_cons]

/-- **Each request of a session sends at most one message, which is what it was given**, and ends
with what the next reply means.  The requests before it only decide which reply is next. -/
theorem session_of_requests (before after : List Request) (r : Request)
    (replies : List Delivery) :
    ∃ left, left = replies.drop (sentBy (session before replies)).length ∧
      (session (before ++ r :: after) replies)[before.length]? = some (r.sending left) ∧
      Kept r left (r.sending left) := by
  refine ⟨_, rfl, ?_, kept_sending r _⟩
  rw [session_append, ← length_session before replies, List.getElem?_append_right (Nat.le_refl _),
    Nat.sub_self]
  rfl

/-- Not every request to an `http` URL is sent: a URL may be no URI. -/
theorem not_sent_of_isSendable : ¬ ∀ (r : Request) (url : Url) (replies : List Delivery),
    IsSendable r url → ∃ m, (r.sending replies).sent = [m] := by
  intro h
  have hsendable : IsSendable ⟨.get, "http://a\x7bb/", none, "tok"⟩
      ⟨"http", "", none, some (.domain "a\x7bb"), none, .segments [""], none, none⟩ :=
    ⟨by decide +kernel, rfl, by decide +kernel, by simp⟩
  obtain ⟨m, hm⟩ := h _ _ [.replied 200 []] hsendable
  rw [sending_of_not_isUri hsendable.message (by decide +kernel)] at hm
  cases hm

end ServiceAdmin.Http
