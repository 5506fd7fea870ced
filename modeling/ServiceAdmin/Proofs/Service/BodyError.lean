import ServiceAdmin.Proofs.Diagnostics.Preview
import ServiceAdmin.Proofs.Json.TwinDecode
import ServiceAdmin.Registry.Registration
import ServiceAdmin.Report.BackingApp
import ServiceAdmin.Service.AppSummary
import ServiceAdmin.Service.Body
import ServiceAdmin.Service.Discovery

/-!
# Errors of bodies that hold a token

The error of a body that is not decoded tells a reason and a preview.  A bearer token in the body is
masked in the preview, wherever the preview is cut, but the reason may quote a string of the body as
it stands (`not_sameMessage`).  If it does not, the error does not depend on the token.
-/

namespace ServiceAdmin.Service

open Diagnostics (Lone IsToken bearerWord)
open Json (Shape Slot Twin Member Layout)

/-! ## The bodies that are decoded -/

/-- The kinds of bodies that are decoded. -/
inductive BodyKind
  | discovery
  | appSummary
  | info
  | applications
  | backingApps
  deriving DecidableEq, Repr

namespace BodyKind

def Value : BodyKind → Type
  | discovery => String
  | appSummary => AppSummary
  | info => Registry.Info
  | applications => List (List Registry.Registration)
  | backingApps => List Report.BackingApp

def shape : (kind : BodyKind) → Shape kind.Value
  | discovery => Service.discovery
  | appSummary => AppSummary.shape
  | info => Registry.Info.shape
  | applications => Registry.applicationsShape
  | backingApps => Report.backingAppsShape

end BodyKind

section Discreet

open Json (discreet_record discreet_choice)
open Json.Shape

theorem discreet_credentials : credentials.Discreet := by
  refine discreet_record ⟨rfl, ?_⟩
  simp only [List.forall_mem_cons]
  exact ⟨.free (by decide) discreet_string, nofun⟩

theorem discreet_discovery : discovery.Discreet := by
  refine discreet_record ⟨rfl, ?_⟩
  simp only [List.forall_mem_cons]
  exact ⟨.free (by decide) discreet_credentials, nofun⟩

theorem discreet_appSummary : AppSummary.shape.Discreet := by
  refine discreet_record ⟨rfl, ?_⟩
  simp only [List.forall_mem_cons]
  exact ⟨.free (by decide) discreet_string, .free (by decide) discreet_integer64,
    .free (by decide) discreet_string, .free (by decide) discreet_string, nofun⟩

theorem discreet_peer : Registry.Peer.shape.Discreet := by
  refine discreet_record ⟨rfl, ?_⟩
  simp only [List.forall_mem_cons]
  exact ⟨.needed (by decide) discreet_string, .free (by decide) discreet_string,
    .free (by decide) discreet_boolean, nofun⟩

theorem discreet_info : Registry.Info.shape.Discreet := by
  refine discreet_record ⟨rfl, ?_⟩
  simp only [List.forall_mem_cons]
  exact ⟨.free (by decide) discreet_natural32, .free (by decide) (discreet_list discreet_peer),
    nofun⟩

theorem discreet_metadata : Registry.Metadata.shape.Discreet := by
  refine discreet_record ⟨rfl, ?_⟩
  simp only [List.forall_mem_cons]
  exact ⟨.free (by decide) discreet_string, .free (by decide) discreet_string,
    .free (by decide) discreet_string, nofun⟩

theorem discreet_registration : Registry.Registration.shape.Discreet := by
  refine discreet_record ⟨rfl, ?_⟩
  simp only [List.forall_mem_cons]
  exact ⟨.needed (by decide) discreet_string, .needed (by decide) discreet_string,
    .free (by decide) (discreet_choice _ _), .free (by decide) discreet_metadata, nofun⟩

theorem discreet_application : Registry.applicationShape.Discreet := by
  refine discreet_record ⟨rfl, ?_⟩
  simp only [List.forall_mem_cons]
  exact ⟨.free (by decide) (discreet_list discreet_registration), nofun⟩

theorem discreet_applicationList : Registry.applicationListShape.Discreet := by
  refine discreet_record ⟨rfl, ?_⟩
  simp only [List.forall_mem_cons]
  exact ⟨.free (by decide) (discreet_list discreet_application), nofun⟩

theorem discreet_applications : Registry.applicationsShape.Discreet := by
  refine discreet_record ⟨rfl, ?_⟩
  simp only [List.forall_mem_cons]
  exact ⟨.free (by decide) discreet_applicationList, nofun⟩

theorem discreet_appInstance : Report.AppInstance.shape.Discreet := by
  refine discreet_record ⟨rfl, ?_⟩
  simp only [List.forall_mem_cons]
  exact ⟨.needed (by decide) discreet_natural32, .free (by decide) discreet_string,
    .free (by decide) discreet_integer64, .free (by decide) discreet_floating,
    .free (by decide) discreet_natural64, .free (by decide) discreet_natural64,
    .free (by decide) discreet_natural64, .free (by decide) discreet_natural64,
    .free (by decide) discreet_string, nofun⟩

theorem discreet_backingApp : Report.BackingApp.shape.Discreet := by
  refine discreet_record ⟨rfl, ?_⟩
  simp only [List.forall_mem_cons]
  exact ⟨.needed (by decide) discreet_string, .free (by decide) discreet_string,
    .free (by decide) discreet_string, .free (by decide) discreet_natural64,
    .free (by decide) discreet_natural32, .free (by decide) discreet_natural32,
    .free (by decide) discreet_string, .free (by decide) (discreet_list discreet_string),
    .free (by decide) discreet_integer64, .free (by decide) (discreet_list discreet_appInstance),
    nofun⟩

theorem discreet_backingApps : Report.backingAppsShape.Discreet := by
  refine discreet_record ⟨rfl, ?_⟩
  simp only [List.forall_mem_cons]
  exact ⟨.free (by decide) (discreet_list discreet_backingApp), nofun⟩

end Discreet

/-- Every body is decoded with a discreet shape. -/
theorem BodyKind.discreet (kind : BodyKind) : kind.shape.Discreet := by
  cases kind with
  | discovery => exact discreet_discovery
  | appSummary => exact discreet_appSummary
  | info => exact discreet_info
  | applications => exact discreet_applications
  | backingApps => exact discreet_backingApps

/-! ## Messages -/

/-- A body with a bearer token. -/
def bodyWith (p token s : String) : String := p ++ "bearer " ++ token ++ s

/-- The reason for which the body is not decoded quotes a string that holds the token. -/
def QuotesToken (kind : BodyKind) (body token : String) : Prop :=
  ∃ a wanted left,
    Json.decode kind.shape body.toList = .error ⟨.wrongType (.string a) wanted, left⟩ ∧
      token.toList <:+: a.toList

/-- The errors of two bodies have the same message if both bodies are not decoded. -/
def SameMessage (kind : BodyKind) (what body₁ body₂ : String) : Prop :=
  ∀ e₁ e₂, decodeBody kind.shape what body₁ = .error e₁ →
    decodeBody kind.shape what body₂ = .error e₂ → e₁.message = e₂.message

theorem toList_bodyWith (p token s : String) :
    (bodyWith p token s).toList = p.toList ++ (bearerWord ++ ' ' :: token.toList ++ s.toList) := by
  simp [bodyWith]
  rfl

/-- The bodies with two tokens are twins. -/
theorem twin_bodyWith {p s : String} (h : Lone p.toList s.toList) {n : Nat} {t₁ t₂ : String}
    (h₁ : IsToken n t₁.toList) (h₂ : IsToken n t₂.toList) :
    ∃ k : Slot, k.first = t₁.toList ∧
      Twin k (bodyWith p t₁ s).toList (bodyWith p t₂ s).toList := by
  have hchars : ∀ c ∈ t₁.toList ++ t₂.toList, c.isAlphanum = true := fun c hc =>
    (List.mem_append.1 hc).elim (h₁.chars c) (h₂.chars c)
  refine ⟨⟨t₁.toList, t₂.toList, s.toList, h₁.length.trans h₂.length.symm, hchars⟩, rfl,
    .inr ⟨p.toList, h.before, ?_, ?_⟩⟩
  · rw [toList_bodyWith]
    rfl
  · rw [toList_bodyWith]
    rfl

theorem decodeBody_of_error {α : Type} {shape : Shape α} {body : String} {failure : Json.Failure}
    (h : Json.decode shape body.toList = .error failure) (what : String) :
    decodeBody shape what body = .error (.decode what (failure.message body.toList)
      (Diagnostics.redact (Diagnostics.preview body bodyPreviewLimit))) := by
  rw [decodeBody, Json.decodeText, h]
  rfl

theorem decode_of_decodeBody {α : Type} {shape : Shape α} {what body : String} {e : ProtocolError}
    (h : decodeBody shape what body = .error e) :
    ∃ failure, Json.decode shape body.toList = .error failure := by
  cases hdecode : Json.decode shape body.toList with
  | error failure => exact ⟨failure, rfl⟩
  | ok a =>
    rw [decodeBody, Json.decodeText, hdecode] at h
    cases h

/-- **The error of a body tells nothing of a token**, if its reason does not quote the token. -/
theorem sameMessage_of_not_quotesToken (kind : BodyKind) (what : String) {p s : String}
    (h : Lone p.toList s.toList) {n : Nat} (hn : 0 < n) {t₁ t₂ : String}
    (h₁ : IsToken n t₁.toList) (h₂ : IsToken n t₂.toList)
    (hquote : ¬ QuotesToken kind (bodyWith p t₁ s) t₁) :
    SameMessage kind what (bodyWith p t₁ s) (bodyWith p t₂ s) := by
  intro e₁ e₂ he₁ he₂
  obtain ⟨f₁, hf₁⟩ := decode_of_decodeBody he₁
  obtain ⟨f₂, hf₂⟩ := decode_of_decodeBody he₂
  cases (decodeBody_of_error hf₁ what).symm.trans he₁
  cases (decodeBody_of_error hf₂ what).symm.trans he₂
  have hpreview := Diagnostics.redact_preview h hn bodyPreviewLimit h₁ h₂
  rw [← toList_bodyWith, ← toList_bodyWith, String.ofList_toList, String.ofList_toList] at hpreview
  obtain ⟨k, hk, htwin⟩ := twin_bodyWith h h₁ h₂
  rcases Json.decode_twin kind.discreet htwin hf₁ hf₂ with hreason | ⟨a, wanted, hcause, ha⟩
  · rw [hpreview, hreason]
  · refine absurd ⟨a, wanted, f₁.left, ?_, hk ▸ ha⟩ hquote
    rw [hf₁, ← hcause]

theorem isLiteral_of_all {w : List Char} (h : w.all Char.isAlphanum = true) :
    ∀ c ∈ w, Json.IsLiteral c :=
  fun c hc => Json.isLiteral_of_isAlphanum (List.all_eq_true.1 h c hc)

theorem isLiteral_of_isToken {n : Nat} {t : List Char} (h : IsToken n t) :
    ∀ c ∈ bearerWord ++ ' ' :: t, Json.IsLiteral c := fun c hc =>
  (List.mem_cons.1 hc).elim (fun hc => hc ▸ Json.isLiteral_of_isAlphanum (by decide))
    (Json.isLiteral_of_mem h.chars c)

/-- A node count that is a string is quoted. -/
theorem read_nodeCount {value : List Char} (h : ∀ c ∈ value, Json.IsLiteral c)
    (store : Nat → Registry.Info → Registry.Info) (s : List Char) :
    (Member.free "nodeCount" .natural32 store).change.read ('"' :: (value ++ '"' :: s)) =
      .error (Json.failAt s (.wrongType (.string (String.ofList value)) "u32")) := by
  rw [← Json.mismatch_text "u32" h s]
  rfl

/-- A note with a token is passed over. -/
theorem decode_behind_note {n : Nat} {token : String} (h : IsToken n token.toList) :
    Json.decode Registry.Info.shape
        (bodyWith "\x7b\"note\":\"" token "\",\"nodeCount\":\"x\"\x7d").toList =
      .error ⟨.wrongType (.string "x") "u32", 1⟩ := by
  have hbody : (bodyWith "\x7b\"note\":\"" token "\",\"nodeCount\":\"x\"\x7d").toList =
      '\x7b' :: '"' :: ("note".toList ++ '"' :: ':' :: '"' ::
        (bearerWord ++ ' ' :: token.toList ++ '"' :: ',' :: '"' ::
          ("nodeCount".toList ++ '"' :: ':' :: '"' :: ("x".toList ++ '"' :: ['\x7d'])))) := by
    simp [bodyWith]
    rfl
  rw [hbody]
  refine Json.decode_of_readMembers_error ?_
  rw [Layout.readMembers_of_unknown (Json.nextKey_text (isLiteral_of_all (by decide)) _) rfl rfl rfl
    (Json.skipValue_text (isLiteral_of_isToken h) _)]
  refine Layout.readMembers_of_member_error
    (Json.nextKey_comma_text (isLiteral_of_all (by decide)) _) rfl rfl rfl ?_
  exact read_nodeCount (isLiteral_of_all (by decide)) _ _

/-- A token in a member that nobody asks for, before the one that is wrong. -/
theorem sameMessage_behind_note :
    Lone "\x7b\"note\":\"".toList "\",\"nodeCount\":\"x\"\x7d".toList ∧ 0 < 3 ∧
      IsToken 3 "abc".toList ∧ IsToken 3 "xyz".toList ∧
      ¬ QuotesToken .info (bodyWith "\x7b\"note\":\"" "abc" "\",\"nodeCount\":\"x\"\x7d") "abc" ∧
      SameMessage .info "service registry info"
        (bodyWith "\x7b\"note\":\"" "abc" "\",\"nodeCount\":\"x\"\x7d")
        (bodyWith "\x7b\"note\":\"" "xyz" "\",\"nodeCount\":\"x\"\x7d") := by
  have hlone : Lone "\x7b\"note\":\"".toList "\",\"nodeCount\":\"x\"\x7d".toList :=
    ⟨by decide +kernel, by decide +kernel, by decide +kernel, by simp [Diagnostics.Delimits]⟩
  have h₁ : IsToken 3 "abc".toList := ⟨rfl, by decide⟩
  have h₂ : IsToken 3 "xyz".toList := ⟨rfl, by decide⟩
  have hquote : ¬ QuotesToken .info
      (bodyWith "\x7b\"note\":\"" "abc" "\",\"nodeCount\":\"x\"\x7d") "abc" := by
    rintro ⟨a, wanted, left, hdecode, ha⟩
    cases (decode_behind_note h₁).symm.trans hdecode
    exact absurd ha (by decide +kernel)
  exact ⟨hlone, by decide, h₁, h₂, hquote,
    sameMessage_of_not_quotesToken .info _ hlone (by decide) h₁ h₂ hquote⟩

/-- A node count that is no number is quoted if it is a string. -/
theorem decode_nodeCount {n : Nat} {token : String} (h : IsToken n token.toList) :
    Json.decode Registry.Info.shape
        (bodyWith "\x7b\"nodeCount\":\"" token "\"\x7d").toList =
      .error
        ⟨.wrongType (.string (String.ofList (bearerWord ++ ' ' :: token.toList))) "u32", 1⟩ := by
  have hbody : (bodyWith "\x7b\"nodeCount\":\"" token "\"\x7d").toList =
      '\x7b' :: '"' :: ("nodeCount".toList ++ '"' :: ':' :: '"' ::
        (bearerWord ++ ' ' :: token.toList ++ '"' :: ['\x7d'])) := by
    simp [bodyWith]
    rfl
  rw [hbody]
  refine Json.decode_of_readMembers_error (Layout.readMembers_of_member_error
    (Json.nextKey_text (isLiteral_of_all (by decide)) _) rfl rfl rfl ?_)
  exact read_nodeCount (isLiteral_of_isToken h) _ _

/-- The reason quotes a string that stands where a number is wanted, with the token. -/
theorem not_sameMessage :
    ¬ ∀ (kind : BodyKind) (what p s : String) (n : Nat) (t₁ t₂ : String),
      Lone p.toList s.toList → 0 < n → IsToken n t₁.toList → IsToken n t₂.toList →
        SameMessage kind what (bodyWith p t₁ s) (bodyWith p t₂ s) := by
  intro h
  have hlone : Lone "\x7b\"nodeCount\":\"".toList "\"\x7d".toList :=
    ⟨by decide +kernel, by decide +kernel, by decide +kernel, by simp [Diagnostics.Delimits]⟩
  have h₁ : IsToken 3 "abc".toList := ⟨rfl, by decide⟩
  have h₂ : IsToken 3 "xyz".toList := ⟨rfl, by decide⟩
  have hsame := h .info "service registry info" _ _ 3 "abc" "xyz" hlone (by decide) h₁ h₂ _ _
    (decodeBody_of_error (decode_nodeCount h₁) _) (decodeBody_of_error (decode_nodeCount h₂) _)
  exact absurd hsame (by decide +kernel)

end ServiceAdmin.Service
