import ServiceAdmin.Json.Reader
import ServiceAdmin.Proofs.Text.Ascii
import ServiceAdmin.Text.Word

/-!
# Texts with two tokens

`Twin` relates a text with one bearer token to the same text with another.  Outside of strings
readers do not come as far as the token, and a string that holds it ends behind it.  So readers take
the same off both texts, or fail on both for the same reason (`Alike`).
-/

namespace ServiceAdmin.Json

open Text (isWordChar forall_ascii toNat_lt_of_isAlphanum)
open Text.Utf8 (size)

/-! ## Slots -/

/-- A place for a token, and two tokens of the same length for it. -/
structure Slot where
  first : List Char
  second : List Char
  /-- What stands behind the token. -/
  behind : List Char
  length_eq : first.length = second.length
  chars : ∀ c ∈ first ++ second, c.isAlphanum = true

namespace Slot

/-- What stands in the slot before the text behind it. -/
def shown (token : List Char) : List Char := ['b', 'e', 'a', 'r', 'e', 'r', ' '] ++ token

def firstText (k : Slot) : List Char := shown k.first ++ k.behind

def secondText (k : Slot) : List Char := shown k.second ++ k.behind

end Slot

/-- The same text, or the same text up to a slot that stands behind no word character. -/
def Twin (k : Slot) (s₁ s₂ : List Char) : Prop :=
  s₁ = s₂ ∨ ∃ front, (∀ c ∈ front.getLast?, isWordChar c = false) ∧
    s₁ = front ++ k.firstText ∧ s₂ = front ++ k.secondText

theorem size_append (s t : List Char) : size (s ++ t) = size s + size t := by
  induction s with
  | nil => exact (Nat.zero_add _).symm
  | cons c s ih =>
    show c.utf8Size + size (s ++ t) = c.utf8Size + size s + size t
    rw [ih, Nat.add_assoc]

theorem size_eq_length {s : List Char} (h : ∀ c ∈ s, c.isAlphanum = true) : size s = s.length := by
  induction s with
  | nil => rfl
  | cons c s ih =>
    have hc : c.utf8Size = 1 :=
      forall_ascii (P := fun c => c.utf8Size = 1) (by decide)
        (toNat_lt_of_isAlphanum (h c List.mem_cons_self))
    show c.utf8Size + size s = s.length + 1
    rw [hc, ih fun d hd => h d (List.mem_cons_of_mem _ hd), Nat.add_comm]

theorem Slot.size_eq (k : Slot) : size k.firstText = size k.secondText := by
  have hfirst : size k.first = k.first.length :=
    size_eq_length fun c hc => k.chars c (List.mem_append_left _ hc)
  have hsecond : size k.second = k.second.length :=
    size_eq_length fun c hc => k.chars c (List.mem_append_right _ hc)
  rw [firstText, secondText, shown, shown, size_append, size_append, size_append, size_append,
    hfirst, hsecond, k.length_eq]

namespace Twin

variable {k : Slot} {s s₁ s₂ r₁ r₂ : List Char} {c : Char}

theorem same (s : List Char) : Twin k s s := .inl rfl

theorem size_eq (h : Twin k s₁ s₂) : size s₁ = size s₂ := by
  rcases h with rfl | ⟨front, -, rfl, rfl⟩
  · rfl
  · rw [size_append, size_append, k.size_eq]

/-- Twins are the same, or begin at the slot, or go on as twins behind the same character. -/
theorem elim (h : Twin k s₁ s₂) :
    s₁ = s₂ ∨ (s₁ = k.firstText ∧ s₂ = k.secondText) ∨
      ∃ c r₁ r₂, s₁ = c :: r₁ ∧ s₂ = c :: r₂ ∧ Twin k r₁ r₂ := by
  rcases h with rfl | ⟨front, hfront, rfl, rfl⟩
  · exact .inl rfl
  cases front with
  | nil => exact .inr (.inl ⟨rfl, rfl⟩)
  | cons c front =>
    refine .inr (.inr ⟨c, _, _, rfl, rfl, .inr ⟨front, ?_, rfl, rfl⟩⟩)
    intro d hd
    refine hfront d ?_
    rw [List.getLast?_cons, hd]
    rfl

theorem nil_left (h : Twin k [] s₂) : s₂ = [] := by
  rcases h with rfl | ⟨front, -, hs, -⟩
  · rfl
  · cases front <;> cases hs

/-- A reader that stops at the first letter of the slot sees the same in twins. -/
theorem cons_left (h : Twin k (c :: r₁) s₂) :
    ∃ r₂, s₂ = c :: r₂ ∧ size r₁ = size r₂ ∧ (c ≠ 'b' → Twin k r₁ r₂) := by
  rcases h.elim with rfl | ⟨hfirst, rfl⟩ | ⟨d, t₁, t₂, heq, rfl, htail⟩
  · exact ⟨r₁, rfl, rfl, fun _ => same _⟩
  · obtain ⟨rfl, rfl⟩ := List.cons.inj hfirst
    exact ⟨_, rfl, Nat.add_left_cancel k.size_eq, fun hc => absurd rfl hc⟩
  · obtain ⟨rfl, rfl⟩ := List.cons.inj heq
    exact ⟨t₂, rfl, htail.size_eq, fun _ => htail⟩

theorem dropWhile {q : Char → Bool} (hq : q 'b' = false) (h : Twin k s₁ s₂) :
    Twin k (s₁.dropWhile q) (s₂.dropWhile q) := by
  induction s₁ generalizing s₂ with
  | nil => rw [h.nil_left]; exact same _
  | cons c s₁ ih =>
    obtain ⟨s₂, rfl, -, htail⟩ := h.cons_left
    rw [List.dropWhile_cons, List.dropWhile_cons]
    split
    · next hc =>
      refine ih (htail ?_)
      rintro rfl
      exact Bool.false_ne_true (hq.symm.trans hc)
    · exact h

theorem takeWhile {q : Char → Bool} (hq : q 'b' = false) (h : Twin k s₁ s₂) :
    s₁.takeWhile q = s₂.takeWhile q := by
  induction s₁ generalizing s₂ with
  | nil => rw [h.nil_left]
  | cons c s₁ ih =>
    obtain ⟨s₂, rfl, -, htail⟩ := h.cons_left
    rw [List.takeWhile_cons, List.takeWhile_cons]
    split
    · next hc =>
      refine congrArg _ (ih (htail ?_))
      rintro rfl
      exact Bool.false_ne_true (hq.symm.trans hc)
    · rfl

theorem skipBlanks (h : Twin k s₁ s₂) : Twin k (skipBlanks s₁) (skipBlanks s₂) :=
  h.dropWhile (by decide)

theorem tail (h : Twin k (c :: r₁) (c :: r₂)) (hc : c ≠ 'b') : Twin k r₁ r₂ := by
  obtain ⟨_, heq, -, htail⟩ := h.cons_left
  cases heq
  exact htail hc

/-- What twins begin with behind blanks. -/
theorem front (h : Twin k s₁ s₂) :
    (Json.skipBlanks s₁ = [] ∧ Json.skipBlanks s₂ = []) ∨
      ∃ c r₁ r₂, Json.skipBlanks s₁ = c :: r₁ ∧ Json.skipBlanks s₂ = c :: r₂ ∧
        Twin k (c :: r₁) (c :: r₂) := by
  have hskip := h.skipBlanks
  cases heq : Json.skipBlanks s₁ with
  | nil =>
    rw [heq] at hskip
    exact .inl ⟨rfl, hskip.nil_left⟩
  | cons c r₁ =>
    rw [heq] at hskip
    obtain ⟨r₂, hr, -, -⟩ := hskip.cons_left
    rw [hr] at hskip
    exact .inr ⟨c, r₁, r₂, rfl, hr, hskip⟩

theorem failAt (h : Twin k s₁ s₂) (cause : Cause) : failAt s₁ cause = failAt s₂ cause :=
  congrArg (Failure.mk cause) h.size_eq

theorem failOn (h : Twin k s₁ s₂) (cause : Cause) : failOn s₁ cause = failOn s₂ cause :=
  congrArg (fun n => Failure.mk cause (n - 1)) h.size_eq

end Twin

theorem failOn_cons {s₁ s₂ : List Char} (h : size s₁ = size s₂) (c : Char) (cause : Cause) :
    failOn (c :: s₁) cause = failOn (c :: s₂) cause :=
  congrArg (fun n => Failure.mk cause (c.utf8Size + n - 1)) h

/-! ## Results -/

/-- The word of the slot from its second letter on: in a string the first may be escaped. -/
def Slot.wordTail : List Char := ['e', 'a', 'r', 'e', 'r', ' ']

/-- The same string, or two that differ by their tokens. -/
def Indistinct (k : Slot) (a b : List Char) : Prop :=
  a = b ∨
    ∃ u v, a = u ++ (Slot.wordTail ++ k.first ++ v) ∧ b = u ++ (Slot.wordTail ++ k.second ++ v)

/-- Failures that say the same, unless they quote strings that differ by their tokens. -/
def Failure.Like (k : Slot) (e f : Failure) : Prop :=
  e = f ∨ ∃ a b wanted left, Indistinct k a.toList b.toList ∧
    e = ⟨.wrongType (.string a) wanted, left⟩ ∧ f = ⟨.wrongType (.string b) wanted, left⟩

theorem Failure.Like.quoted {k : Slot} {a b : String} {r₁ r₂ : List Char}
    (h : Indistinct k a.toList b.toList) (hr : Twin k r₁ r₂) (wanted : String) :
    (failAt r₁ (.wrongType (.string a) wanted)).Like k
      (failAt r₂ (.wrongType (.string b) wanted)) :=
  .inr ⟨a, b, wanted, size r₁, h, rfl, congrArg (Failure.mk _) hr.size_eq.symm⟩

variable {α β γ δ : Type}

/-- Both are related values, or failures that are alike. -/
def Alike (k : Slot) (Q : α → β → Prop) : Except Failure α → Except Failure β → Prop
  | .ok a, .ok b => Q a b
  | .error e, .error f => e.Like k f
  | _, _ => False

namespace Alike

variable {k : Slot} {Q : α → β → Prop} {P : γ → δ → Prop} {x : Except Failure α}
  {y : Except Failure β}

theorem refl {Q : α → α → Prop} (hQ : ∀ a, Q a a) (x : Except Failure α) : Alike k Q x x := by
  cases x with
  | error e => exact .inl rfl
  | ok a => exact hQ a

theorem cases (h : Alike k Q x y) :
    (∃ e f, x = .error e ∧ y = .error f ∧ e.Like k f) ∨ ∃ a b, x = .ok a ∧ y = .ok b ∧ Q a b := by
  cases x with
  | error e =>
    cases y with
    | error f => exact .inl ⟨e, f, rfl, rfl, h⟩
    | ok b => exact h.elim
  | ok a =>
    cases y with
    | error f => exact h.elim
    | ok b => exact .inr ⟨a, b, rfl, rfl, h⟩

theorem imp {P : α → β → Prop} (h : Alike k Q x y) (hQ : ∀ a b, Q a b → P a b) : Alike k P x y := by
  rcases h.cases with ⟨e, f, rfl, rfl, h⟩ | ⟨a, b, rfl, rfl, h⟩
  · exact h
  · exact hQ a b h

theorem error_eq {e f : Failure} (h : e = f) : Alike k Q (.error e) (.error f) := .inl h

theorem bind_of_ok {f : α → Except Failure γ} {g : β → Except Failure δ} (h : Alike k Q x y)
    (hfg : ∀ a b, x = .ok a → Q a b → Alike k P (f a) (g b)) : Alike k P (x.bind f) (y.bind g) := by
  rcases h.cases with ⟨e, f, rfl, rfl, h⟩ | ⟨a, b, rfl, rfl, h⟩
  · exact h
  · exact hfg a b rfl h

theorem bind {f : α → Except Failure γ} {g : β → Except Failure δ} (h : Alike k Q x y)
    (hfg : ∀ a b, Q a b → Alike k P (f a) (g b)) : Alike k P (x.bind f) (y.bind g) :=
  h.bind_of_ok fun a b _ => hfg a b

theorem map {f : α → γ} {g : β → δ} (h : Alike k Q x y) (hfg : ∀ a b, Q a b → P (f a) (g b)) :
    Alike k P (x.map f) (y.map g) := by
  rcases h.cases with ⟨e, f, rfl, rfl, h⟩ | ⟨a, b, rfl, rfl, h⟩
  · exact h
  · exact hfg a b h

end Alike

/-- What readers take off twins, and the twins that they leave. -/
def Taken (k : Slot) (R : α → β → Prop) (x : α × List Char) (y : β × List Char) : Prop :=
  R x.1 y.1 ∧ Twin k x.2 y.2

theorem taken_refl {k : Slot} {R : α → α → Prop} (hR : ∀ a, R a a) (x : α × List Char) :
    Taken k R x x := ⟨hR _, .same _⟩

theorem Taken.exists_eq {k : Slot} {x y : α × List Char} (h : Taken k Eq x y) :
    ∃ a r₁ r₂, x = (a, r₁) ∧ y = (a, r₂) ∧ Twin k r₁ r₂ :=
  ⟨x.1, x.2, y.2, rfl, Prod.ext h.1.symm rfl, h.2⟩

end ServiceAdmin.Json
