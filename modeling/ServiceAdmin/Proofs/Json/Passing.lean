import Mathlib.Data.List.DropRight
import ServiceAdmin.Proofs.Json.Spelling
import ServiceAdmin.Proofs.Text.Runs

/-!
# Passing over any value

A value that nobody asks for is passed over to its end, whatever it is (`skipValue_of_isValue`).  A
list and an object are passed over in the same way: `enter` begins an item of either.
-/

namespace ServiceAdmin.Json

variable {b s t : List Char} {c : Char}

/-! ## Places between values -/

/-- What may stand behind a value: a blank, a comma, a closing bracket, or nothing. -/
def Ends (s : List Char) : Prop :=
  ∀ c ∈ s.head?, isBlank c = true ∨ c = ',' ∨ c = ']' ∨ c = '\x7d'

/-- A text that begins like a value. -/
def Fronted (t : List Char) : Prop :=
  ∃ c r, t = c :: r ∧ isBlank c = false ∧ c ≠ ']' ∧ c ≠ '\x7d'

theorem ends_append (hb : Blank b) (hc : c = ',' ∨ c = ']' ∨ c = '\x7d') (s : List Char) :
    Ends (b ++ c :: s) := by
  intro d hd
  cases b with
  | nil =>
    cases hd
    exact .inr hc
  | cons e b =>
    cases hd
    exact .inl (hb _ List.mem_cons_self)

theorem ends_append_close (hb : Blank b) (frame : Bracket) (s : List Char) :
    Ends (b ++ frame.close :: s) := by
  cases frame with
  | list => exact ends_append hb (.inr (.inl rfl)) s
  | object => exact ends_append hb (.inr (.inr rfl)) s

theorem skipBlanks_append (hb : Blank b) (s : List Char) : skipBlanks (b ++ s) = skipBlanks s :=
  List.dropWhile_append_of_pos hb

theorem skipBlanks_cons (hc : isBlank c = false) (s : List Char) :
    skipBlanks (c :: s) = c :: s := by
  rw [skipBlanks, List.dropWhile_cons, if_neg (by simp [hc])]

theorem skipBlanks_skipBlanks (s : List Char) : skipBlanks (skipBlanks s) = skipBlanks s :=
  List.dropWhile_idempotent isBlank s

theorem skipBlanks_append_cons (hb : Blank b) (hc : isBlank c = false) (s : List Char) :
    skipBlanks (b ++ c :: s) = c :: s := by
  rw [skipBlanks_append hb, skipBlanks_cons hc]

theorem Fronted.skipBlanks_append (ht : Fronted t) (hb : Blank b) (s : List Char) :
    skipBlanks (b ++ (t ++ s)) = t ++ s := by
  obtain ⟨c, r, rfl, hc, -, -⟩ := ht
  exact skipBlanks_append_cons hb hc (r ++ s)

theorem isBlank_close (frame : Bracket) : isBlank frame.close = false := by
  cases frame <;> decide

theorem close_ne_comma (frame : Bracket) : frame.close ≠ ',' := by
  cases frame <;> decide

/-! ## Numbers -/

section Numbers

variable {ds fraction exponent : List Char}

theorem skipDigits_append (hds : ∀ c ∈ ds, isDigit c = true)
    (hs : ∀ c ∈ s.head?, isDigit c = false) : skipDigits (ds ++ s) = s := by
  rw [skipDigits, List.dropWhile_append_of_pos hds]
  exact Text.dropWhile_of_head hs

/-- What stands behind a value is neither a digit, nor a point, nor the mark of an exponent. -/
theorem Ends.not_number (hs : Ends s) :
    ∀ c ∈ s.head?, isDigit c = false ∧ c ≠ '.' ∧ c ≠ 'e' ∧ c ≠ 'E' := by
  intro c hc
  rcases hs c hc with hblank | rfl | rfl | rfl
  · simp only [isBlank, Bool.or_eq_true, decide_eq_true_eq] at hblank
    rcases hblank with ((rfl | rfl) | rfl) | rfl <;> decide
  all_goals decide

theorem skipExponent_of_isDigits {sign : List Char} (hsign : sign ∈ [[], ['+'], ['-']])
    (hds : IsDigits ds) (hs : Ends s) : skipExponent (sign ++ (ds ++ s)) = .ok s := by
  obtain ⟨hne, hdigits⟩ := hds
  cases ds with
  | nil => exact absurd rfl hne
  | cons d ds =>
    obtain ⟨hd, hdigits⟩ := List.forall_mem_cons.1 hdigits
    have hsigned : (exponentSign (sign ++ (d :: ds ++ s))).2 = d :: (ds ++ s) := by
      have hplus : d ≠ '+' := fun h => by subst h; cases hd
      have hminus : d ≠ '-' := fun h => by subst h; cases hd
      simp only [List.mem_cons, List.not_mem_nil, or_false] at hsign
      rcases hsign with rfl | rfl | rfl
      · rw [List.nil_append, List.cons_append, exponentSign_cons, if_neg hplus, if_neg hminus]
      · rfl
      · rfl
    rw [skipExponent, hsigned]
    dsimp only
    rw [if_pos hd, skipDigits_append hdigits fun c hc => (hs.not_number c hc).1]

theorem skipExponent?_of_isExponent (h : IsExponent exponent) (hs : Ends s) :
    skipExponent? (exponent ++ s) = .ok s := by
  cases h with
  | none =>
    cases s with
    | nil => rfl
    | cons c s =>
      obtain ⟨-, -, he, hE⟩ := hs.not_number c rfl
      exact if_neg (not_or.2 ⟨he, hE⟩)
  | digits hmark hsign hds =>
    rw [List.cons_append, skipExponent?, if_pos hmark, List.append_assoc]
    exact skipExponent_of_isDigits hsign hds hs

/-- An exponent begins with its mark, and what follows a number with no part of a number. -/
theorem head?_exponent (h : IsExponent exponent) (hs : Ends s) :
    ∀ c ∈ (exponent ++ s).head?, isDigit c = false ∧ c ≠ '.' := by
  intro c hc
  cases h with
  | none =>
    obtain ⟨hdigit, hpoint, -, -⟩ := hs.not_number c hc
    exact ⟨hdigit, hpoint⟩
  | digits hmark _ _ =>
    cases hc
    rcases hmark with rfl | rfl <;> decide

theorem skipAfterDigits_of_isFraction (hf : IsFraction fraction) (he : IsExponent exponent)
    (hs : Ends s) : skipAfterDigits (fraction ++ (exponent ++ s)) = .ok s := by
  have hexponent := skipExponent?_of_isExponent he hs
  have hhead := head?_exponent he hs
  generalize exponent ++ s = rest at hexponent hhead ⊢
  cases hf with
  | none =>
    cases rest with
    | nil => exact hexponent
    | cons c rest =>
      rw [List.nil_append, skipAfterDigits_cons, if_neg (hhead c rfl).2]
      exact hexponent
  | @digits ds hds =>
    obtain ⟨hne, hdigits⟩ := hds
    cases ds with
    | nil => exact absurd rfl hne
    | cons d ds =>
      obtain ⟨hd, hdigits⟩ := List.forall_mem_cons.1 hdigits
      rw [List.cons_append, List.cons_append, skipAfterDigits_cons, if_pos rfl]
      dsimp only
      rw [if_pos hd, skipDigits_append hdigits fun c hc => (hhead c hc).1]
      exact hexponent

/-- The digits of a number, its fraction and its exponent are passed over together. -/
theorem skipUnsigned_of_isWhole {whole : List Char} (hw : IsWhole whole)
    (hf : IsFraction fraction) (he : IsExponent exponent) (hs : Ends s) :
    skipUnsigned (whole ++ (fraction ++ (exponent ++ s))) = .ok s := by
  have hrest := skipAfterDigits_of_isFraction hf he hs
  have hhead : ∀ c ∈ (fraction ++ (exponent ++ s)).head?, isDigit c = false := by
    intro c hc
    cases hf with
    | none => exact (head?_exponent he hs c hc).1
    | digits _ =>
      cases hc
      decide
  generalize fraction ++ (exponent ++ s) = rest at hrest hhead ⊢
  cases hw with
  | zero =>
    cases rest with
    | nil => exact hrest
    | cons c rest =>
      have hzero : skipUnsigned ('0' :: c :: rest) =
          if isDigit c then .error (failOn (c :: rest) .invalidNumber)
          else skipAfterDigits (c :: rest) := rfl
      rw [List.singleton_append, hzero, if_neg (by simp [hhead c rfl])]
      exact hrest
  | @digits c ds hc hds =>
    obtain ⟨hdigit, hdigits⟩ := List.forall_mem_cons.1 hds.2
    have hmore : skipUnsigned (c :: (ds ++ rest)) = skipAfterDigits (skipDigits (ds ++ rest)) :=
      (if_neg hc).trans (if_pos hdigit)
    rw [List.cons_append, hmore, skipDigits_append hdigits hhead]
    exact hrest

theorem IsWhole.exists_eq {whole : List Char} (h : IsWhole whole) :
    ∃ c r, whole = c :: r ∧ isDigit c = true := by
  cases h with
  | zero => exact ⟨_, _, rfl, by decide⟩
  | digits _ hds => exact ⟨_, _, rfl, hds.2 _ List.mem_cons_self⟩

/-- Neither a bracket nor a blank, nor the beginning of a word or a string. -/
theorem ne_of_isDigit (h : isDigit c = true) :
    isBlank c = false ∧ c ∉ ['[', ']', '\x7b', '\x7d', 'n', 't', 'f', '-', '"'] := by
  refine ⟨?_, fun hmem => ?_⟩
  · by_contra hblank
    simp only [Bool.not_eq_false, isBlank, Bool.or_eq_true, decide_eq_true_eq] at hblank
    rcases hblank with ((rfl | rfl) | rfl) | rfl <;> cases h
  · simp only [List.mem_cons, List.not_mem_nil, or_false] at hmem
    rcases hmem with rfl | rfl | rfl | rfl | rfl | rfl | rfl | rfl | rfl <;> cases h

end Numbers

/-! ## Scalars -/

/-- A scalar is passed over behind its first character, which opens nothing. -/
theorem IsScalar.skipScalar (h : IsScalar t) :
    ∃ c r, t = c :: r ∧ isBlank c = false ∧ c ∉ ['[', ']', '\x7b', '\x7d'] ∧
      ∀ s, Ends s → skipScalar c (r ++ s) = .ok s := by
  cases h with
  | word h =>
    simp only [words, List.mem_cons, List.not_mem_nil, or_false] at h
    rcases h with rfl | rfl | rfl <;>
      exact ⟨_, _, rfl, by decide, by decide, fun _ _ => rfl⟩
  | string h =>
    obtain ⟨pieces, hpieces, rfl⟩ := h
    refine ⟨_, _, rfl, by decide, by decide, fun s _ => ?_⟩
    rw [List.append_assoc, List.singleton_append]
    exact skipTextTail_of_forall hpieces s
  | number h =>
    obtain ⟨hsign, hw, hf, he⟩ := h
    rename_i sign whole fraction exponent
    have hunsigned (s : List Char) (hs : Ends s) := skipUnsigned_of_isWhole hw hf he hs
    simp only [List.mem_cons, List.not_mem_nil, or_false] at hsign
    rcases hsign with rfl | rfl
    · obtain ⟨c, r, rfl, hc⟩ := hw.exists_eq
      obtain ⟨hblank, hne⟩ := ne_of_isDigit hc
      refine ⟨c, r ++ (fraction ++ exponent), rfl, hblank, ?_, fun s hs => ?_⟩
      · simp only [List.mem_cons, List.not_mem_nil, or_false, not_or] at hne ⊢
        exact ⟨hne.1, hne.2.1, hne.2.2.1, hne.2.2.2.1⟩
      · simp only [List.mem_cons, List.not_mem_nil, or_false, not_or] at hne
        obtain ⟨-, -, -, -, hn, ht, hf', hminus, -⟩ := hne
        rw [Json.skipScalar, if_neg hn, if_neg ht, if_neg hf', if_neg hminus, if_pos hc]
        simpa only [List.cons_append, List.append_assoc] using hunsigned s hs
    · refine ⟨'-', whole ++ (fraction ++ exponent), rfl, by decide, by decide, fun s hs => ?_⟩
      have hminus (r : List Char) : Json.skipScalar '-' r = skipUnsigned r := rfl
      rw [hminus]
      simpa only [List.append_assoc] using hunsigned s hs

/-! ## Lists and objects -/

/-- Passes over the next item of an open list or object, and then to the end of all that is open. -/
def enter (frame : Bracket) (stack : List Bracket) (s : List Char) : Except Failure (List Char) :=
  (skipToValue frame s).bind (skipValue (frame :: stack))

theorem skipValue_skipBlanks (stack : List Bracket) (s : List Char) :
    skipValue stack (skipBlanks s) = skipValue stack s := by
  have hagain := skipBlanks_skipBlanks s
  cases h : skipBlanks s with
  | nil => rw [skipValue_of_nil stack h, skipValue_of_nil stack (h ▸ hagain)]
  | cons c r => rw [skipValue_of_cons stack h, skipValue_of_cons stack (h ▸ hagain)]

theorem skipKey_skipBlanks (s : List Char) : skipKey (skipBlanks s) = skipKey s := by
  rw [skipKey, skipKey, skipBlanks_skipBlanks]

theorem enter_skipBlanks (frame : Bracket) (stack : List Bracket) (s : List Char) :
    enter frame stack (skipBlanks s) = enter frame stack s := by
  cases frame with
  | list => exact skipValue_skipBlanks _ s
  | object => rw [enter, enter, skipToValue, skipToValue, skipKey_skipBlanks]

/-- The text is passed over as a value. -/
def Passed (t : List Char) : Prop :=
  ∀ stack s, Ends s → skipValue stack (t ++ s) = skipRest stack s

/-- The text is passed over as an item of a list or an object. -/
structure PassedIn (frame : Bracket) (t : List Char) : Prop where
  front : Fronted t
  enter : ∀ stack s, Ends s → enter frame stack (t ++ s) = skipRest (frame :: stack) s

theorem skipRest_close (frame : Bracket) (stack : List Bracket) (hb : Blank b) (s : List Char) :
    skipRest (frame :: stack) (b ++ frame.close :: s) = skipRest stack s := by
  rw [skipRest_of_cons stack frame (skipBlanks_append_cons hb (isBlank_close frame) s),
    if_neg (close_ne_comma frame), if_pos rfl]

theorem skipRest_comma (frame : Bracket) (stack : List Bracket) (hb : Blank b) (s : List Char) :
    skipRest (frame :: stack) (b ++ ',' :: s) = enter frame stack s := by
  rw [skipRest_of_cons stack frame (skipBlanks_append_cons hb (by decide) s), if_pos rfl]
  rfl

theorem enter_of_separated {frame : Bracket} {items : List (List Char)} (h : Separated items t)
    (hitems : ∀ i ∈ items, PassedIn frame i) (stack : List Bracket) (s : List Char) :
    enter frame stack (t ++ frame.close :: s) = skipRest stack s := by
  induction h with
  | @last b i b' hb hb' =>
    have hi := hitems i List.mem_cons_self
    rw [← enter_skipBlanks, List.append_assoc, List.append_assoc, hi.front.skipBlanks_append hb,
      hi.enter _ _ (ends_append_close hb' frame s), skipRest_close frame stack hb']
  | @cons b i b' r items hb hb' _ ih =>
    obtain ⟨hi, hitems⟩ := List.forall_mem_cons.1 hitems
    rw [← enter_skipBlanks, List.append_assoc, List.append_assoc, List.append_assoc,
      hi.front.skipBlanks_append hb, List.cons_append, hi.enter _ _ (ends_append hb' (.inl rfl) _),
      skipRest_comma frame stack hb', ih hitems]

/-- What is separated begins like its first item. -/
theorem Separated.front {items : List (List Char)} (h : Separated items t)
    (hitems : ∀ i ∈ items, Fronted i) (s : List Char) :
    ∃ c r, skipBlanks (t ++ s) = c :: r ∧ c ≠ ']' ∧ c ≠ '\x7d' := by
  have hfront {b i : List Char} (hb : Blank b) (hi : Fronted i) (r : List Char) :
      ∃ c u, skipBlanks (b ++ (i ++ r)) = c :: u ∧ c ≠ ']' ∧ c ≠ '\x7d' := by
    rw [hi.skipBlanks_append hb]
    obtain ⟨c, u, rfl, -, hc⟩ := hi
    exact ⟨c, u ++ r, rfl, hc⟩
  cases h with
  | last hb _ =>
    rw [List.append_assoc, List.append_assoc]
    exact hfront hb (hitems _ List.mem_cons_self) _
  | cons hb _ _ =>
    rw [List.append_assoc, List.append_assoc]
    exact hfront hb (hitems _ List.mem_cons_self) _

/-- A list or an object is passed over behind its opening bracket. -/
theorem skipOpened_of_enclosed (frame : Bracket) {opening : Char} {items : List (List Char)}
    (h : Enclosed opening frame.close items t) (hitems : ∀ i ∈ items, PassedIn frame i) :
    ∃ r, t = opening :: r ∧ ∀ stack s, skipOpened frame stack (r ++ s) = skipRest stack s := by
  cases h with
  | @empty b hb =>
    refine ⟨_, rfl, fun stack s => ?_⟩
    rw [List.append_assoc, List.singleton_append,
      skipOpened_of_cons stack frame (skipBlanks_append_cons hb (isBlank_close frame) s),
      if_pos rfl]
  | @items _ r hr =>
    refine ⟨_, rfl, fun stack s => ?_⟩
    obtain ⟨c, u, hfront, hc⟩ := hr.front (fun i hi => (hitems i hi).front) (frame.close :: s)
    have hclose : c ≠ frame.close := by
      cases frame with
      | list => exact hc.1
      | object => exact hc.2
    rw [List.append_assoc, List.singleton_append, skipOpened_of_cons stack frame hfront,
      if_neg hclose, ← hfront]
    exact (enter_skipBlanks frame stack _).trans (enter_of_separated hr hitems stack s)

/-! ## Values -/

theorem IsScalar.fronted (h : IsScalar t) : Fronted t := by
  obtain ⟨c, r, rfl, hblank, hne, -⟩ := h.skipScalar
  simp only [List.mem_cons, List.not_mem_nil, or_false, not_or] at hne
  exact ⟨c, r, rfl, hblank, hne.2.1, hne.2.2.2⟩

theorem IsScalar.passed (h : IsScalar t) : Passed t := by
  intro stack s hs
  obtain ⟨c, r, rfl, hblank, hne, hskip⟩ := h.skipScalar
  simp only [List.mem_cons, List.not_mem_nil, or_false, not_or] at hne
  rw [List.cons_append, skipValue_of_cons stack (skipBlanks_cons hblank _), if_neg hne.1,
    if_neg hne.2.2.1, hskip s hs]
  rfl

theorem Enclosed.fronted {opening closing : Char} {items : List (List Char)}
    (h : Enclosed opening closing items t)
    (hopening : isBlank opening = false ∧ opening ≠ ']' ∧ opening ≠ '\x7d') : Fronted t := by
  cases h with
  | empty _ => exact ⟨_, _, rfl, hopening⟩
  | items _ => exact ⟨_, _, rfl, hopening⟩

theorem Joined.fronted {key value : List Char} (h : Joined key value t)
    (hkey : ∃ u, key = '"' :: u) : Fronted t := by
  obtain ⟨u, rfl⟩ := hkey
  cases h with
  | intro _ _ => exact ⟨_, _, rfl, by decide, by decide, by decide⟩

/-- A member of an object is passed over with its key. -/
theorem passedIn_of_joined {key value : List Char} (h : Joined key value t) (hkey : IsString key)
    (hfront : Fronted value) (hvalue : Passed value) : PassedIn .object t := by
  obtain ⟨pieces, hpieces, rfl⟩ := hkey
  refine ⟨h.fronted ⟨_, rfl⟩, fun stack s hs => ?_⟩
  obtain ⟨hb, hb'⟩ := h
  rename_i b b'
  have htail : skipTextTail (pieces.flatten ++ '"' :: (b ++ ':' :: (b' ++ (value ++ s)))) =
      .ok (b ++ ':' :: (b' ++ (value ++ s))) := skipTextTail_of_forall hpieces _
  have hcolon : colon (b ++ ':' :: (b' ++ (value ++ s))) = .ok (b' ++ (value ++ s)) :=
    (colon_of_cons (skipBlanks_append_cons hb (by decide) _)).trans (if_pos rfl)
  simp only [List.cons_append, List.append_assoc, List.nil_append]
  rw [enter, skipToValue, skipKey_of_cons (skipBlanks_cons (by decide) _), if_pos rfl, htail]
  show (colon _).bind _ = _
  rw [hcolon]
  show skipValue _ _ = _
  rw [← skipValue_skipBlanks, hfront.skipBlanks_append hb', hvalue _ s hs]

theorem passed_of_list {items : List (List Char)} (h : Enclosed '[' ']' items t)
    (hitems : ∀ i ∈ items, PassedIn .list i) : Passed t := by
  intro stack s _
  obtain ⟨r, rfl, hopened⟩ := skipOpened_of_enclosed .list h hitems
  rw [List.cons_append, skipValue_of_cons stack (skipBlanks_cons (by decide) _), if_pos rfl,
    hopened stack s]

theorem passed_of_object {items : List (List Char)} (h : Enclosed '\x7b' '\x7d' items t)
    (hitems : ∀ i ∈ items, PassedIn .object i) : Passed t := by
  intro stack s _
  obtain ⟨r, rfl, hopened⟩ := skipOpened_of_enclosed .object h hitems
  rw [List.cons_append, skipValue_of_cons stack (skipBlanks_cons (by decide) _),
    if_neg (by decide), if_pos rfl, hopened stack s]

theorem exists_of_mem_right {α β : Type} {R : α → β → Prop} {l : List α} {u : List β}
    (h : List.Forall₂ R l u) {x : β} (hx : x ∈ u) : ∃ a ∈ l, R a x := by
  induction h with
  | nil => cases hx
  | cons hR _ ih =>
    rcases List.mem_cons.1 hx with rfl | hx
    · exact ⟨_, List.mem_cons_self, hR⟩
    · obtain ⟨a, ha, hR⟩ := ih hx
      exact ⟨a, List.mem_cons_of_mem _ ha, hR⟩

theorem fronted_and_passed (h : IsValue t) : Fronted t ∧ Passed t := by
  induction h with
  | scalar h => exact ⟨h.fronted, h.passed⟩
  | list h _ ih =>
    refine ⟨h.fronted (by decide), passed_of_list h fun i hi => ⟨(ih i hi).1, fun stack s hs => ?_⟩⟩
    exact (ih i hi).2 (.list :: stack) s hs
  | object hmembers h hkeys _ ih =>
    refine ⟨h.fronted (by decide), passed_of_object h fun i hi => ?_⟩
    obtain ⟨m, hm, hjoined⟩ := exists_of_mem_right hmembers hi
    exact passedIn_of_joined hjoined (hkeys m hm) (ih m hm).1 (ih m hm).2

/-- **A value that nobody asks for is passed over to its end.** -/
theorem skipValue_of_isValue (h : IsValue t) (hb : Blank b) {s : List Char} (hs : Ends s)
    (stack : List Bracket) : skipValue stack (b ++ (t ++ s)) = skipRest stack s := by
  obtain ⟨hfront, hpassed⟩ := fronted_and_passed h
  rw [← skipValue_skipBlanks, hfront.skipBlanks_append hb, hpassed stack s hs]

end ServiceAdmin.Json
