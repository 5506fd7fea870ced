import ServiceAdmin.Dialogue

/-!
# Courses of dialogues

What holds of a dialogue in all surroundings is a statement about its courses: the lists of
exchanges that it can go through, each with the result that it then ends with.  Every run goes
through one of them (`course_run`), and a course of `d.bind f` is a course of `d` followed by one
of `f a` (`course_bind`), so that a do block is taken apart line by line.

`Asks P` says that a dialogue asks nothing but questions with the property `P`, whatever it is
answered.
-/

namespace ServiceAdmin

/-- A question and the answer that it got. -/
structure Exchange (I : Interface) where
  question : I.Query
  answer : I.Answer question

namespace Dialogue

variable {I : Interface} {α β σ : Type}

/-! ## Histories -/

/-- The exchanges of a run, in their order. -/
def history (answer : Handler I σ) : Dialogue I α → σ → List (Exchange I)
  | done _, _ => []
  | ask q next, st => ⟨q, (answer q st).1⟩ :: (next (answer q st).1).history answer (answer q st).2

theorem run_bind (answer : Handler I σ) (d : Dialogue I α) (f : α → Dialogue I β) (st : σ) :
    (d.bind f).run answer st =
      let (a, asked, st) := d.run answer st
      let (b, asked', st) := (f a).run answer st
      (b, asked ++ asked', st) := by
  induction d generalizing st with
  | done a => rfl
  | ask q next ih =>
    simp only [bind, run]
    rw [ih]
    rfl

theorem history_bind (answer : Handler I σ) (d : Dialogue I α) (f : α → Dialogue I β) (st : σ) :
    (d.bind f).history answer st =
      d.history answer st ++
        (f (d.run answer st).1).history answer (d.run answer st).2.2 := by
  induction d generalizing st with
  | done a => rfl
  | ask q next ih =>
    simp only [bind, history, run, List.cons_append]
    rw [ih]

/-! ## Courses -/

/-- `d.Course h a`: answered as in `h`, the dialogue asks what is asked in `h` and ends with `a`. -/
inductive Course : Dialogue I α → List (Exchange I) → α → Prop
  | done (a : α) : Course (done a) [] a
  | ask {q : I.Query} {next : I.Answer q → Dialogue I α} {h : List (Exchange I)} {a : α}
      (r : I.Answer q) : Course (next r) h a → Course (ask q next) (⟨q, r⟩ :: h) a

/-- Every run goes through a course. -/
theorem course_run (answer : Handler I σ) (d : Dialogue I α) (st : σ) :
    d.Course (d.history answer st) (d.run answer st).1 := by
  induction d generalizing st with
  | done a => exact .done a
  | ask q next ih => exact .ask _ (ih _ _)

theorem course_done {a b : α} {h : List (Exchange I)} :
    (done a : Dialogue I α).Course h b ↔ h = [] ∧ b = a := by
  constructor
  · rintro ⟨⟩
    exact ⟨rfl, rfl⟩
  · rintro ⟨rfl, rfl⟩
    exact .done _

theorem course_ask {q : I.Query} {next : I.Answer q → Dialogue I α} {h : List (Exchange I)}
    {b : α} : (ask q next).Course h b ↔ ∃ r t, h = ⟨q, r⟩ :: t ∧ (next r).Course t b := by
  constructor
  · rintro ⟨⟩
    exact ⟨_, _, rfl, ‹_›⟩
  · rintro ⟨r, t, rfl, ht⟩
    exact .ask r ht

theorem course_query {q : I.Query} {h : List (Exchange I)} {r : I.Answer q} :
    (query q).Course h r ↔ h = [⟨q, r⟩] := by
  constructor
  · intro hc
    obtain ⟨r', t, rfl, ht⟩ := course_ask.1 hc
    obtain ⟨rfl, rfl⟩ := course_done.1 ht
    rfl
  · rintro rfl
    exact .ask r (.done r)

/-- A course of a sequence is a course of its first part and one of its second. -/
theorem course_bind {d : Dialogue I α} {f : α → Dialogue I β} {h : List (Exchange I)} {b : β} :
    (d.bind f).Course h b ↔ ∃ a h₁ h₂, h = h₁ ++ h₂ ∧ d.Course h₁ a ∧ (f a).Course h₂ b := by
  induction d generalizing h with
  | done a =>
    constructor
    · intro hf
      exact ⟨a, [], h, rfl, .done a, hf⟩
    · rintro ⟨c, h₁, h₂, rfl, hd, hf⟩
      obtain ⟨rfl, rfl⟩ := course_done.1 hd
      exact hf
  | ask q next ih =>
    simp only [bind, course_ask, ih]
    constructor
    · rintro ⟨r, t, rfl, a, h₁, h₂, rfl, hd, hf⟩
      exact ⟨a, _ :: h₁, h₂, rfl, ⟨r, h₁, rfl, hd⟩, hf⟩
    · rintro ⟨a, h₁, h₂, rfl, ⟨r, t, rfl, hd⟩, hf⟩
      exact ⟨r, t ++ h₂, rfl, a, t, h₂, rfl, hd, hf⟩

/-! ## Dialogues that may fail -/

section Failing

variable {ε : Type}

/-- How a dialogue goes on after a value only. -/
def afterValue (f : α → ExceptT ε (Dialogue I) β) : Except ε α → Dialogue I (Except ε β)
  | .ok a => (f a).run
  | .error e => .done (.error e)

theorem run_exceptT_bind (x : ExceptT ε (Dialogue I) α) (f : α → ExceptT ε (Dialogue I) β) :
    (x >>= f).run = x.run.bind (afterValue f) := by
  refine congrArg x.run.bind (funext fun a => ?_)
  cases a with
  | ok a => rfl
  | error e => rfl

theorem run_exceptT_bind_of_ok {x : ExceptT ε (Dialogue I) α}
    {f : α → ExceptT ε (Dialogue I) β} {answer : Handler I σ} {a : α} {asked : List I.Query}
    {st st' : σ} (hx : x.run.run answer st = (.ok a, asked, st')) :
    (x >>= f).run.run answer st =
      let (r, asked', st) := (f a).run.run answer st'
      (r, asked ++ asked', st) := by
  rw [run_exceptT_bind, run_bind, hx]
  rfl

/-- A course of a sequence is one of its first part that ends with an error, or one of its first
part that ends with a value and then one of its second. -/
theorem course_exceptT_bind {x : ExceptT ε (Dialogue I) α} {f : α → ExceptT ε (Dialogue I) β}
    {h : List (Exchange I)} {r : Except ε β} :
    (x >>= f).run.Course h r ↔
      (∃ e, x.run.Course h (.error e) ∧ r = .error e) ∨
        ∃ a h₁ h₂, h = h₁ ++ h₂ ∧ x.run.Course h₁ (.ok a) ∧ (f a).run.Course h₂ r := by
  rw [run_exceptT_bind, course_bind]
  constructor
  · rintro ⟨c, h₁, h₂, rfl, hx, hf⟩
    cases c with
    | ok a => exact .inr ⟨a, h₁, h₂, rfl, hx, hf⟩
    | error e =>
      obtain ⟨rfl, rfl⟩ := course_done.1 hf
      exact .inl ⟨e, by rwa [List.append_nil], rfl⟩
  · rintro (⟨e, hx, rfl⟩ | ⟨a, h₁, h₂, rfl, hx, hf⟩)
    · exact ⟨_, h, [], (List.append_nil h).symm, hx, .done _⟩
    · exact ⟨_, h₁, h₂, rfl, hx, hf⟩

end Failing

/-! ## What may be asked -/

/-- Whatever it is answered, the dialogue asks only questions with the property. -/
def Asks (P : I.Query → Prop) : Dialogue I α → Prop
  | done _ => True
  | ask q next => P q ∧ ∀ r, (next r).Asks P

theorem asks_bind {P : I.Query → Prop} {d : Dialogue I α} {f : α → Dialogue I β}
    (hd : d.Asks P) (hf : ∀ a, (f a).Asks P) : (d.bind f).Asks P := by
  induction d with
  | done a => exact hf a
  | ask q next ih => exact ⟨hd.1, fun r => ih r (hd.2 r)⟩

theorem asks_exceptT_bind {ε : Type} {P : I.Query → Prop} {x : ExceptT ε (Dialogue I) α}
    {f : α → ExceptT ε (Dialogue I) β} (hx : x.run.Asks P) (hf : ∀ a, (f a).run.Asks P) :
    (x >>= f).run.Asks P := by
  rw [run_exceptT_bind]
  refine asks_bind hx fun c => ?_
  cases c with
  | ok a => exact hf a
  | error e => trivial

theorem asks_query {P : I.Query → Prop} {q : I.Query} (hq : P q) : (query q).Asks P :=
  ⟨hq, fun _ => trivial⟩

theorem asks_mono {P Q : I.Query → Prop} (hPQ : ∀ q, P q → Q q) {d : Dialogue I α}
    (hd : d.Asks P) : d.Asks Q := by
  induction d with
  | done a => trivial
  | ask q next ih => exact ⟨hPQ q hd.1, fun r => ih r (hd.2 r)⟩

theorem asks_embed {P : J.Query → Prop} {answer : (q : I.Query) → Dialogue J (I.Answer q)}
    (hanswer : ∀ q, (answer q).Asks P) (d : Dialogue I α) : (d.embed answer).Asks P := by
  induction d with
  | done a => trivial
  | ask q next ih => exact asks_bind (hanswer q) ih

theorem Course.asks {P : I.Query → Prop} {d : Dialogue I α} {h : List (Exchange I)} {a : α}
    (hc : d.Course h a) (hd : d.Asks P) : ∀ x ∈ h, P x.question := by
  induction hc with
  | done a => simp
  | ask r _ ih =>
    intro x hx
    rcases List.mem_cons.1 hx with rfl | hx
    · exact hd.1
    · exact ih (hd.2 r) x hx

/-- Surroundings that answer alike what is asked are not told apart. -/
theorem history_congr {P : I.Query → Prop} {answer answer' : Handler I σ}
    (h : ∀ q, P q → ∀ st, answer q st = answer' q st) {d : Dialogue I α} (hd : d.Asks P) (st : σ) :
    d.history answer st = d.history answer' st ∧ d.run answer st = d.run answer' st := by
  induction d generalizing st with
  | done a => exact ⟨rfl, rfl⟩
  | ask q next ih =>
    obtain ⟨hhistory, hrun⟩ := ih (answer' q st).1 (hd.2 _) (answer' q st).2
    simp only [history, run, h q hd.1 st]
    rw [hhistory, hrun]
    exact ⟨rfl, rfl⟩

/-! ## Dialogues in place of questions -/

section Carried

variable {answer : (q : I.Query) → σ → Dialogue J (I.Answer q × σ)} {s s' : σ}

/-- How the exchanges of a course are carried out by others, with the states between them. -/
inductive Carried (answer : (q : I.Query) → σ → Dialogue J (I.Answer q × σ)) :
    σ → List (Exchange I) → List (Exchange J) → σ → Prop
  | nil {s : σ} : Carried answer s [] [] s
  | cons {s s' s'' : σ} {q : I.Query} {r : I.Answer q} {h : List (Exchange I)}
      {k k' : List (Exchange J)} : (answer q s).Course k (r, s') → Carried answer s' h k' s'' →
      Carried answer s (⟨q, r⟩ :: h) (k ++ k') s''

theorem carried_nil {k : List (Exchange J)} : Carried answer s [] k s' ↔ k = [] ∧ s' = s := by
  constructor
  · rintro ⟨⟩
    exact ⟨rfl, rfl⟩
  · rintro ⟨rfl, rfl⟩
    exact .nil

/-- A course of the dialogues that are put in place of questions carries out a course. -/
theorem exists_of_course_interpret {d : Dialogue I α} {k : List (Exchange J)} {a : α}
    (hc : (d.interpret answer s).Course k (a, s')) :
    ∃ h, d.Course h a ∧ Carried answer s h k s' := by
  induction d generalizing s k with
  | done b =>
    obtain ⟨rfl, heq⟩ := course_done.1 hc
    cases heq
    exact ⟨[], .done _, .nil⟩
  | ask q next ih =>
    obtain ⟨⟨r, s₁⟩, k₁, k₂, rfl, hq, hnext⟩ := course_bind.1 hc
    obtain ⟨h, hd, hcarried⟩ := ih r hnext
    exact ⟨⟨q, r⟩ :: h, .ask r hd, .cons hq hcarried⟩

end Carried

end Dialogue

end ServiceAdmin
