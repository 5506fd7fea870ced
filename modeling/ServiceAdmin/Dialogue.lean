/-!
# Dialogues

A program that needs its surroundings is a dialogue: it ends with a result, or it asks something
and goes on with the answer.  Whoever runs it decides what is answered, so that one program works
on the real platform and network, and in statements on every possible one.  `run` also gives the
questions in the order in which they were asked.
-/

namespace ServiceAdmin

/-- The questions that may be asked, and the kind of answer to each. -/
structure Interface where
  Query : Type
  Answer : Query → Type

inductive Dialogue (I : Interface) (α : Type)
  | done (a : α)
  | ask (q : I.Query) (next : I.Answer q → Dialogue I α)

namespace Dialogue

variable {I J : Interface} {α β σ : Type}

def bind : Dialogue I α → (α → Dialogue I β) → Dialogue I β
  | done a, f => f a
  | ask q next, f => ask q fun r => (next r).bind f

instance : Monad (Dialogue I) where
  pure := done
  bind := bind

/-- Asks one question. -/
def query (q : I.Query) : Dialogue I (I.Answer q) := ask q done

/-- Answers of surroundings in a state `σ`, which may change. -/
abbrev Handler (I : Interface) (σ : Type) := (q : I.Query) → σ → I.Answer q × σ

/-- The result, the questions in their order, and the state that is left. -/
def run (answer : Handler I σ) : Dialogue I α → σ → α × List I.Query × σ
  | done a, st => (a, [], st)
  | ask q next, st =>
    let (r, st) := answer q st
    let (a, asked, st) := (next r).run answer st
    (a, q :: asked, st)

/-- Puts a dialogue in place of each question; a state is kept between them. -/
def interpret (answer : (q : I.Query) → σ → Dialogue J (I.Answer q × σ)) :
    Dialogue I α → σ → Dialogue J (α × σ)
  | done a, st => done (a, st)
  | ask q next, st => (answer q st).bind fun (r, st) => (next r).interpret answer st

/-- Puts a dialogue in place of each question. -/
def embed (answer : (q : I.Query) → Dialogue J (I.Answer q)) : Dialogue I α → Dialogue J α
  | done a => done a
  | ask q next => (answer q).bind fun r => (next r).embed answer

theorem bind_done (d : Dialogue I α) : d.bind done = d := by
  induction d with
  | done a => rfl
  | ask q next ih => simp only [bind, ih]

theorem bind_assoc {γ : Type} (d : Dialogue I α) (f : α → Dialogue I β) (g : β → Dialogue I γ) :
    (d.bind f).bind g = d.bind fun a => (f a).bind g := by
  induction d with
  | done a => rfl
  | ask q next ih => simp only [bind, ih]

instance : LawfulMonad (Dialogue I) :=
  LawfulMonad.mk' (Dialogue I) bind_done (fun _ _ => rfl) bind_assoc

end Dialogue

end ServiceAdmin
