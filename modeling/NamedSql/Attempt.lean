/-!
# `NamedSql.Attempt` — steps on a state that may fail

Every call on a database changes something and may fail, and what it changed stays changed when it fails.

## Contents
- `Attempt`: a step that keeps its state either way; `bind_apply`, `pure_apply`, `throw_apply` and their like
  say how steps follow each other.
- `Attempt.reword`: a step with its failures reworded.
- `Attempt.within`: a step on a part of a larger state.
-/

namespace NamedSql

/-- A step on a state `σ` that answers an `α` or fails with an `ε`, and leaves a state in both cases. -/
abbrev Attempt (σ ε α : Type) := ExceptT ε (StateM σ) α

namespace Attempt

variable {σ τ ε ε' α β : Type}

/-- The step that a function describes. -/
def of (f : σ → Except ε α × σ) : Attempt σ ε α := f

/-- How a step goes from a given state. -/
def apply (x : Attempt σ ε α) (s : σ) : Except ε α × σ := x s

@[simp] theorem of_apply (f : σ → Except ε α × σ) (s : σ) : apply (of f) s = f s := rfl

@[simp] theorem pure_apply (a : α) (s : σ) : apply (pure a : Attempt σ ε α) s = (.ok a, s) := rfl

@[simp] theorem throw_apply (e : ε) (s : σ) : apply (throw e : Attempt σ ε α) s = (.error e, s) := rfl

@[simp] theorem get_apply (s : σ) : apply (get : Attempt σ ε σ) s = (.ok s, s) := rfl

@[simp] theorem bind_apply (x : Attempt σ ε α) (f : α → Attempt σ ε β) (s : σ) :
    apply (x >>= f) s =
      match apply x s with
      | (.ok a, s')    => apply (f a) s'
      | (.error e, s') => (.error e, s') := by
  simp only [apply, bind, ExceptT.bind, ExceptT.mk, StateT.bind]
  generalize x s = r
  obtain ⟨a | a, s'⟩ := r <;> rfl

@[simp] theorem map_apply (f : α → β) (x : Attempt σ ε α) (s : σ) :
    apply (f <$> x) s = ((apply x s).1.map f, (apply x s).2) := by
  simp only [apply, Functor.map, ExceptT.map, ExceptT.mk, bind, StateT.bind]
  generalize x s = r
  obtain ⟨a | a, s'⟩ := r <;> rfl

/-- A step whose failures are told in other words. -/
def reword (f : ε → ε') (x : Attempt σ ε α) : Attempt σ ε' α :=
  of fun s => let (r, s') := x s; (r.mapError f, s')

/-- A step on a part of the state. -/
def within (get : τ → σ) (put : σ → τ → τ) (x : Attempt σ ε α) : Attempt τ ε α :=
  of fun t => let (r, s') := x (get t); (r, put s' t)

@[simp] theorem reword_apply (f : ε → ε') (x : Attempt σ ε α) (s : σ) :
    apply (reword f x) s = ((apply x s).1.mapError f, (apply x s).2) := rfl

@[simp] theorem within_apply (get : τ → σ) (put : σ → τ → τ) (x : Attempt σ ε α) (t : τ) :
    apply (within get put x) t = ((apply x (get t)).1, put (apply x (get t)).2 t) := rfl

end Attempt

end NamedSql
