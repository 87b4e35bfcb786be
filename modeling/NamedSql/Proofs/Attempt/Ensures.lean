import NamedSql.Attempt

/-!
# `Proofs.Attempt.Ensures` — what a step that may fail makes sure of

## Contents
- `Attempt.bind_apply_snd`: a step followed by one that changes nothing. `Attempt.bind_of_error`: a step that
  fails, and what should have followed it. `Attempt.bind_fst_of_ok`, `Attempt.bind_pure_fst`: what the second of two
  steps answers. `Attempt.reword_id`: failures that are told as they are. `Attempt.ok_of_bind`, `Attempt.ok_of_map`:
  steps that succeed together, `Attempt.exists_of_bind_ok` where there is no state, and `Attempt.exists_of_map_ok`
  where nothing is done but the answer worked on.
- `Attempt.Ensures`: from which states a step starts, where it ends when it succeeds, and where when it fails.
- Its rules: `Ensures.bind` for steps one after the other, `Ensures.reword`, `Ensures.pure`, `Ensures.throw`,
  `Ensures.get`, and `Ensures.forM` for one step per element; `Ensures.mono` for weaker ends and
  `Ensures.of_pre` for fewer beginnings; `Ensures.always` and `Ensures.state` for ends that do not depend on
  how the step went.
-/

namespace NamedSql.Attempt

variable {σ ε ε' α β : Type}

/-- From a state where `P` holds a step ends where `Q` holds of its answer and the new state, or, if it fails,
    where `E` holds of the failure and the new state. -/
def Ensures (P : σ → Prop) (x : Attempt σ ε α) (Q : α → σ → Prop) (E : ε → σ → Prop) : Prop :=
  ∀ s, P s →
    match x.apply s with
    | (.ok a, s')    => Q a s'
    | (.error e, s') => E e s'

/-- A step after which nothing changes any more. -/
theorem bind_apply_snd {x : Attempt σ ε α} {f : α → Attempt σ ε β} (hf : ∀ a s, ((f a).apply s).2 = s) (s : σ) :
    ((x >>= f).apply s).2 = (x.apply s).2 := by
  rw [bind_apply]
  match x.apply s with
  | (.ok a, s')    => exact hf a s'
  | (.error e, s') => rfl

/-- What fails first fails altogether. -/
theorem bind_of_error {x : Attempt σ ε α} {e : ε} {s s' : σ} (h : x.apply s = (.error e, s'))
    (f : α → Attempt σ ε β) : (x >>= f).apply s = (.error e, s') := by
  rw [bind_apply, h]

theorem bind_fst_of_ok {x : Attempt σ ε α} {a : α} {s s' : σ} (h : x.apply s = (.ok a, s'))
    (f : α → Attempt σ ε β) : ((x >>= f).apply s).1 = ((f a).apply s').1 := by
  rw [bind_apply, h]

theorem bind_pure_fst (x : Attempt σ ε α) (g : α → β) (s : σ) :
    ((x >>= fun a => Pure.pure (g a)).apply s).1 = (x.apply s).1.map g := by
  rw [bind_pure_comp, map_apply]

theorem reword_id (x : Attempt σ ε α) : x.reword id = x := by
  funext s
  show (((x.apply s).1.mapError id, (x.apply s).2) : Except ε α × σ) = x.apply s
  rcases x.apply s with ⟨e | a, s'⟩
  · rfl
  · rfl

/-- If two steps succeed, both of them do. -/
theorem ok_of_bind {x : Attempt σ ε α} {f : α → Attempt σ ε β} {b : β} {s s' : σ}
    (h : (x >>= f).apply s = (.ok b, s')) :
    ∃ a s₁, x.apply s = (.ok a, s₁) ∧ (f a).apply s₁ = (.ok b, s') := by
  rw [bind_apply] at h
  match hx : x.apply s with
  | (.ok a, s₁)    =>
    rw [hx] at h
    exact ⟨a, s₁, rfl, h⟩
  | (.error e, s₁) =>
    rw [hx] at h
    exact absurd h (by simp)

theorem exists_of_bind_ok {x : Except ε α} {f : α → Except ε β} {b : β} (h : x >>= f = .ok b) :
    ∃ a, x = .ok a ∧ f a = .ok b := by
  cases x with
  | error e => exact absurd h (by simp [bind, Except.bind])
  | ok a    => exact ⟨a, rfl, h⟩

theorem exists_of_map_ok {x : Except ε α} {g : α → β} {b : β} (h : x.map g = .ok b) : ∃ a, x = .ok a ∧ b = g a := by
  cases x with
  | error e => simp [Except.map] at h
  | ok a    => exact ⟨a, rfl, by simpa [Except.map] using h.symm⟩

theorem ok_of_map {x : Attempt σ ε α} {g : α → β} {b : β} {s s' : σ}
    (h : (x >>= fun a => Pure.pure (g a)).apply s = (.ok b, s')) : ∃ a, x.apply s = (.ok a, s') ∧ g a = b := by
  obtain ⟨a, s₁, hx, hend⟩ := ok_of_bind h
  obtain ⟨hb, rfl⟩ := Prod.mk.inj hend
  exact ⟨a, hx, Except.ok.inj hb⟩

namespace Ensures

variable {P : σ → Prop} {x : Attempt σ ε α} {Q Q' : α → σ → Prop} {E E' : ε → σ → Prop}

theorem pure (a : α) (h : ∀ s, P s → Q a s) : Ensures P (Pure.pure a : Attempt σ ε α) Q E := h

theorem throw (e : ε) (h : ∀ s, P s → E e s) : Ensures P (MonadExcept.throw e : Attempt σ ε α) Q E := h

theorem get {Q : σ → σ → Prop} (h : ∀ s, P s → Q s s) : Ensures P (MonadState.get : Attempt σ ε σ) Q E := h

/-- What holds of the new state whether or not the step fails. -/
theorem always {R : σ → Prop} (h : ∀ s, P s → R (x.apply s).2) :
    Ensures P x (fun _ s => R s) (fun _ s => R s) := by
  intro s hs
  have hend := h s hs
  match hx : x.apply s with
  | (.ok a, s')    => rwa [hx] at hend
  | (.error e, s') => rwa [hx] at hend

theorem state {R : σ → Prop} (h : Ensures P x (fun _ s => R s) (fun _ s => R s)) {s : σ} (hs : P s) :
    R (x.apply s).2 := by
  have hend := h s hs
  match hx : x.apply s with
  | (.ok a, s')    => rwa [hx] at hend
  | (.error e, s') => rwa [hx] at hend

theorem of_pre {P' : σ → Prop} (h : Ensures P x Q E) (hp : ∀ s, P' s → P s) : Ensures P' x Q E :=
  fun s hs => h s (hp s hs)

theorem mono (h : Ensures P x Q E) (hq : ∀ a s, Q a s → Q' a s) (he : ∀ e s, E e s → E' e s) :
    Ensures P x Q' E' := by
  intro s hs
  have hend := h s hs
  match hx : x.apply s with
  | (.ok a, s') =>
    rw [hx] at hend
    exact hq a s' hend
  | (.error e, s') =>
    rw [hx] at hend
    exact he e s' hend

/-- Where one step ends the next one starts. A failure of the first is the end of both. -/
theorem bind {f : α → Attempt σ ε β} {R : β → σ → Prop} (hx : Ensures P x Q E)
    (hf : ∀ a, Ensures (Q a) (f a) R E) : Ensures P (x >>= f) R E := by
  intro s hs
  have hend := hx s hs
  rw [bind_apply]
  match hxs : x.apply s with
  | (.ok a, s') =>
    rw [hxs] at hend
    exact hf a s' hend
  | (.error e, s') =>
    rw [hxs] at hend
    exact hend

theorem reword {f : ε → ε'} {F : ε' → σ → Prop} (h : Ensures P x Q E) (hf : ∀ e s, E e s → F (f e) s) :
    Ensures P (x.reword f) Q F := by
  intro s hs
  have hend := h s hs
  rw [reword_apply]
  match hxs : x.apply s with
  | (.ok a, s') =>
    rw [hxs] at hend
    exact hend
  | (.error e, s') =>
    rw [hxs] at hend
    exact hf e s' hend

/-- A step for each element of a list, when each of them starts and ends in the same way. -/
theorem forM {γ : Type} {f : γ → Attempt σ ε PUnit} (l : List γ) (h : ∀ a, Ensures P (f a) (fun _ => P) E) :
    Ensures P (l.forM f) (fun _ => P) E := by
  induction l with
  | nil => exact pure _ fun _ hs => hs
  | cons a l ih => exact bind (h a) fun _ => ih

end Ensures

end NamedSql.Attempt
