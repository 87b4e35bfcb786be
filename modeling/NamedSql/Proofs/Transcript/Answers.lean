import NamedSql.Proofs.Statement.Calls
import NamedSql.Proofs.Transcript.Handle

/-!
# `Proofs.Transcript.Answers` — the first failure is told, and everything is closed

A call on a statement can fail at any step, and each close after it can fail as well. The answer is the first failure
of a step, told with the text as it was written; a close that fails is told only if there is no such failure, and it
keeps no other resource from being closed.

## Contents
- `Core.Live`: a statement that can be bound to and run.
- **Running.** `Answered`, how a run answers, and `Reports`, which says it of a run; `finish_reports` for an operation
  and `Reports.bind` for what is done with its result.
- **Calls before the run.** `Explains` and `Hands`, the same for calls that hand a statement on; `Core.Ends` and
  `Heeds` for the core of a statement, with one lemma for a call on the driver (`onStatement_heeds`) and one for
  several (`forM_heeds`).
- **In place and in a chain.** `HasCore.hands_of_heeds` hands a statement on in either way, and
  `HasCore.bindIndex_refused` for a slot that there is not.
- **Preparing.** `prepare_hands`.
-/

namespace NamedSql

open Transcript

variable {σ ε ε' α β S : Type} {D : Driver σ}

/-- A statement between two calls that have succeeded: it owns a connection and what was prepared on it. -/
def Core.Live (c : Core D) : Prop := ∃ k st, c.handle = ⟨some k, some st, none⟩

namespace Transcript

/-! ## Running -/

/-- How a run answers, after some steps and the closes that follow them. `plan` is what it asks of the statement;
    `tell` is how failures are told, and `quiet` says what the answer may be when everything has succeeded. -/
inductive Answered (plan : List Request) (text : String) (tell : ε → Halt Error) (quiet : Except ε α → Prop) :
    Except ε α → Transcript → Transcript → Prop where
  /-- A step has failed: that is told with the text of the statement, whatever has become of the closes. -/
  | failed {e : ε} {f : Halt Failure} {steps closes : Transcript} (h : Follows plan (some f) steps)
      (he : tell e = f.map (.execute text)) : Answered plan text tell quiet (.error e) steps closes
  /-- Only closes have failed: the first of them is told. -/
  | notReleased {e : ε} {e' : Error} {steps closes : Transcript} (h : Follows plan none steps)
      (hcloses : closes.findSome? Step.refusal? = some e') (he : tell e = .failed e') :
      Answered plan text tell quiet (.error e) steps closes
  | succeeded {r : Except ε α} {steps closes : Transcript} (h : Follows plan none steps)
      (hcloses : closes.findSome? Step.refusal? = none) (hr : quiet r) :
      Answered plan text tell quiet r steps closes

/-- A run takes some steps, and then everything is closed, in order: the cursor if one was opened, the statement and
    the connection. The answer is the one that goes with it. -/
def Reports (plan : List Request) (text : String) (tell : ε → Halt Error) (quiet : Except ε α → Prop)
    (x : Attempt (σ × Transcript) ε α) (s : σ × Transcript) : Prop :=
  ∃ steps closes, (x.apply s).2.2 = s.2 ++ steps ++ closes
    ∧ closes.map Step.closed?
      = (if steps.any Step.opens then [some .cursor] else []) ++ [some .statement, some .connection]
    ∧ Answered plan text tell quiet (x.apply s).1 steps closes

/-- An answer that is a value. -/
def IsValue (r : Except ε α) : Prop := ∃ a, r = .ok a

section
variable {plan : List Request} {up : ε → Halt Failure} {tell : ε' → Halt Error} {wrap : String → ε → ε'}
  {ofRelease : Error → ε'}

theorem finish_reports (hwrap : ∀ text e, tell (wrap text e) = (up e).map (.execute text))
    (hrelease : ∀ e, tell (ofRelease e) = .failed e)
    {op : Attempt (Handle D.transcribed × σ × Transcript) ε α} (hop : Works plan up op) {c : Core D.transcribed}
    (hc : c.Live) (s : σ × Transcript) :
    Reports plan c.text tell IsValue
      (.of fun s => let (r, _, s') := (Core.finish wrap ofRelease op).apply (c, s); (r, s')) s := by
  obtain ⟨k, st, hk⟩ := hc
  obtain ⟨w, T⟩ := s
  obtain ⟨r, st', cursor, w₁, steps, hend, htells, hopens⟩ := hop k st w T
  obtain ⟨released, w₂, closes, hcleanup, hcloses⟩ := cleanup_closes ⟨some k, some st', cursor⟩ w₁ (T ++ steps)
  have hfinish : (Core.finish wrap ofRelease op).apply (c, w, T)
      = (settle ofRelease (r.mapError (wrap c.text)) released, { c with handle := ⟨none, none, none⟩ }, w₂,
          T ++ steps ++ closes) := by
    unfold Core.finish Core.conclude
    simp only [Attempt.of_apply, Core.onHandle_apply, hk, hend, hcleanup]
  refine ⟨steps, closes, ?_, ?_, ?_⟩
  · rw [Attempt.of_apply, hfinish]
  · rw [hcloses.attempted, ← hopens]
    cases cursor with
    | none   => rfl
    | some c => rfl
  · rw [Attempt.of_apply, hfinish]
    have htold := hcloses.told
    cases r with
    | error e => exact .failed htells (hwrap c.text e)
    | ok a    =>
      cases released with
      | error e => exact .notReleased htells htold.symm (hrelease e)
      | ok u    => exact .succeeded htells htold.symm ⟨a, rfl⟩

/-- What is done with the result of a run does not change anything, and answers what it may. -/
theorem Reports.bind {text : String} {tell : ε → Halt Error} {quiet : Except ε β → Prop}
    {x : Attempt (σ × Transcript) ε α} {s : σ × Transcript} (hx : Reports plan text tell IsValue x s)
    {f : α → Attempt (σ × Transcript) ε β} {g : α → Except ε β} (hf : ∀ a s, (f a).apply s = (g a, s))
    (hg : ∀ a, quiet (g a)) : Reports plan text tell quiet (x >>= f) s := by
  obtain ⟨steps, closes, hlog, hcloses, hanswered⟩ := hx
  have hstate : ((x >>= f).apply s).2 = (x.apply s).2 :=
    Attempt.bind_apply_snd (fun a s => congrArg Prod.snd (hf a s)) s
  refine ⟨steps, closes, ?_, hcloses, ?_⟩
  · rw [hstate]
    exact hlog
  · rw [Attempt.bind_apply]
    match hend : x.apply s with
    | (.ok a, s')    =>
      rw [hend] at hanswered
      simp only [hf]
      cases hanswered with
      | succeeded h hnone _ => exact .succeeded h hnone (hg a)
    | (.error e, s') =>
      rw [hend] at hanswered
      cases hanswered with
      | failed h he            => exact .failed h he
      | notReleased h hfirst he => exact .notReleased h hfirst he
      | succeeded h hnone hr    =>
        obtain ⟨a, ha⟩ := hr
        exact absurd ha (by simp)

end

/-! ## Calls before the run -/

/-- How a call answers that is not the run: all that is planned was asked, and nothing was closed; or a step has
    failed, and that is told, as `told` says, and some resources are closed then, whatever becomes of the closes. -/
inductive Explains (plan : List Request) (told : Failure → Error) (rs : List Resource) :
    Option Error → Transcript → Prop where
  | fine {steps : Transcript} (h : Follows plan none steps) : Explains plan told rs none steps
  | failed {f : Failure} {steps closes : Transcript} (h : Follows plan (some (.failed f)) steps)
      (hcloses : closes.map Step.closed? = rs.map some) : Explains plan told rs (some (told f)) (steps ++ closes)

/-- A call that hands a statement on, or lets it go when a step fails. The statement has its text still, and it can be
    bound to and run. -/
def Hands (core : S → Core D.transcribed) (plan : List Request) (told : Failure → Error) (rs : List Resource)
    (text : String) (x : Attempt (σ × Transcript) Error S) (s : σ × Transcript) : Prop :=
  ∃ T, (x.apply s).2.2 = s.2 ++ T ∧ Explains plan told rs (failureOf (x.apply s).1) T
    ∧ ∀ q, (x.apply s).1 = .ok q → (core q).text = text ∧ (core q).Live

/-- A call that fails without a step, because of what was asked of it. -/
def Refuses (e : Error) (rs : List Resource) (x : Attempt (σ × Transcript) Error S) (s : σ × Transcript) : Prop :=
  ∃ w closes, x.apply s = (.error e, w, s.2 ++ closes) ∧ closes.map Step.closed? = rs.map some

end Transcript

namespace Core

/-- How a call on the core of a statement ends. -/
inductive Ends (plan : List Request) (told : Failure → Error) (c : Core D.transcribed) :
    Except Error Unit → Core D.transcribed → Transcript → Prop where
  | kept {c' : Core D.transcribed} {T : Transcript} (h : Follows plan none T) (htext : c'.text = c.text)
      (hlive : c'.Live) : Ends plan told c (.ok ()) c' T
  | gone {c' : Core D.transcribed} {f : Failure} {T closes : Transcript} (h : Follows plan (some (.failed f)) T)
      (hcloses : closes.map Step.closed? = [some .statement, some .connection])
      (hempty : c'.handle = ⟨none, none, none⟩) : Ends plan told c (.error (told f)) c' (T ++ closes)

/-- A call whose end is told by the steps that it takes. -/
def Heeds (plan : List Request) (told : Failure → Error)
    (x : Attempt (Core D.transcribed × σ × Transcript) Error Unit) (c : Core D.transcribed) : Prop :=
  ∀ w T, ∃ r c' w' T', x.apply (c, w, T) = (r, c', w', T ++ T') ∧ Ends plan told c r c' T'

/-- Everything is released, and the error is told all the same. -/
theorem giveUp_closes {c : Core D.transcribed} (hc : c.Live) (e : Error) (w : σ) (T : Transcript) :
    ∃ w' closes, (giveUp e : Attempt _ Error Unit).apply (c, w, T)
        = (.error e, { c with handle := ⟨none, none, none⟩ }, w', T ++ closes)
      ∧ closes.map Step.closed? = [some .statement, some .connection] := by
  obtain ⟨k, st, hk⟩ := hc
  obtain ⟨r, w', closes, hcleanup, hcloses⟩ := cleanup_closes c.handle w T
  refine ⟨w', closes, ?_, ?_⟩
  · unfold giveUp
    rw [Attempt.of_apply]
    simp only [onHandle_apply, hcleanup]
  · rw [hcloses.attempted, hk]
    rfl

section
variable {plan plan' : List Request} {told : Failure → Error} {c : Core D.transcribed}

/-- Steps that go well before a call are no part of how it ends. -/
theorem Ends.after {c₁ c₂ : Core D.transcribed} {r : Except Error Unit} {T₁ T₂ : Transcript}
    (h : Follows plan none T₁) (htext : c₁.text = c.text) (hends : Ends plan' told c₁ r c₂ T₂) :
    Ends (plan ++ plan') told c r c₂ (T₁ ++ T₂) := by
  cases hends with
  | kept h₂ htext₂ hlive   => exact .kept (h.append h₂) (htext₂.trans htext) hlive
  | gone h₂ hcloses hempty =>
    rw [← List.append_assoc]
    exact .gone (h.append h₂) hcloses hempty

/-- A call on the prepared statement, and what follows if it fails. -/
theorem onStatement_heeds (q : Request) (x : Attempt (D.Statement × σ) Failure Unit) (hc : c.Live) :
    Heeds [q] told (do match ← onHandle (Handle.onStatement (D := D.transcribed) (noting (.asked q) x)) with
      | .ok ()   => return ()
      | .error f => giveUp (told f)) c := by
  intro w T
  obtain ⟨text, positional, h⟩ := c
  obtain ⟨k, st, rfl⟩ := hc
  match hx : x.apply (st, w) with
  | (r, st', w') =>
    have hcall : (onHandle (Handle.onStatement (D := D.transcribed) (noting (.asked q) x))).apply
          (⟨text, positional, ⟨some k, some st, none⟩⟩, w, T)
        = ((.ok r : Except Error _), ⟨text, positional, ⟨some k, some st', none⟩⟩, w',
            T ++ [.asked q (failureOf r)]) := by
      rw [onHandle_apply, Handle.onStatement_some (D := D.transcribed), noting_of_apply hx]
    have hlive : Core.Live (D := D.transcribed) ⟨text, positional, ⟨some k, some st', none⟩⟩ := ⟨k, st', rfl⟩
    rw [Attempt.bind_apply, hcall]
    cases r with
    | ok u    => exact ⟨_, _, _, _, rfl, .kept (.single rfl rfl rfl) rfl hlive⟩
    | error f =>
      obtain ⟨w'', closes, hend, hcloses⟩ := giveUp_closes hlive (told f) w' (T ++ [.asked q (some f)])
      refine ⟨.error (told f), ⟨text, positional, ⟨none, none, none⟩⟩, w'', [.asked q (some f)] ++ closes, ?_, ?_⟩
      · rw [← List.append_assoc]
        exact hend
      · exact .gone (.single rfl rfl rfl) hcloses rfl

theorem forM_heeds {x : Nat → Attempt (Core D.transcribed × σ × Transcript) Error Unit} {q : Nat → Request}
    (hx : ∀ slot c, c.Live → Heeds [q slot] told (x slot) c) (slots : List Nat) (hc : c.Live) :
    Heeds (slots.map q) told (slots.forM x) c := by
  intro w T
  induction slots generalizing c w T with
  | nil =>
    refine ⟨.ok (), c, w, [], ?_, .kept .nil rfl hc⟩
    rw [List.append_nil]
    rfl
  | cons slot slots ih =>
    obtain ⟨r, c₁, w₁, T₁, hfirst, hends⟩ := hx slot c hc w T
    show ∃ r c' w' T', (x slot >>= fun _ => slots.forM x).apply (c, w, T) = _ ∧ _
    rw [Attempt.bind_apply, hfirst]
    cases hends with
    | gone h hcloses hempty => exact ⟨_, _, _, _, rfl, .gone (h.failed (slots.map q)) hcloses hempty⟩
    | kept h htext hlive    =>
      obtain ⟨r, c₂, w₂, T₂, hrest, hends₂⟩ := ih hlive w₁ (T ++ T₁)
      refine ⟨r, c₂, w₂, T₁ ++ T₂, ?_, hends₂.after h htext⟩
      rw [← List.append_assoc]
      exact hrest

theorem bindSlot_heeds (name : String) (slot : Nat) (v : Value) (hc : c.Live) :
    Heeds [.bind slot v] (.bind name v.display) (bindSlot name slot v) c :=
  onStatement_heeds (.bind slot v) (D.bind slot v) hc

theorem bind_heeds (name : String) (v : Value) (hc : c.Live) :
    Heeds ((c.positional.slots name).map (.bind · v)) (.bind name v.display) (bind name v) c :=
  forM_heeds (fun slot _ hc => bindSlot_heeds name slot v hc) (c.positional.slots name) hc

theorem addBatch_heeds (hc : c.Live) : Heeds [.addBatch] (.execute c.text) addBatch c :=
  onStatement_heeds .addBatch D.addBatch hc

theorem bindAt_heeds {slot : Nat} (v : Value) (hc : c.Live) (hslot : 1 ≤ slot ∧ slot ≤ c.positional.names.length) :
    Heeds [.bind slot v] (.bind ("#" ++ toString slot) v.display) (bindAt slot v) c := by
  intro w T
  rw [bindAt_of_inRange hslot]
  exact bindSlot_heeds _ slot v hc w T

theorem bindAt_refused {slot : Nat} (v : Value) (hc : c.Live)
    (hslot : ¬ (1 ≤ slot ∧ slot ≤ c.positional.names.length)) (w : σ) (T : Transcript) :
    ∃ w' closes, (bindAt slot v).apply (c, w, T)
        = (.error (.bind ("#" ++ toString slot) v.display (.noSlot slot c.positional.names.length)),
            { c with handle := ⟨none, none, none⟩ }, w', T ++ closes)
      ∧ closes.map Step.closed? = [some .statement, some .connection] := by
  rw [bindAt_of_not_inRange hslot]
  exact giveUp_closes hc _ w T

end

end Core

/-! ## In place and in a chain -/

namespace HasCore

variable [HasCore D.transcribed S]

/-- The statement that a call in place leaves if it succeeds. -/
def left (x : Attempt (S × σ × Transcript) Error Unit) (q : S) : Attempt (σ × Transcript) Error S :=
  .of fun s => let (r, q', s') := x.apply (q, s); (r.map fun _ => q', s')

variable {plan : List Request} {told : Failure → Error} {q : S}
  {x : Attempt (Core D.transcribed × σ × Transcript) Error Unit} {r : Except Error Unit} {c : Core D.transcribed}
  {s s' : σ × Transcript}

theorem left_apply (h : x.apply (core q, s) = (r, c, s')) :
    (left (onCore x) q).apply s = (r.map fun _ => withCore q c, s') := by
  unfold left onCore
  rw [Attempt.of_apply, Attempt.of_apply]
  simp only [h]

/-- A chain that lets a statement go finds nothing to close, if everything has been released. -/
theorem chain_apply (h : x.apply (core q, s) = (r, c, s'))
    (hgone : ∀ e, r = .error e → c.handle = ⟨none, none, none⟩) :
    (chain (onCore x) q).apply s = (r.map fun _ => withCore q c, s') := by
  unfold chain onCore
  rw [Attempt.of_apply, Attempt.of_apply]
  simp only [h]
  cases r with
  | ok u    => rfl
  | error e =>
    have hcleanup : (Handle.cleanup.apply (c.handle, s')).2 = (c.handle, s') := Handle.cleanup_empty (hgone e rfl)
    simp only [core_withCore]
    exact congrArg (fun s : Handle D.transcribed × σ × Transcript => (Except.error e, s.2)) hcleanup

theorem hands_of_ends {y : Attempt (σ × Transcript) Error S} {w : σ} {T : Transcript}
    (hy : y.apply s = (r.map fun _ => withCore q c, w, s.2 ++ T)) (hends : Core.Ends plan told (core q) r c T) :
    Hands core plan told [.statement, .connection] (core q : Core D.transcribed).text y s := by
  refine ⟨T, by rw [hy], ?_, ?_⟩
  · rw [hy, failureOf_map]
    cases hends with
    | kept h htext hlive     => exact .fine h
    | gone h hcloses hempty => exact .failed h hcloses
  · intro q' hq'
    rw [hy] at hq'
    cases hends with
    | gone h hcloses hempty => exact absurd hq' (by simp [Except.map])
    | kept h htext hlive    =>
      obtain rfl := Except.ok.inj hq'
      rw [core_withCore]
      exact ⟨htext, hlive⟩

/-- A call that heeds its steps hands the statement on, in place and in a chain. -/
theorem hands_of_heeds (hx : Core.Heeds plan told x (core q)) (s : σ × Transcript) :
    Hands core plan told [.statement, .connection] (core q : Core D.transcribed).text (left (onCore x) q) s
      ∧ Hands core plan told [.statement, .connection] (core q : Core D.transcribed).text (chain (onCore x) q) s := by
  obtain ⟨r, c, w, T, hend, hends⟩ := hx s.1 s.2
  refine ⟨hands_of_ends (left_apply hend) hends, hands_of_ends (chain_apply hend ?_) hends⟩
  intro e he
  cases hends with
  | kept h htext hlive    => exact absurd he (by simp)
  | gone h hcloses hempty => exact hempty

/-- A value for a slot that there is not. -/
theorem bindIndex_refused (hq : (core q : Core D.transcribed).Live) {slot : Nat}
    (hslot : ¬ (1 ≤ slot ∧ slot ≤ (core q : Core D.transcribed).positional.names.length)) (v : Value)
    (s : σ × Transcript) :
    let e : Error := .bind ("#" ++ toString slot) v.display
      (.noSlot slot (core q : Core D.transcribed).positional.names.length)
    Refuses e [.statement, .connection] (left (bindIndex slot v) q) s
      ∧ Refuses e [.statement, .connection] (setAt q slot v) s := by
  intro e
  obtain ⟨w, closes, hend, hcloses⟩ := Core.bindAt_refused v hq hslot s.1 s.2
  exact ⟨⟨w, closes, left_apply hend, hcloses⟩, ⟨w, closes, chain_apply hend fun _ _ => rfl, hcloses⟩⟩

end HasCore

/-! ## Preparing -/

namespace Transcript

/-- If nothing can be prepared on a connection, the connection is closed. -/
theorem prepare_hands (k : D.Connection) (text : String) (keys : KeyCapture) (s : σ × Transcript) :
    Hands id [.prepare (Positional.ofNamed text).text keys] (.prepare text) [.connection] text
      (Core.prepare (D := D.transcribed) k text keys) s := by
  obtain ⟨w, T⟩ := s
  match hprepare : (D.prepare (Positional.ofNamed text).text keys).apply (k, w) with
  | (.ok st, k', w')   =>
    have hend := Core.prepare_of_ok (D := D.transcribed) (noting_of_apply hprepare _ T)
    refine ⟨_, by rw [hend], ?_, ?_⟩
    · rw [hend]
      exact .fine (.single rfl rfl rfl)
    · intro c hc
      rw [hend] at hc
      obtain rfl := Except.ok.inj hc
      exact ⟨rfl, k', st, rfl⟩
  | (.error f, k', w') =>
    have hend := Core.prepare_of_error (D := D.transcribed) (noting_of_apply hprepare _ T)
    let failed : Step := .asked (.prepare (Positional.ofNamed text).text keys) (some f)
    obtain ⟨r, w'', closes, hcleanup, hcloses⟩ := cleanup_closes (D := D) ⟨some k', none, none⟩ w' (T ++ [failed])
    unfold Handle.discard at hend
    rw [show failureOf (.error f : Except Failure D.Statement) = some f from rfl, hcleanup] at hend
    refine ⟨[failed] ++ closes, ?_, ?_, ?_⟩
    · rw [hend, ← List.append_assoc]
    · rw [hend]
      exact .failed (.single rfl rfl rfl) hcloses.attempted
    · intro c hc
      rw [hend] at hc
      exact absurd hc (by simp)

/-- What is made of a statement that was prepared. -/
theorem Hands.map {core : S → Core D.transcribed} {plan : List Request} {told : Failure → Error} {rs : List Resource}
    {text : String} {x : Attempt (σ × Transcript) Error (Core D.transcribed)} {s : σ × Transcript}
    (hx : Hands id plan told rs text x s) {g : Core D.transcribed → S} (hg : ∀ c, core (g c) = c) :
    Hands core plan told rs text (x >>= fun c => Pure.pure (g c)) s := by
  obtain ⟨T, hlog, hexplains, hlive⟩ := hx
  rw [bind_pure_comp]
  refine ⟨T, ?_, ?_, ?_⟩
  · rw [Attempt.map_apply]
    exact hlog
  · rw [Attempt.map_apply, failureOf_map]
    exact hexplains
  · intro q hq
    rw [Attempt.map_apply] at hq
    match hend : (x.apply s).1 with
    | .error e =>
      rw [hend] at hq
      exact absurd hq (by simp [Except.map])
    | .ok c    =>
      rw [hend] at hq
      obtain rfl : g c = q := Except.ok.inj hq
      rw [hg]
      exact hlive c hend

end Transcript

end NamedSql
