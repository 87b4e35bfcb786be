import NamedSql.Proofs.Transcript.Operations
import NamedSql.Proofs.Value.Nulls
import NamedSql.Rehearsal.Driver

/-!
# `Proofs.Transcript.FirstKey` — an update with a generated key

An update can be run in two ways: one answers the key that was generated, or else the number of affected rows; the
other one insists on a key. Both do the same, and everything is released before either of them answers.

## Contents
- `KeyRow`: what is done with a row of keys, with `keyRow_depicts`. `KeyRead`, the ways in which reading the first key
  can end, and `firstKey_depicted`.
- `Update.inserting`: the operation that both ways have in common. `Update.run_map`: a result can be worked on before
  the release or after it.
- `Update.execute_apply`, `Update.executeReturningKey_apply`: what each way makes of a run of it (`Update.demanded`).
- `Inserting`: what it does, with `run_inserting_iff`. `Updating.error_eq`: what can be told of an update that fails.
- `Inserted`: an update in which everything succeeds, with its count and its key; `updating_inserting_iff`.
- `Update.execute_and_key_agree`; `Rehearsal.insertion` is an update that has a key.
-/

namespace NamedSql

namespace Transcript

variable {σ α β : Type} {D : Driver σ}

/-! ## The first key -/

/-- What is done with a row of keys, whatever its number: its first column is read, and as a key. -/
inductive KeyRow (k : Nat) (c : D.Cursor) (w : σ) : Except Failure (Option Int64) → σ → Transcript → Prop where
  | read {w' : σ} {answer : Except Failure Value} {r : Except Failure (Option Int64)}
      (hget : (D.get c 1).apply w = (answer, w')) (hkey : answer.bind (Value.read .bigInt) = r) :
      KeyRow k c w r w' [.read 1 answer]

theorem keyRow_depicts : DepictsRow (KeyRow (D := D)) fun _ c => Update.key (D := D.transcribed) c where
  sound := by
    intro k c w w' r steps h T
    cases h with
    | @read _ answer _ hget hkey =>
      have hnoted : (D.transcribed.get c 1).apply (w, T) = (answer, w', T ++ [.read 1 answer]) := by
        show (noted (.read 1) (D.get c 1)).apply (w, T) = _
        unfold noted
        rw [Attempt.of_apply]
        simp only [hget]
      have hread := D.transcribed.getAs_apply (.typed .bigInt) c 1 (w, T)
      rw [hnoted] at hread
      subst hkey
      exact hread
  total k c w := ⟨_, _, _, .read rfl rfl⟩

/-- A row that is read as a key has a value. -/
theorem KeyRow.ok {k : Nat} {c : D.Cursor} {w w' : σ} {key : Option Int64} {steps : Transcript}
    (h : KeyRow k c w (.ok key) w' steps) :
    ∃ v, (D.get c 1).apply w = (.ok v, w') ∧ v.read .bigInt = .ok key := by
  cases h with
  | @read _ answer _ hget hkey =>
    cases answer with
    | error f => simp [Except.bind] at hkey
    | ok v    => exact ⟨v, hget, hkey⟩

/-- The ways in which reading the first key of a cursor can end. -/
inductive KeyRead (c : D.Cursor) (w : σ) : Except Failure (Option Int64) → D.Cursor → σ → Transcript → Prop where
  | unmoved {c' : D.Cursor} {w' : σ} {f : Failure} (hmove : D.next.apply (c, w) = (.error f, c', w')) :
      KeyRead c w (.error f) c' w' [.moved (some f)]
  | noRow {c' : D.Cursor} {w' : σ} (hmove : D.next.apply (c, w) = (.ok false, c', w')) :
      KeyRead c w (.ok none) c' w' [.moved none]
  /-- There is a row, whether or not the key in it can be read. -/
  | row {c' : D.Cursor} {w₁ w' : σ} {r : Except Failure (Option Int64)} {steps : Transcript}
      (hmove : D.next.apply (c, w) = (.ok true, c', w₁)) (hrow : KeyRow 1 c' w₁ r w' steps) :
      KeyRead c w r c' w' (.moved none :: steps)

theorem firstKey_depicted : Depicts (KeyRead (D := D)) (Update.firstKey (D := D.transcribed)) where
  sound := by
    intro c c' w w' r steps h T
    unfold Update.firstKey
    rw [Attempt.bind_apply]
    cases h with
    | unmoved hmove | noRow hmove =>
      rw [noting_of_apply hmove .moved T]
      rfl
    | row hmove hrow =>
      have hread := keyRow_depicts.sound hrow (T ++ [.moved none])
      rw [List.append_assoc] at hread
      rw [noting_of_apply hmove .moved T]
      exact congrArg (fun s : Except Failure (Option Int64) × σ × Transcript => (s.1, c', s.2)) hread
  total c w := by
    match hmove : D.next.apply (c, w) with
    | (.error f, c₁, w₁)  => exact ⟨_, _, _, _, .unmoved hmove⟩
    | (.ok false, c₁, w₁) => exact ⟨_, _, _, _, .noRow hmove⟩
    | (.ok true, c₁, w₁)  =>
      obtain ⟨r, w₂, steps, hrow⟩ := keyRow_depicts.total 1 c₁ w₁
      exact ⟨_, _, _, _, .row hmove hrow⟩

end Transcript

/-! ## What both ways have in common -/

namespace Update

variable {σ α β : Type} {D : Driver σ}

/-- The update, and then the first key: the number of affected rows, and the key if there is one. -/
def inserting : Attempt (Handle D × σ) Failure (Int64 × Option Int64) := do
  let count ← Handle.call D.executeUpdate
  let key ← Handle.withKeys id firstKey
  return (count, key)

/-- The key that is insisted on. -/
def demanded (text : String) : Int64 × Option Int64 → Except Error Int64
  | (_, some k) => .ok k
  | (_, none)   => .error (.noGeneratedKey text)

theorem settle_map (ofRelease : Error → Error) (g : α → β) (outcome : Except Error α) (released : Except Error Unit) :
    settle ofRelease (outcome.map g) released = (settle ofRelease outcome released).map g := by
  match outcome, released with
  | .ok _, .ok ()   => rfl
  | .ok _, .error _ => rfl
  | .error _, _     => rfl

/-- It makes no difference whether the result of an operation is worked on before the release or after it. -/
theorem run_map (u : Update D) (g : α → β) (op : Attempt (Handle D × σ) Failure α) :
    u.run (g <$> op) = g <$> u.run op := by
  funext w
  show (u.run (g <$> op)).apply w = (g <$> u.run op).apply w
  rw [Attempt.map_apply]
  unfold run Core.finish Core.conclude
  simp only [Attempt.of_apply, Core.onHandle_apply, Attempt.map_apply]
  have hworded (r : Except Failure α) (wrap : Failure → Error) :
      (r.map g).mapError wrap = (r.mapError wrap).map g := by
    cases r with
    | ok a    => rfl
    | error f => rfl
  rw [hworded, settle_map]

theorem execute_apply (u : Update D) (w : σ) :
    u.execute.apply w
      = (((u.run inserting).apply w).1.map fun p => p.2.getD p.1, ((u.run inserting).apply w).2) := by
  have hop : u.execute = (fun p : Int64 × Option Int64 => p.2.getD p.1) <$> u.run inserting := by
    rw [← run_map, inserting]
    simp only [map_bind, map_pure]
    rfl
  rw [hop, Attempt.map_apply]

theorem executeReturningKey_apply (u : Update D) (w : σ) :
    u.executeReturningKey.apply w
      = (((u.run inserting).apply w).1.bind (demanded u.core.text), ((u.run inserting).apply w).2) := by
  have hop : (Prod.snd <$> u.run inserting) = u.run (do
      let _ ← Handle.call D.executeUpdate
      Handle.withKeys id firstKey) := by
    rw [← run_map, inserting]
    simp only [map_bind, map_pure, bind_pure]
  unfold executeReturningKey
  rw [← hop, Attempt.bind_apply, Attempt.map_apply]
  match (u.run inserting).apply w with
  | (.error e, w')           => rfl
  | (.ok (count, some k), w') => rfl
  | (.ok (count, none), w')   => rfl

/-! What is made of the outcome of a run. -/

section
variable {r : Except Error (Int64 × Option Int64)} {text : String}

theorem demanded_eq_ok_iff {k : Int64} : r.bind (demanded text) = .ok k ↔ ∃ count, r = .ok (count, some k) := by
  match r with
  | .error e            => simp [Except.bind]
  | .ok (count, none)   => simp [Except.bind, demanded]
  | .ok (count, some l) => simp [Except.bind, demanded]

theorem map_eq_error_iff (g : Int64 × Option Int64 → Int64) {e : Error} : r.map g = .error e ↔ r = .error e := by
  cases r with
  | error e' => simp [Except.map]
  | ok p     => simp [Except.map]

theorem demanded_eq_noKey_iff (hr : ∀ t, r ≠ .error (.noGeneratedKey t)) {t : String} :
    r.bind (demanded text) = .error (.noGeneratedKey t) ↔ t = text ∧ ∃ count, r = .ok (count, none) := by
  match r with
  | .error e            =>
    have hne : Except.error e ≠ Except.error (.noGeneratedKey t) := hr t
    simpa [Except.bind] using hne
  | .ok (count, none)   => simp [Except.bind, demanded, eq_comm]
  | .ok (count, some l) => simp [Except.bind, demanded]

/-- Apart from the key that there is not, nothing else goes wrong when a key is insisted on. -/
theorem demanded_eq_error_iff {e : Error} (he : ∀ t, e ≠ .noGeneratedKey t) :
    r.bind (demanded text) = .error e ↔ r = .error e := by
  match r with
  | .error e'           => simp [Except.bind]
  | .ok (count, none)   =>
    have hne : e ≠ .noGeneratedKey text := he text
    simpa [Except.bind, demanded] using hne.symm
  | .ok (count, some l) => simp [Except.bind, demanded]

end

end Update

namespace Transcript

variable {σ α : Type} {D : Driver σ}

/-! ## What is done -/

/-- What an update does before the release: it is run, and its keys are opened and the first of them is read. -/
abbrev Inserting :
    Handle D.transcribed → σ → Except Failure (Int64 × Option Int64) → Handle D.transcribed → σ → Transcript → Prop :=
  Then (Asking id .executeUpdate D.executeUpdate) fun count =>
    Mapping (count, ·) (Working id .generatedKeys D.generatedKeys KeyRead)

theorem inserting_depicted : Depicts (Inserting (D := D)) (Update.inserting (D := D.transcribed)) :=
  (bareCall_depicted .executeUpdate D.executeUpdate).bind fun count =>
    (withCursor_depicted firstKey_depicted id .generatedKeys D.generatedKeys).map (count, ·)

theorem run_inserting_iff {c : Core D.transcribed} {w w' : σ} {T T' : Transcript}
    {r : Except Error (Int64 × Option Int64)} :
    ((⟨c⟩ : Update D.transcribed).run Update.inserting).apply (w, T) = (r, w', T')
      ↔ ∃ c' steps, T' = T ++ steps ∧ Updating Inserting c w r c' w' steps :=
  update_run_apply_iff inserting_depicted _

/-- A run that fails is told about with its text, or it is a resource that does not close. -/
theorem Updating.error_eq
    {O : Handle D.transcribed → σ → Except Failure α → Handle D.transcribed → σ → Transcript → Prop}
    {c c' : Core D.transcribed} {w w' : σ} {e : Error} {steps : Transcript}
    (h : Updating O c w (.error e) c' w' steps) :
    (∃ f, e = .execute c.text f) ∨ ∃ kind f, e = .release kind f := by
  cases h with
  | failed ho hr      => exact .inl ⟨_, rfl⟩
  | notReleased ho hr => exact .inr hr.error_eq

/-- An update in which everything succeeds, the closes too, with the number of affected rows and its first key. -/
inductive Inserted (c : Core D.transcribed) (w : σ) : Int64 → Option Int64 → Prop where
  | noRow {h₁ h₂ h' : Handle D.transcribed} {cursor behind : D.Cursor} {w₁ w₂ w₃ w' : σ} {T₁ T₂ closes : Transcript}
      {count : Int64} (hcount : Asking id .executeUpdate D.executeUpdate c.handle w (.ok count) h₁ w₁ T₁)
      (ho : Opening .generatedKeys D.generatedKeys h₁ w₁ (.ok cursor) h₂ w₂ T₂)
      (hmove : D.next.apply (cursor, w₂) = (.ok false, behind, w₃))
      (hr : Releasing { h₂ with cursor := some behind } w₃ (.ok ()) h' w' closes) : Inserted c w count none
  | null {h₁ h₂ h' : Handle D.transcribed} {cursor first : D.Cursor} {w₁ w₂ w₃ w₄ w' : σ} {T₁ T₂ closes : Transcript}
      {count : Int64} (type : SqlType)
      (hcount : Asking id .executeUpdate D.executeUpdate c.handle w (.ok count) h₁ w₁ T₁)
      (ho : Opening .generatedKeys D.generatedKeys h₁ w₁ (.ok cursor) h₂ w₂ T₂)
      (hmove : D.next.apply (cursor, w₂) = (.ok true, first, w₃))
      (hget : (D.get first 1).apply w₃ = (.ok (.null type), w₄))
      (hr : Releasing { h₂ with cursor := some first } w₄ (.ok ()) h' w' closes) : Inserted c w count none
  | key {h₁ h₂ h' : Handle D.transcribed} {cursor first : D.Cursor} {w₁ w₂ w₃ w₄ w' : σ} {T₁ T₂ closes : Transcript}
      {count k : Int64} {v : Value}
      (hcount : Asking id .executeUpdate D.executeUpdate c.handle w (.ok count) h₁ w₁ T₁)
      (ho : Opening .generatedKeys D.generatedKeys h₁ w₁ (.ok cursor) h₂ w₂ T₂)
      (hmove : D.next.apply (cursor, w₂) = (.ok true, first, w₃))
      (hget : (D.get first 1).apply w₃ = (.ok v, w₄)) (hkey : v.read .bigInt = .ok (some k))
      (hr : Releasing { h₂ with cursor := some first } w₄ (.ok ()) h' w' closes) : Inserted c w count (some k)

theorem updating_inserting_iff {c : Core D.transcribed} {w : σ} {count : Int64} {key : Option Int64} :
    (∃ c' w' steps, Updating Inserting c w (.ok (count, key)) c' w' steps) ↔ Inserted c w count key := by
  constructor
  · rintro ⟨c', w', steps, hrun⟩
    cases hrun with
    | finished ho hr =>
      cases ho with
      | both hcount hmapped =>
        obtain ⟨key', hkeys, hpair⟩ := Mapping.ok_iff.mp hmapped
        obtain ⟨rfl, rfl⟩ := Prod.mk.inj hpair
        cases hkeys with
        | worked ho hread =>
          cases hread with
          | noRow hmove => exact .noRow hcount ho hmove hr
          | row hmove hrow =>
            obtain ⟨v, hget, hread⟩ := hrow.ok
            cases key' with
            | some k => exact .key hcount ho hmove hget hread hr
            | none   =>
              obtain ⟨type, rfl⟩ := Value.eq_null_of_isNull (Value.read_eq_none_iff.mp hread)
              exact .null type hcount ho hmove hget hr
  · intro h
    -- Every step succeeds, and so the whole does.
    have hdone {key : Option Int64} {h₁ h₂ h' : Handle D.transcribed} {cursor left : D.Cursor} {w₁ w₂ w₃ w' : σ}
        {T₁ T₂ T₃ closes : Transcript}
        (hcount : Asking id .executeUpdate D.executeUpdate c.handle w (.ok count) h₁ w₁ T₁)
        (ho : Opening .generatedKeys D.generatedKeys h₁ w₁ (.ok cursor) h₂ w₂ T₂)
        (hread : KeyRead cursor w₂ (.ok key) left w₃ T₃)
        (hr : Releasing { h₂ with cursor := some left } w₃ (.ok ()) h' w' closes) :
        ∃ c' w' steps, Updating Inserting c w (.ok (count, key)) c' w' steps := by
      have hworked : Working id .generatedKeys D.generatedKeys KeyRead h₁ w₁ (.ok key) _ w₃ _ := .worked ho hread
      exact ⟨_, _, _, .finished (.both hcount (Mapping.ok_iff.mpr ⟨key, hworked, rfl⟩)) hr⟩
    cases h with
    | noRow hcount ho hmove hr         => exact hdone hcount ho (.noRow hmove) hr
    | null type hcount ho hmove hget hr =>
      have hnull : (Value.null type).read .bigInt = .ok none := Value.read_null .bigInt type
      exact hdone hcount ho (.row hmove (.read hget hnull)) hr
    | key hcount ho hmove hget hkey hr => exact hdone hcount ho (.row hmove (.read hget hkey)) hr

/-- What the run answers, without the rest. -/
theorem run_inserting_fst_iff {c : Core D.transcribed} {w : σ} {T : Transcript}
    {r : Except Error (Int64 × Option Int64)} :
    (((⟨c⟩ : Update D.transcribed).run Update.inserting).apply (w, T)).1 = r
      ↔ ∃ c' w' steps, Updating Inserting c w r c' w' steps :=
  fst_eq_iff fun _ _ _ => run_inserting_iff

theorem run_inserting_fst_ne_noKey (c : Core D.transcribed) (w : σ) (T : Transcript) (text : String) :
    (((⟨c⟩ : Update D.transcribed).run Update.inserting).apply (w, T)).1 ≠ .error (.noGeneratedKey text) := by
  intro hanswer
  obtain ⟨c', w', steps, hrun⟩ := run_inserting_fst_iff.mp hanswer
  rcases hrun.error_eq with ⟨f, hf⟩ | ⟨kind, f, hf⟩
  · simp at hf
  · simp at hf

end Transcript

namespace Update

open Transcript

variable {σ : Type}

/-- **Both ways of running an update do the same.** They ask the same of the driver and leave it in the same state; in
    both of them the answer is given when everything is released. The one that insists on a key answers a key just if
    everything succeeds and the first row of the keys holds one, which the other one answers then as well. It says that
    there is no key, with the text of the statement, just if everything succeeds and there is no row, or a null in the
    first one; the other one answers the number of affected rows then. Every other error is an error of both. -/
theorem execute_and_key_agree (D : Driver σ) (c : Core D.transcribed) (w : σ) (T : Transcript) :
    let lenient := (⟨c⟩ : Update D.transcribed).execute.apply (w, T)
    let strict := (⟨c⟩ : Update D.transcribed).executeReturningKey.apply (w, T)
    lenient.2 = strict.2
      ∧ (∀ k, strict.1 = .ok k ↔ ∃ count, Inserted c w count (some k))
      ∧ (∀ k, strict.1 = .ok k → lenient.1 = .ok k)
      ∧ (∀ text, strict.1 = .error (.noGeneratedKey text)
          ↔ text = c.text ∧ ∃ count, Inserted c w count none ∧ lenient.1 = .ok count)
      ∧ (∀ e, (∀ text, e ≠ .noGeneratedKey text) → (strict.1 = .error e ↔ lenient.1 = .error e))
      ∧ (∀ text, lenient.1 ≠ .error (.noGeneratedKey text))
      ∧ ∃ outcome h w₁ released done closes, Inserting c.handle w outcome h w₁ done
          ∧ Releasing h w₁ released ⟨none, none, none⟩ strict.2.1 closes ∧ strict.2.2 = T ++ (done ++ closes) := by
  intro lenient strict
  have hlenient := execute_apply (⟨c⟩ : Update D.transcribed) (w, T)
  have hstrict := executeReturningKey_apply (⟨c⟩ : Update D.transcribed) (w, T)
  have hinserted (count : Int64) (key : Option Int64) :
      (((⟨c⟩ : Update D.transcribed).run inserting).apply (w, T)).1 = .ok (count, key) ↔ Inserted c w count key := by
    rw [run_inserting_fst_iff, updating_inserting_iff]
  have hnoKey := run_inserting_fst_ne_noKey c w T
  match hrun : ((⟨c⟩ : Update D.transcribed).run inserting).apply (w, T) with
  | (r, w', T') =>
    simp only [hrun] at hlenient hstrict hinserted hnoKey
    have hlenient : lenient = _ := hlenient
    have hstrict : strict = _ := hstrict
    rw [hlenient, hstrict]
    refine ⟨rfl, ?key, ?same, ?noKey, ?error, ?lenient, ?released⟩
    case key =>
      intro k
      simp only [demanded_eq_ok_iff, hinserted]
    case same =>
      intro k hk
      obtain ⟨count, hcount⟩ := demanded_eq_ok_iff.mp hk
      simp [hcount, Except.map]
    case noKey =>
      intro text
      rw [demanded_eq_noKey_iff hnoKey]
      constructor
      · rintro ⟨rfl, count, hcount⟩
        exact ⟨rfl, count, (hinserted _ _).mp hcount, by simp [hcount, Except.map]⟩
      · rintro ⟨rfl, count, hnone, -⟩
        exact ⟨rfl, count, (hinserted _ _).mpr hnone⟩
    case error =>
      intro e he
      rw [demanded_eq_error_iff he, map_eq_error_iff]
    case lenient =>
      intro text hnone
      exact hnoKey text ((map_eq_error_iff _).mp hnone)
    case released =>
      obtain ⟨c', steps, hT', hdone⟩ := run_inserting_iff.mp hrun
      obtain ⟨outcome, h, w₁, released, done, closes, hop, hr, rfl⟩ := hdone.released
      exact ⟨outcome, h, w₁, released, done, closes, hop, hr, hT'⟩

end Update

/-- A database that reports one key. -/
def Rehearsal.keyed (faults : List Fault) : Rehearsal.Script where
  number      := 0
  name        := "keyed"
  tag         := "keyed"
  labels      := []
  rows        := []
  keys        := [[.int 3]]
  updateCount := 1
  batchCounts := none
  uncapped    := false
  faults      := faults

/-- An update of it. -/
def Rehearsal.insertion (faults : List Fault) : Update Rehearsal.driver.transcribed :=
  ⟨"values (3)", ⟨"values (3)", []⟩, some (keyed faults), some ⟨keyed faults, .generated, [], [], none⟩, none⟩

open Rehearsal in
/-- Both ways answer the key, and where the statement does not close both of them say so. -/
theorem execute_and_key_agree_oneKey :
    ((insertion []).executeReturningKey.apply (.start, [])).1 = .ok 3
      ∧ ((insertion []).execute.apply (.start, [])).1 = .ok 3
      ∧ (∀ text, Error.release .statement (.saying "no") ≠ .noGeneratedKey text)
      ∧ ((insertion [⟨.closeStatement, none, some "no"⟩]).executeReturningKey.apply (.start, [])).1
        = .error (.release .statement (.saying "no"))
      ∧ ((insertion [⟨.closeStatement, none, some "no"⟩]).execute.apply (.start, [])).1
        = .error (.release .statement (.saying "no")) := by
  obtain ⟨-, -, hsame, -⟩ := Update.execute_and_key_agree driver (insertion []).core .start []
  obtain ⟨-, -, -, -, herror, -⟩ :=
    Update.execute_and_key_agree driver (insertion [⟨.closeStatement, none, some "no"⟩]).core .start []
  have hkey : ((insertion []).executeReturningKey.apply (.start, [])).1 = .ok 3 := rfl
  have hother : ∀ text, Error.release .statement (.saying "no") ≠ .noGeneratedKey text := by
    intro text
    simp
  have hstuck : ((insertion [⟨.closeStatement, none, some "no"⟩]).executeReturningKey.apply (.start, [])).1
      = .error (.release .statement (.saying "no")) := rfl
  exact ⟨hkey, hsame 3 hkey, hother, hstuck, (herror _ hother).mp hstuck⟩

end NamedSql
