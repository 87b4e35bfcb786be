import Mathlib.Data.List.Forall2
import Mathlib.Data.List.ReduceOption
import NamedSql.Proofs.Transcript.FirstKey

/-!
# `Proofs.Transcript.EveryKey` — a batch, and all of its keys

A batch that is run answers the keys that were generated, or else the number of affected rows of each entry. Which of
the two it is depends on the keys that are left when the nulls are taken out.

## Contents
- `KeyRows`: some rows, each of them moved to and read. `Reads`: what the values there are as keys; `reads_iff`: the
  keys that are left are the values that are no nulls.
- `KeyPass`: a pass over all rows, with `allKeys_depicted`. `keyPass_ok_iff`: the passes that succeed.
- `Batching`: what a batch does before the release, with `executeBatch_apply_iff`. `Batched`: a batch in which
  everything succeeds; `updating_batching_iff`.
- `Update.executeBatch_keys_or_counts`; `Rehearsal.mixedBatch` is a batch with a key that cannot be read.
-/

namespace NamedSql

open Transcript

namespace Transcript

variable {σ α : Type} {D : Driver σ}

/-! ## Rows of keys -/

/-- Some rows, one after the other: the cursor is moved to the row, and its first column is read. -/
inductive KeyRows : D.Cursor → σ → List Value → D.Cursor → σ → Prop where
  | start {c : D.Cursor} {w : σ} : KeyRows c w [] c w
  | row {c c₁ c' : D.Cursor} {w w₁ w₂ w' : σ} {v : Value} {vs : List Value}
      (hmove : D.next.apply (c, w) = (.ok true, c₁, w₁)) (hget : (D.get c₁ 1).apply w₁ = (.ok v, w₂))
      (hrest : KeyRows c₁ w₂ vs c' w') : KeyRows c w (v :: vs) c' w'

/-- What some values are as keys. A null is no key. -/
abbrev Reads (vs : List Value) (keys : List (Option Int64)) : Prop :=
  List.Forall₂ (fun v key => v.read .bigInt = .ok key) vs keys

/-- The keys are the values that are no nulls, in their order. -/
theorem reads_iff {vs : List Value} {ks : List Int64} :
    (∃ keys, Reads vs keys ∧ keys.reduceOption = ks)
      ↔ List.Forall₂ (fun v k => v.read .bigInt = .ok (some k)) (vs.filter fun v => !v.isNull) ks := by
  induction vs generalizing ks with
  | nil          =>
    constructor
    · rintro ⟨keys, hreads, rfl⟩
      cases hreads with
      | nil => exact List.Forall₂.nil
    · intro h
      cases h with
      | nil => exact ⟨[], List.Forall₂.nil, rfl⟩
  | cons v vs ih =>
    have hnone : v.read .bigInt = .ok none ↔ v.isNull = true := Value.read_eq_none_iff
    by_cases hv : v.isNull = true
    · have hfilter : (v :: vs).filter (fun v => !v.isNull) = vs.filter fun v => !v.isNull := by simp [hv]
      rw [hfilter, ← ih]
      constructor
      · rintro ⟨keys, hreads, rfl⟩
        cases hreads with
        | @cons _ key _ keys hkey hrest =>
          have hsame : (Except.ok key : Except Failure (Option Int64)) = .ok none := hkey.symm.trans (hnone.mpr hv)
          obtain rfl := Except.ok.inj hsame
          exact ⟨keys, hrest, by simp [List.reduceOption_cons_of_none]⟩
      · rintro ⟨keys, hrest, rfl⟩
        exact ⟨none :: keys, .cons (hnone.mpr hv) hrest, by simp [List.reduceOption_cons_of_none]⟩
    · have hfilter : (v :: vs).filter (fun v => !v.isNull) = v :: vs.filter fun v => !v.isNull := by simp [hv]
      rw [hfilter]
      constructor
      · rintro ⟨keys, hreads, rfl⟩
        cases hreads with
        | @cons _ key _ keys hkey hrest =>
          cases key with
          | none   => exact absurd (hnone.mp hkey) hv
          | some k =>
            rw [List.reduceOption_cons_of_some]
            exact .cons hkey (ih.mp ⟨keys, hrest, rfl⟩)
      · intro h
        cases h with
        | @cons _ k _ ks hkey hrest =>
          obtain ⟨keys, hreads, rfl⟩ := ih.mpr hrest
          exact ⟨some k :: keys, .cons hkey hreads, by simp [List.reduceOption_cons_of_some]⟩

/-! ## All rows -/

/-- A pass over all rows of keys. It fails if the cursor fails to move, if there is nothing in a row that can be read,
    and if what is read is not a key. -/
abbrev KeyPass : D.Cursor → σ → Except Failure (List (Option Int64)) → D.Cursor → σ → Transcript → Prop :=
  Passing id KeyRow 1

section
variable {k : Nat} {c c' last : D.Cursor} {w w₁ w' : σ} {keys : List (Option Int64)}

theorem rows_of_passing {r : Except Failure (List (Option Int64))} {steps : Transcript}
    (h : Passing id KeyRow k c w r c' w' steps) (hr : r = .ok keys) :
    ∃ vs last w₁, KeyRows c w vs last w₁ ∧ Reads vs keys ∧ D.next.apply (last, w₁) = (.ok false, c', w') := by
  induction h generalizing keys with
  | done hmove                      =>
    obtain rfl := Except.ok.inj hr
    exact ⟨[], _, _, .start, .nil, hmove⟩
  | unmoved hmove                   => simp at hr
  | failed hmove hrow               => simp at hr
  | @row _ _ _ _ _ _ _ _ key rest _ _ hmove hrow hrest ih =>
    obtain ⟨keys, rfl, rfl⟩ := Attempt.exists_of_map_ok hr
    obtain ⟨vs, last, w₁, hrows, hreads, hlast⟩ := ih rfl
    obtain ⟨v, hget, hkey⟩ := hrow.ok
    exact ⟨v :: vs, last, w₁, .row hmove hget hrows, .cons hkey hreads, hlast⟩

theorem passing_of_rows {vs : List Value} (h : KeyRows c w vs last w₁) (hreads : Reads vs keys)
    (hlast : D.next.apply (last, w₁) = (.ok false, c', w')) :
    ∃ steps, Passing id KeyRow k c w (.ok keys) c' w' steps := by
  induction h generalizing k keys with
  | start                       =>
    cases hreads with
    | nil => exact ⟨_, .done hlast⟩
  | row hmove hget hrest ih     =>
    cases hreads with
    | cons hkey hreads =>
      obtain ⟨steps, hpassing⟩ := ih (k := k + 1) hreads hlast
      exact ⟨_, .row hmove (.read hget hkey) hpassing⟩

/-- A pass that succeeds has read every row, and found keys and nulls only. -/
theorem keyPass_ok_iff :
    (∃ steps, KeyPass c w (.ok keys) c' w' steps)
      ↔ ∃ vs last w₁, KeyRows c w vs last w₁ ∧ Reads vs keys ∧ D.next.apply (last, w₁) = (.ok false, c', w') := by
  constructor
  · rintro ⟨steps, h⟩
    exact rows_of_passing h rfl
  · rintro ⟨vs, last, w₁, hrows, hreads, hlast⟩
    exact passing_of_rows hrows hreads hlast

end

theorem allKeys_depicted :
    Depicts (Mapping List.reduceOption (KeyPass (D := D))) (Update.allKeys (D := D.transcribed)) := by
  have hcollected := (passing_depicted (keyRow_depicts (D := D)) id 1).map List.reduceOption
  exact hcollected

/-! ## What is done -/

/-- What a batch does before the release: it is run, and its keys are opened and all of them are read. -/
abbrev Batching :
    Handle D.transcribed → σ → Except Failure (List Int64) → Handle D.transcribed → σ → Transcript → Prop :=
  Then (Asking id .executeBatch D.executeBatch) fun counts =>
    Mapping (fun keys => if keys.isEmpty then counts else keys)
      (Working id .generatedKeys D.generatedKeys (Mapping List.reduceOption KeyPass))

theorem executeBatch_apply_iff {c : Core D.transcribed} {w w' : σ} {T T' : Transcript}
    {r : Except Error (List Int64)} :
    (⟨c⟩ : Update D.transcribed).executeBatch.apply (w, T) = (r, w', T')
      ↔ ∃ c' steps, T' = T ++ steps ∧ Updating Batching c w r c' w' steps := by
  have hbatch := (bareCall_depicted .executeBatch D.executeBatch).bind fun counts =>
    (withCursor_depicted allKeys_depicted id .generatedKeys D.generatedKeys).map
      fun keys => if keys.isEmpty then counts else keys
  exact update_run_apply_iff hbatch _

/-- A batch in which everything succeeds, the closes too, with the numbers of affected rows and what is in the rows of
    its keys, all of which are read. -/
inductive Batched (c : Core D.transcribed) (w : σ) : List Int64 → List Value → Prop where
  | of {h₁ h₂ h' : Handle D.transcribed} {cursor last behind : D.Cursor} {w₁ w₂ w₃ w₄ w' : σ}
      {T₁ T₂ closes : Transcript} {counts : List Int64} {vs : List Value}
      (hcounts : Asking id .executeBatch D.executeBatch c.handle w (.ok counts) h₁ w₁ T₁)
      (ho : Opening .generatedKeys D.generatedKeys h₁ w₁ (.ok cursor) h₂ w₂ T₂)
      (hrows : KeyRows cursor w₂ vs last w₃) (hmove : D.next.apply (last, w₃) = (.ok false, behind, w₄))
      (hr : Releasing { h₂ with cursor := some behind } w₄ (.ok ()) h' w' closes) : Batched c w counts vs

theorem updating_batching_iff {c : Core D.transcribed} {w : σ} {ns : List Int64} :
    (∃ c' w' steps, Updating Batching c w (.ok ns) c' w' steps)
      ↔ ∃ counts vs keys, Batched c w counts vs ∧ Reads vs keys
        ∧ ns = if keys.reduceOption.isEmpty then counts else keys.reduceOption := by
  constructor
  · rintro ⟨c', w', steps, hrun⟩
    cases hrun with
    | finished ho hr =>
      cases ho with
      | both hcounts hchosen =>
        obtain ⟨ks, hkeys, rfl⟩ := Mapping.ok_iff.mp hchosen
        cases hkeys with
        | worked ho hfiltered =>
          obtain ⟨keys, hpass, rfl⟩ := Mapping.ok_iff.mp hfiltered
          obtain ⟨vs, last, w₁, hrows, hreads, hmove⟩ := keyPass_ok_iff.mp ⟨_, hpass⟩
          exact ⟨_, vs, keys, .of hcounts ho hrows hmove hr, hreads, rfl⟩
  · rintro ⟨counts, vs, keys, hbatched, hreads, rfl⟩
    cases hbatched with
    | of hcounts ho hrows hmove hr =>
      obtain ⟨T, hpass⟩ := keyPass_ok_iff.mpr ⟨vs, _, _, hrows, hreads, hmove⟩
      have hkeys : Working id .generatedKeys D.generatedKeys (Mapping List.reduceOption KeyPass) _ _
          (.ok keys.reduceOption) _ _ _ := .worked ho (Mapping.ok_iff.mpr ⟨keys, hpass, rfl⟩)
      exact ⟨_, _, _, .finished (.both hcounts (Mapping.ok_iff.mpr ⟨_, hkeys, rfl⟩)) hr⟩

/-- A batch of which some key is not read fails with that. -/
theorem updating_of_keyPass {c : Core D.transcribed} {h₁ h₂ : Handle D.transcribed} {cursor left : D.Cursor}
    {w w₁ w₂ w₃ : σ} {T₁ T₂ T₃ : Transcript} {counts : List Int64} {f : Failure}
    (hcounts : Asking id .executeBatch D.executeBatch c.handle w (.ok counts) h₁ w₁ T₁)
    (ho : Opening .generatedKeys D.generatedKeys h₁ w₁ (.ok cursor) h₂ w₂ T₂)
    (hpass : KeyPass cursor w₂ (.error f) left w₃ T₃) :
    ∃ c' w' steps, Updating Batching c w (.error (.execute c.text f)) c' w' steps := by
  have hfiltered : Mapping List.reduceOption KeyPass cursor w₂ (.error f) left w₃ T₃ := Mapping.of hpass
  have hchosen : Mapping (fun keys => if keys.isEmpty then counts else keys)
      (Working id .generatedKeys D.generatedKeys (Mapping List.reduceOption KeyPass)) h₁ w₁ (.error f)
      { h₂ with cursor := some left } w₃ (T₂ ++ T₃) := Mapping.of (Working.worked ho hfiltered)
  obtain ⟨released, h', w', closes, hr⟩ := cleanup_depicted.total { h₂ with cursor := some left } w₃
  exact ⟨_, _, _, .failed (.both hcounts hchosen) hr⟩

end Transcript

namespace Update

variable {σ : Type}

/-- **Keys if there are any, and else counts.** A batch is run, its keys are opened, and each row of them is moved to
    and read once, until there is no other or something fails; everything is released in the end. There is an answer
    just if all of this succeeds: the keys are the values that are no nulls, in their order, and they are the answer if
    there is one at least; otherwise the numbers of affected rows are, as the driver told them. If a row is not moved to
    or not read as a key, that is the answer, with the text of the statement, and there are neither keys nor numbers. -/
theorem executeBatch_keys_or_counts (D : Driver σ) (c : Core D.transcribed) (w : σ) (T : Transcript) :
    let u : Update D.transcribed := ⟨c⟩
    (∀ (r : Except Error (List Int64)) (w' : σ) (T' : Transcript),
      u.executeBatch.apply (w, T) = (r, w', T')
        ↔ ∃ c' steps, T' = T ++ steps ∧ Updating Batching c w r c' w' steps)
    ∧ (∀ ns : List Int64, (u.executeBatch.apply (w, T)).1 = .ok ns
        ↔ ∃ counts vs keys, Batched c w counts vs
          ∧ List.Forall₂ (fun v k => v.read .bigInt = .ok (some k)) (vs.filter fun v => !v.isNull) keys
          ∧ ns = if keys = [] then counts else keys)
    ∧ ∀ (counts : List Int64) (cursor left : D.Cursor) (h₁ h₂ : Handle D.transcribed) (w₁ w₂ w₃ : σ)
        (T₁ T₂ T₃ : Transcript) (f : Failure),
      Asking id .executeBatch D.executeBatch c.handle w (.ok counts) h₁ w₁ T₁
        → Opening .generatedKeys D.generatedKeys h₁ w₁ (.ok cursor) h₂ w₂ T₂
        → KeyPass cursor w₂ (.error f) left w₃ T₃
        → (u.executeBatch.apply (w, T)).1 = .error (.execute c.text f) := by
  intro u
  have hrun (r : Except Error (List Int64)) (w' : σ) (T' : Transcript) :
      u.executeBatch.apply (w, T) = (r, w', T')
        ↔ ∃ c' steps, T' = T ++ steps ∧ Updating Batching c w r c' w' steps :=
    executeBatch_apply_iff
  have hanswer {r : Except Error (List Int64)} :
      (u.executeBatch.apply (w, T)).1 = r ↔ ∃ c' w' steps, Updating Batching c w r c' w' steps :=
    fst_eq_iff hrun
  refine ⟨hrun, ?answer, ?failure⟩
  case answer =>
    intro ns
    rw [hanswer, updating_batching_iff]
    constructor
    · rintro ⟨counts, vs, keys, hbatched, hreads, rfl⟩
      exact ⟨counts, vs, _, hbatched, reads_iff.mp ⟨keys, hreads, rfl⟩, by simp⟩
    · rintro ⟨counts, vs, ks, hbatched, hks, rfl⟩
      obtain ⟨keys, hreads, rfl⟩ := reads_iff.mpr hks
      exact ⟨counts, vs, keys, hbatched, hreads, by simp⟩
  case failure =>
    intro counts cursor left h₁ h₂ w₁ w₂ w₃ T₁ T₂ T₃ f hcounts ho hpass
    rw [hanswer]
    exact updating_of_keyPass hcounts ho hpass

end Update

/-- A database that reports a null, a key, and something that is no key. -/
def Rehearsal.mixed : Rehearsal.Script where
  number      := 0
  name        := "mixed"
  tag         := "mixed"
  labels      := []
  rows        := []
  keys        := [[.null .bigInt], [.int 3], [.float 0.5]]
  updateCount := 1
  batchCounts := none
  uncapped    := false
  faults      := []

/-- An update of it, with a batch of one entry. -/
def Rehearsal.mixedBatch : Update Rehearsal.driver.transcribed :=
  ⟨"values (:n)", ⟨"values (?)", ["n"]⟩, some mixed, some ⟨mixed, .generated, [], [[(1, .int 3)]], none⟩, none⟩

open Rehearsal in
/-- Behind a good key there is one that cannot be read, and then neither the key nor the count is answered. -/
theorem executeBatch_keys_or_counts_mixed :
    ∃ counts cursor left h₁ h₂ w₁ w₂ w₃ T₁ T₂ T₃ f,
      Asking (D := driver) id .executeBatch driver.executeBatch mixedBatch.core.handle .start (.ok counts) h₁ w₁ T₁
        ∧ Opening .generatedKeys driver.generatedKeys h₁ w₁ (.ok cursor) h₂ w₂ T₂
        ∧ KeyPass cursor w₂ (.error f) left w₃ T₃
        ∧ (mixedBatch.executeBatch.apply (.start, [])).1 = .error (.execute "values (:n)" f) := by
  obtain ⟨-, -, hfailure⟩ := Update.executeBatch_keys_or_counts driver mixedBatch.core .start []
  obtain ⟨counts, cursor, left, h₁, h₂, w₁, w₂, w₃, T₁, T₂, T₃, f, hcounts, ho, hpass⟩ :
      ∃ counts cursor left h₁ h₂ w₁ w₂ w₃ T₁ T₂ T₃ f,
        Asking (D := driver) id .executeBatch driver.executeBatch mixedBatch.core.handle .start (.ok counts) h₁ w₁ T₁
          ∧ Opening .generatedKeys driver.generatedKeys h₁ w₁ (.ok cursor) h₂ w₂ T₂
          ∧ KeyPass cursor w₂ (.error f) left w₃ T₃ :=
    ⟨_, _, _, _, _, _, _, _, _, _, _, _, .answered rfl, .opened .nothing rfl,
      .row rfl (.read rfl rfl) (.row rfl (.read rfl rfl) (.failed rfl (.read rfl rfl)))⟩
  have hanswer := hfailure counts cursor left h₁ h₂ w₁ w₂ w₃ T₁ T₂ T₃ f hcounts ho hpass
  exact ⟨counts, cursor, left, h₁, h₂, w₁, w₂, w₃, T₁, T₂, T₃, f, hcounts, ho, hpass, hanswer⟩

end NamedSql
