import NamedSql.Proofs.Transcript.EveryRow

/-!
# `Proofs.Transcript.FirstRow` — a query for its first row

## Contents
- `First`, the ways in which reading a first row can end, and `firstRow_depicted`.
- `Fetching`: the limit, and then the query; `orDefault`; `execute_apply_iff`.
- `OneRow`: as many moves as cursors, and no more rows than moves; `Running.oneRow`.
-/

namespace NamedSql

namespace Transcript

variable {σ α : Type} {D : Driver σ}

/-! ## One row -/

/-- The ways in which reading the first row of a cursor can end. -/
inductive First (m : Mapper D α) (c : D.Cursor) (w : σ) :
    Except (Halt Failure) (Option α) → D.Cursor → σ → Transcript → Prop where
  | unmoved {c' : D.Cursor} {w' : σ} {f : Failure} (hmove : D.next.apply (c, w) = (.error f, c', w')) :
      First m c w (.error (.failed f)) c' w' [.moved (some f)]
  | noRow {c' : D.Cursor} {w' : σ} (hmove : D.next.apply (c, w) = (.ok false, c', w')) :
      First m c w (.ok none) c' w' [.moved none]
  | unmapped {c' : D.Cursor} {w₁ w' : σ} {e : Halt Failure} (hmove : D.next.apply (c, w) = (.ok true, c', w₁))
      (hmap : (m 1 c').apply w₁ = (.error e, w')) : First m c w (.error e) c' w' [.moved none, .mapped 1 (some e)]
  | mapped {c' : D.Cursor} {w₁ w' : σ} {a : α} (hmove : D.next.apply (c, w) = (.ok true, c', w₁))
      (hmap : (m 1 c').apply w₁ = (.ok a, w')) : First m c w (.ok (some a)) c' w' [.moved none, .mapped 1 none]

theorem firstRow_depicted (m : Mapper D α) : Depicts (First m) (Select.firstRow m.transcribed) where
  sound := by
    intro c c' w w' r steps h T
    have hmoved {b : Except Failure Bool} {c₁ : D.Cursor} {w₁ : σ} (hmove : D.next.apply (c, w) = (b, c₁, w₁)) :
        (D.transcribed.next.reword Halt.failed).apply (c, w, T)
          = (b.mapError .failed, c₁, w₁, T ++ [.moved (failureOf b)]) := by
      rw [Attempt.reword_apply, noting_of_apply hmove]
    unfold Select.firstRow
    rw [Attempt.bind_apply]
    cases h with
    | unmoved hmove =>
      rw [hmoved hmove]
      rfl
    | noRow hmove =>
      rw [hmoved hmove]
      rfl
    | unmapped hmove hmap | mapped hmove hmap =>
      have hmapped := mapper_of_apply hmap (T ++ [.moved none])
      rw [List.append_assoc] at hmapped
      rw [hmoved hmove]
      exact congrArg (fun s : Except (Halt Failure) α × σ × Transcript => (s.1.map some, c', s.2)) hmapped
  total c w := by
    match hmove : D.next.apply (c, w) with
    | (.error f, c₁, w₁)  => exact ⟨_, _, _, _, .unmoved hmove⟩
    | (.ok false, c₁, w₁) => exact ⟨_, _, _, _, .noRow hmove⟩
    | (.ok true, c₁, w₁)  =>
      match hmap : (m 1 c₁).apply w₁ with
      | (.error e, w₂) => exact ⟨_, _, _, _, .unmapped hmove hmap⟩
      | (.ok a, w₂)    => exact ⟨_, _, _, _, .mapped hmove hmap⟩

/-! ## The limit, and then the query -/

/-- The limit that a query for one row asks for. -/
abbrev Limiting : Handle D.transcribed → σ → Except (Halt Failure) Unit → Handle D.transcribed → σ → Transcript → Prop :=
  Asking .failed (.setMaxRows (some 1)) (D.setMaxRows (some 1))

/-- What a query for one row does before the release. -/
abbrev Fetching (m : Mapper D α) :
    Handle D.transcribed → σ → Except (Halt Failure) (Option α) → Handle D.transcribed → σ → Transcript → Prop :=
  Then Limiting fun _ => Working .failed .executeQuery D.executeQuery (First m)

/-- The default stands in for a row that there is not, and for nothing else. -/
def orDefault (d : Option α) : Except (Halt Error) (Option α) → Except (Halt Error) (Option α)
  | .ok (some a) => .ok (some a)
  | .ok none     => .ok d
  | .error e     => .error e

theorem orDefault_eq_map (d : Option α) (row : Except (Halt Error) (Option α)) :
    orDefault d row = row.map (·.or d) := by
  match row with
  | .ok (some a) => rfl
  | .ok none     => rfl
  | .error e     => rfl

theorem execute_apply_iff {m : Mapper D α} {c : Core D.transcribed} {d : Option α} {w w' : σ} {T T' : Transcript}
    {r : Except (Halt Error) (Option α)} :
    (⟨c, m.transcribed, d⟩ : Select D.transcribed α).execute.apply (w, T) = (r, w', T')
      ↔ ∃ row c' steps, r = orDefault d row ∧ T' = T ++ steps ∧ Running (Fetching m) c w row c' w' steps := by
  have hlimit := call_depicted (D := D) Halt.failed (.setMaxRows (some 1)) (D.setMaxRows (some 1))
  have hop := hlimit.bind fun _ => withCursor_depicted (firstRow_depicted m) .failed .executeQuery D.executeQuery
  -- The default is put in behind the release; the run knows nothing of it.
  unfold Select.execute
  rw [bind_pure_comp, Attempt.map_apply]
  match hend : ((⟨c, m.transcribed, d⟩ : Select D.transcribed α).run _).apply (w, T) with
  | (row, w₁, T₁) =>
    simp only
    rw [← orDefault_eq_map]
    constructor
    · intro hanswer
      obtain ⟨rfl, rfl, rfl⟩ : orDefault d row = r ∧ w₁ = w' ∧ T₁ = T' := by simpa only [Prod.mk.injEq] using hanswer
      obtain ⟨c', steps, hT', hfetch⟩ := (run_apply_iff hop _).mp hend
      exact ⟨row, c', steps, rfl, hT', hfetch⟩
    · rintro ⟨row', c', steps, rfl, hT', hfetch⟩
      have hsame := hend.symm.trans ((run_apply_iff hop _).mpr ⟨c', steps, hT', hfetch⟩)
      obtain ⟨rfl, hs⟩ := Prod.mk.inj hsame
      rw [hs]

/-! ## One move for one cursor -/

/-- Whether a step moves a cursor. -/
def Step.moves : Step → Bool
  | moved _ => true
  | _       => false

/-- Whether a step gives a row to a mapper. -/
def Step.maps : Step → Bool
  | mapped _ _ => true
  | _          => false

/-- A cursor that is opened is moved once, and no more than one row of it is mapped. -/
structure OneRow (T : Transcript) : Prop where
  moves : T.countP Step.moves = T.countP Step.opens
  maps  : T.countP Step.maps ≤ T.countP Step.moves

theorem OneRow.append {T T' : Transcript} (h : OneRow T) (h' : OneRow T') : OneRow (T ++ T') := by
  obtain ⟨hmoves, hmaps⟩ := h
  obtain ⟨hmoves', hmaps'⟩ := h'
  constructor
  · rw [List.countP_append, List.countP_append, hmoves, hmoves']
  · rw [List.countP_append, List.countP_append]
    omega

theorem OneRow.of_closes {T : Transcript} (h : ∀ x ∈ T, ∃ r f, x = Step.closed r f) : OneRow T := by
  have hnone {p : Step → Bool} (hp : ∀ r f, p (.closed r f) = false) : T.countP p = 0 := by
    refine List.countP_eq_zero.mpr ?_
    intro x hx
    obtain ⟨r, f, rfl⟩ := h x hx
    simp [hp]
  constructor
  · rw [hnone fun _ _ => rfl, hnone fun _ _ => rfl]
  · rw [hnone fun _ _ => rfl]
    exact Nat.zero_le _

section
variable {m : Mapper D α} {h h' : Handle D.transcribed} {w w' : σ} {steps : Transcript}

theorem Opening.oneRow {q : Request} {opening : Attempt (D.Statement × σ) Failure D.Cursor} {f : Failure}
    (ho : Opening q opening h w (.error f) h' w' steps) : OneRow steps := by
  cases ho with
  | cursorStuck hc => exact .of_closes fun x hx => ⟨.cursor, some _, List.mem_singleton.mp hx⟩
  | unprepared hc  => exact .of_closes hc.only_closes
  | refused hc ho  =>
    refine (OneRow.of_closes hc.only_closes).append ?_
    -- A request that is refused opens nothing, whichever it is.
    cases q with
    | _ => exact ⟨rfl, Nat.le_refl _⟩

/-- The opening of a cursor, and the reading of its first row. -/
theorem First.oneRow {r : Except (Halt Failure) (Option α)} {cursor c' : D.Cursor} {h₁ : Handle D.transcribed}
    {w₁ : σ} {T₁ T₂ : Transcript} (ho : Opening .executeQuery D.executeQuery h w (.ok cursor) h₁ w₁ T₁)
    (hfirst : First m cursor w₁ r c' w' T₂) : OneRow (T₁ ++ T₂) := by
  cases ho with
  | opened hc ho =>
    rw [List.append_assoc]
    refine (OneRow.of_closes hc.only_closes).append ?_
    cases hfirst with
    | unmoved _ | noRow _         => exact ⟨rfl, Nat.zero_le _⟩
    | unmapped _ _ | mapped _ _   => exact ⟨rfl, Nat.le_refl _⟩

theorem Fetching.oneRow {r : Except (Halt Failure) (Option α)} (hfetch : Fetching m h w r h' w' steps) :
    OneRow steps := by
  have hlimiting {h h' : Handle D.transcribed} {w w' : σ} {r : Except (Halt Failure) Unit} {steps : Transcript}
      (hlimit : Limiting h w r h' w' steps) : OneRow steps := by
    cases hlimit with
    | unprepared   => exact ⟨rfl, Nat.le_refl _⟩
    | refused hl   => exact ⟨rfl, Nat.le_refl _⟩
    | answered hl  => exact ⟨rfl, Nat.le_refl _⟩
  cases hfetch with
  | failed hlimit     => exact hlimiting hlimit
  | both hlimit hwork =>
    refine (hlimiting hlimit).append ?_
    cases hwork with
    | notOpened ho     => exact ho.oneRow
    | worked ho hfirst => exact First.oneRow ho hfirst

theorem Running.oneRow {c c' : Core D.transcribed} {r : Except (Halt Error) (Option α)}
    (hrun : Running (Fetching m) c w r c' w' steps) : OneRow steps := by
  cases hrun with
  | failed ho hr | notReleased ho hr | finished ho hr => exact (Fetching.oneRow ho).append (.of_closes hr.only_closes)

end

end Transcript

end NamedSql
