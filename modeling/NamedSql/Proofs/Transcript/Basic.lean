import NamedSql.Proofs.Driver.Reading
import NamedSql.Statement.Select
import NamedSql.Statement.Update

/-!
# `Proofs.Transcript.Basic` — what is asked of a driver, and how it goes

Any driver can be made to keep a transcript of what it is asked and of what fails. The transcript becomes a part of
the world; each call answers what it answered before. A step that works with a cursor is faithful to the transcript if
it fails just when the last step of it does, and for the same reason.

## Contents
- `Request`, `Step`, `Transcript`; `Step.failure?`, what a step fails with, and `Step.refusal?`, what is said of an
  object that does not close. `Step.Fine`: a step that succeeds and closes nothing.
- `Tells`: steps that all succeed, or the first of which to fail is the last one. `Follows`: steps that ask what is
  planned besides, until one fails.
- `Driver.transcribed`, `Mapper.transcribed`.
- `Faithful`, with its rules for steps one after the other and for a pass over the rows; the readings of a cursor are
  of this sort (`key_faithful`, `firstKey_faithful`, `allKeys_faithful`, `firstRow_faithful`).
-/

namespace NamedSql

namespace Transcript

/-- What is asked of a connection or a statement, apart from closing it. -/
inductive Request where
  | prepare (sql : String) (keys : KeyCapture)
  | bind (slot : Nat) (value : Value)
  | addBatch
  | setMaxRows (limit : Option Nat)
  | executeQuery | executeUpdate | executeBatch | generatedKeys

/-- A step of an operation, and how it went. -/
inductive Step where
  | asked (q : Request) (failure : Option Failure)
  /-- A cursor was moved. -/
  | moved (failure : Option Failure)
  /-- A column was read. -/
  | read (column : Nat) (answer : Except Failure Value)
  /-- A mapper was given a row. -/
  | mapped (row : Nat) (failure : Option (Halt Failure))
  | closed (r : Resource) (failure : Option Failure)

end Transcript

open Transcript in
/-- What was asked of a driver, in order. -/
abbrev Transcript := List Step

namespace Transcript

variable {σ ε ε' α β ο S : Type}

/-- What a step fails with. A column that is read is one of keys, so a value that is no number fails as well. -/
def Step.failure? : Step → Option (Halt Failure)
  | asked _ failure   => failure.map .failed
  | moved failure     => failure.map .failed
  | read _ (.error f) => some (.failed f)
  | read _ (.ok v)    =>
    match (Target.typed .bigInt).read v with
    | .ok _    => none
    | .error f => some (.failed f)
  | mapped _ failure  => failure
  | closed _ _        => none

/-- What a step asks of a connection or a statement. -/
def Step.request? : Step → Option Request
  | asked q _ => some q
  | _         => none

/-- The resource that a step closes. -/
def Step.closed? : Step → Option Resource
  | closed r _ => some r
  | _          => none

/-- What is said of a resource that does not close. -/
def Step.refusal? : Step → Option Error
  | closed r failure => failure.map (.release r)
  | _                => none

/-- Whether a step opens a cursor. -/
def Step.opens : Step → Bool
  | asked .executeQuery none | asked .generatedKeys none => true
  | _                                                    => false

/-- A step that succeeds, and closes nothing. -/
def Step.Fine (x : Step) : Prop := x.failure? = none ∧ x.closed? = none

/-- Steps that all succeed; or the last one fails, and no other. None of them closes anything. -/
inductive Tells : Option (Halt Failure) → Transcript → Prop where
  | fine {T : Transcript} (h : ∀ x ∈ T, x.Fine) : Tells none T
  | failed {T : Transcript} {x : Step} {f : Halt Failure} (h : ∀ x ∈ T, x.Fine) (hx : x.failure? = some f) :
      Tells (some f) (T ++ [x])

namespace Tells

theorem nil : Tells none [] := .fine fun _ hx => absurd hx List.not_mem_nil

theorem single {x : Step} {f : Option (Halt Failure)} (hx : x.failure? = f) (h : x.closed? = none) : Tells f [x] := by
  cases f with
  | none   =>
    refine .fine ?_
    intro y hy
    obtain rfl := List.mem_singleton.mp hy
    exact ⟨hx, h⟩
  | some f => exact .failed (T := []) (fun _ hy => absurd hy List.not_mem_nil) hx

/-- Steps that come after some that succeed. -/
theorem append {T T' : Transcript} {f : Option (Halt Failure)} (h : Tells none T) (h' : Tells f T') :
    Tells f (T ++ T') := by
  cases h with
  | fine hfine =>
    have hboth : ∀ {T' : Transcript}, (∀ x ∈ T', x.Fine) → ∀ x ∈ T ++ T', x.Fine := by
      intro T' hfine' x hx
      rcases List.mem_append.mp hx with hx | hx
      · exact hfine x hx
      · exact hfine' x hx
    cases h' with
    | fine hfine'      => exact .fine (hboth hfine')
    | failed hfine' hx =>
      rw [← List.append_assoc]
      exact .failed (hboth hfine') hx

end Tells

/-- Steps that ask what is planned, in order and all of it unless one of them fails. -/
structure Follows (plan : List Request) (f : Option (Halt Failure)) (T : Transcript) : Prop where
  tells   : Tells f T
  planned : T.filterMap Step.request? <+: plan
  whole   : f = none → T.filterMap Step.request? = plan

namespace Follows

variable {plan plan' : List Request} {f : Option (Halt Failure)} {T T' : Transcript}

theorem nil : Follows [] none [] := ⟨.nil, List.prefix_rfl, fun _ => rfl⟩

theorem single {x : Step} (hplan : x.request?.toList = plan) (hx : x.failure? = f) (h : x.closed? = none) :
    Follows plan f [x] := by
  have hrequest : [x].filterMap Step.request? = plan := by
    rw [← hplan]
    cases hr : x.request? with
    | none   => simp [hr]
    | some q => simp [hr]
  exact ⟨.single hx h, hrequest ▸ List.prefix_rfl, fun _ => hrequest⟩

theorem append (h : Follows plan none T) (h' : Follows plan' f T') : Follows (plan ++ plan') f (T ++ T') := by
  have hwhole := h.whole rfl
  refine ⟨h.tells.append h'.tells, ?_, ?_⟩
  · rw [List.filterMap_append, hwhole]
    exact (List.prefix_append_right_inj plan).mpr h'.planned
  · intro hf
    rw [List.filterMap_append, hwhole, h'.whole hf]

/-- What was planned for later is not asked any more when a step fails. -/
theorem failed {e : Halt Failure} (h : Follows plan (some e) T) (plan' : List Request) :
    Follows (plan ++ plan') (some e) T :=
  ⟨h.tells, h.planned.trans (List.prefix_append plan plan'), fun hf => absurd hf (by simp)⟩

end Follows

/-! ## Drivers -/

/-- The failure of a step that fails. -/
def failureOf : Except ε α → Option ε
  | .ok _    => none
  | .error e => some e

@[simp] theorem failureOf_ok (a : α) : failureOf (.ok a : Except ε α) = none := rfl
@[simp] theorem failureOf_error (e : ε) : failureOf (.error e : Except ε α) = some e := rfl

@[simp] theorem failureOf_map (g : α → β) (r : Except ε α) : failureOf (r.map g) = failureOf r := by
  cases r with
  | ok a    => rfl
  | error e => rfl

@[simp] theorem failureOf_mapError (g : ε → ε') (r : Except ε α) :
    failureOf (r.mapError g) = (failureOf r).map g := by
  cases r with
  | ok a    => rfl
  | error e => rfl

/-- A call on an object, entered in the transcript. -/
def noting (step : Option ε → Step) (x : Attempt (ο × σ) ε α) : Attempt (ο × σ × Transcript) ε α :=
  .of fun (o, w, T) =>
    let (r, o', w') := x.apply (o, w)
    (r, o', w', T ++ [step (failureOf r)])

theorem noting_of_apply {x : Attempt (ο × σ) ε α} {o o' : ο} {w w' : σ} {r : Except ε α}
    (h : x.apply (o, w) = (r, o', w')) (step : Option ε → Step) (T : Transcript) :
    (noting step x).apply (o, w, T) = (r, o', w', T ++ [step (failureOf r)]) := by
  unfold noting
  rw [Attempt.of_apply]
  simp only [h]

/-- A step that only looks at an object, entered in the transcript. -/
def noted (step : Except ε α → Step) (x : Attempt σ ε α) : Attempt (σ × Transcript) ε α :=
  .of fun (w, T) =>
    let (r, w') := x.apply w
    (r, w', T ++ [step r])

end Transcript

open Transcript

variable {σ ε ε' α β ο S : Type}

/-- The same driver, with a transcript. -/
abbrev Driver.transcribed (D : Driver σ) : Driver (σ × Transcript) where
  Connection      := D.Connection
  Statement       := D.Statement
  Cursor          := D.Cursor
  prepare sql k   := noting (.asked (.prepare sql k)) (D.prepare sql k)
  closeConnection := noting (.closed .connection) D.closeConnection
  discard c s     := (D.discard c s.1, s.2)
  bind slot v     := noting (.asked (.bind slot v)) (D.bind slot v)
  addBatch        := noting (.asked .addBatch) D.addBatch
  setMaxRows n    := noting (.asked (.setMaxRows n)) (D.setMaxRows n)
  executeQuery    := noting (.asked .executeQuery) D.executeQuery
  executeUpdate   := noting (.asked .executeUpdate) D.executeUpdate
  executeBatch    := noting (.asked .executeBatch) D.executeBatch
  generatedKeys   := noting (.asked .generatedKeys) D.generatedKeys
  closeStatement  := noting (.closed .statement) D.closeStatement
  next            := noting .moved D.next
  columnCount     := D.columnCount
  columnLabel     := D.columnLabel
  get c n         := noted (.read n) (D.get c n)
  closeCursor     := noting (.closed .cursor) D.closeCursor
  rowsLeft        := D.rowsLeft
  rowsLeft_next {c c' s s'} h := by
    simp only [noting, Attempt.of_apply, Prod.mk.injEq] at h
    obtain ⟨hr, hc, -⟩ := h
    exact D.rowsLeft_next (Prod.ext hr (Prod.ext hc rfl))

/-- The same mapper. What it reads from the cursor is its own affair; the transcript tells that it was given a row,
    and how that went. -/
def Mapper.transcribed {D : Driver σ} (m : Mapper D α) : Mapper D.transcribed α :=
  fun k c => noted (fun r => .mapped k (failureOf r)) (m k c)

namespace Transcript

/-! ## Faithful steps -/

/-- What a step on a cursor enters in the transcript tells how it goes; `up` tells its failures. -/
def Faithful (log : S → Transcript) (up : ε → Halt Failure) (x : Attempt S ε α) : Prop :=
  ∀ s, ∃ T, log (x.apply s).2 = log s ++ T ∧ Follows [] ((failureOf (x.apply s).1).map up) T

/-- The transcript of the world next to an object. -/
abbrev worldly (s : ο × σ × Transcript) : Transcript := s.2.2

namespace Faithful

variable {log : S → Transcript} {up : ε → Halt Failure} {x : Attempt S ε α}

theorem pure (a : α) : Faithful log up (Pure.pure a : Attempt S ε α) :=
  fun _ => ⟨[], (List.append_nil _).symm, .nil⟩

theorem bind {f : α → Attempt S ε β} (hx : Faithful log up x) (hf : ∀ a, Faithful log up (f a)) :
    Faithful log up (x >>= f) := by
  intro s
  obtain ⟨T₁, hlog₁, htells₁⟩ := hx s
  rw [Attempt.bind_apply]
  match hend : x.apply s with
  | (.error e, s') =>
    rw [hend] at hlog₁ htells₁
    exact ⟨T₁, hlog₁, htells₁⟩
  | (.ok a, s')    =>
    rw [hend] at hlog₁ htells₁
    obtain ⟨T₂, hlog₂, htells₂⟩ := hf a s'
    refine ⟨T₁ ++ T₂, ?_, htells₁.append htells₂⟩
    simp only
    rw [hlog₂, hlog₁, List.append_assoc]

theorem reword {up' : ε' → Halt Failure} {g : ε → ε'} (hx : Faithful log up x) (hg : ∀ e, up' (g e) = up e) :
    Faithful log up' (x.reword g) := by
  intro s
  obtain ⟨T, hlog, htells⟩ := hx s
  refine ⟨T, hlog, ?_⟩
  rw [Attempt.reword_apply, failureOf_mapError, Option.map_map]
  rwa [show up' ∘ g = up from funext hg]

theorem moved (x : Attempt (ο × σ) Failure α) : Faithful worldly Halt.failed (noting .moved x) :=
  fun _ => ⟨[.moved _], rfl, .single rfl rfl rfl⟩

/-- Looking at a cursor leaves it where it is. -/
theorem of_reading {f : ο → Attempt (σ × Transcript) ε α} (hf : ∀ c, Faithful Prod.snd up (f c))
    {g : Except ε α → Except ε β} (hg : ∀ r, failureOf (g r) = failureOf r) :
    Faithful worldly up (.of fun (c, w) => let (r, w') := (f c).apply w; (g r, c, w') :
      Attempt (ο × σ × Transcript) ε β) := by
  rintro ⟨c, w⟩
  obtain ⟨T, hlog, htells⟩ := hf c w
  refine ⟨T, hlog, ?_⟩
  rw [← hg] at htells
  exact htells

/-- A pass over the rows is faithful, if each of its steps is. -/
theorem collect {D : Driver σ} {wrap : Failure → ε} {step : Nat → D.Cursor → Attempt (σ × Transcript) ε α}
    (hwrap : ∀ f, up (wrap f) = .failed f) (hstep : ∀ k c, Faithful Prod.snd up (step k c)) (k : Nat) :
    Faithful worldly up (.of (D.transcribed.collect wrap step k)) := by
  intro s
  rw [Attempt.of_apply]
  have hmoved : ∀ {s s' r}, D.transcribed.next.apply s = (r, s') →
      ∃ T, worldly s' = worldly s ++ T ∧ Follows [] ((failureOf r).map Halt.failed) T := by
    intro s s' r hmove
    obtain ⟨T, hlog, htells⟩ := moved D.next s
    rw [hmove] at hlog htells
    exact ⟨T, hlog, htells⟩
  have hmapped : ∀ {k c w w' r}, (step k c).apply w = (r, w') →
      ∃ T, w'.2 = w.2 ++ T ∧ Follows [] ((failureOf r).map up) T := by
    intro k c w w' r hmap
    obtain ⟨T, hlog, htells⟩ := hstep k c w
    rw [hmap] at hlog htells
    exact ⟨T, hlog, htells⟩
  -- The induction is on the rows that are left.
  fun_induction Driver.collect D.transcribed wrap step k s with
  | case1 k s f s' hmove =>
    obtain ⟨T, hlog, htells⟩ := hmoved hmove
    refine ⟨T, hlog, ?_⟩
    rwa [failureOf_error, Option.map_some, hwrap]
  | case2 k s s' hmove => exact hmoved hmove
  | case3 k s c w hmove e w' hfail =>
    obtain ⟨T₁, hlog₁, htells₁⟩ := hmoved hmove
    obtain ⟨T₂, hlog₂, htells₂⟩ := hmapped hfail
    refine ⟨T₁ ++ T₂, ?_, htells₁.append htells₂⟩
    rw [← List.append_assoc, ← hlog₁]
    exact hlog₂
  | case4 k s c w hmove a w' hok as s' hrest ih | case5 k s c w hmove a w' hok e s' hrest ih =>
    obtain ⟨T₁, hlog₁, htells₁⟩ := hmoved hmove
    obtain ⟨T₂, hlog₂, htells₂⟩ := hmapped hok
    obtain ⟨T₃, hlog₃, htells₃⟩ := ih
    rw [hrest] at hlog₃ htells₃
    refine ⟨T₁ ++ (T₂ ++ T₃), ?_, htells₁.append (htells₂.append htells₃)⟩
    rw [hlog₃, ← List.append_assoc, ← List.append_assoc, ← hlog₁]
    exact congrArg (· ++ T₃) hlog₂

end Faithful

/-! ## Reading a cursor -/

section
variable {D : Driver σ}

theorem mapper_faithful (m : Mapper D α) (k : Nat) (c : D.Cursor) : Faithful Prod.snd id (m.transcribed k c) := by
  intro s
  refine ⟨[.mapped k _], rfl, .single rfl ?_ rfl⟩
  rw [Option.map_id]
  rfl

/-- A key is read and then looked at, and it may be no number. -/
theorem key_faithful (c : D.Cursor) : Faithful Prod.snd Halt.failed (Update.key (D := D.transcribed) c) := by
  rintro ⟨w, T⟩
  have hkey := D.transcribed.getAs_apply (.typed .bigInt) c 1 (w, T)
  refine ⟨[.read 1 ((D.get c 1).apply w).1], congrArg (fun x => x.2.2) hkey, .single rfl ?_ rfl⟩
  have hanswer : ((Update.key (D := D.transcribed) c).apply (w, T)).1
      = ((D.get c 1).apply w).1.bind (Target.typed .bigInt).read := congrArg Prod.fst hkey
  rw [hanswer]
  cases ((D.get c 1).apply w).1 with
  | error f => rfl
  | ok v    =>
    show (match (Target.typed .bigInt).read v with | .ok _ => none | .error f => some (Halt.failed f))
      = (failureOf ((Target.typed .bigInt).read v)).map Halt.failed
    cases (Target.typed .bigInt).read v with
    | error f => rfl
    | ok k    => rfl

theorem firstKey_faithful : Faithful worldly Halt.failed (Update.firstKey (D := D.transcribed)) := by
  refine Faithful.bind (Faithful.moved D.next) ?_
  intro b
  cases b with
  | true  => exact Faithful.of_reading key_faithful fun r => rfl
  | false => exact Faithful.pure none

theorem allKeys_faithful : Faithful worldly Halt.failed (Update.allKeys (D := D.transcribed)) := by
  refine Faithful.bind (Faithful.collect (fun _ => rfl) (fun _ c => key_faithful c) 1) ?_
  intro keys
  exact Faithful.pure keys.reduceOption

theorem firstRow_faithful (m : Mapper D α) : Faithful worldly id (Select.firstRow m.transcribed) := by
  refine Faithful.bind (Faithful.reword (Faithful.moved D.next) fun _ => rfl) ?_
  intro b
  cases b with
  | true  => exact Faithful.of_reading (mapper_faithful m 1) fun r => failureOf_map some r
  | false => exact Faithful.pure none

end

end Transcript

end NamedSql
