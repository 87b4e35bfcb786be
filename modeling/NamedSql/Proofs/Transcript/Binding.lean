import NamedSql.Proofs.Statement.Calls
import NamedSql.Proofs.Statement.Spent
import NamedSql.Proofs.Transcript.Endings
import NamedSql.Rehearsal.Driver

/-!
# `Proofs.Transcript.Binding` — a value for a name is a value for each of its slots

A value is bound to a name or to a number, and each way has its own look at the slots, its own name for what it
refuses, and its own path to the release. They do the same.

## Contents
- **One slot.** `Error.inTheName`, `Core.bindSlot_inTheName`: what a slot is called makes no other difference.
- **By name and by number.** `Core.bind_eq_forM_bindAt`; `HasCore.onCore_forM` for statements of every shape.
- **Steps.** `BindsEach`, the ways in which binding to several slots can end, and `BindsEach.asks`; `bind_depicted`,
  `bindAt_apply_iff`.
- `HasCore.bindValue_slot_by_slot`; `Rehearsal.pair` is an update for which a slot in the middle is refused.
-/

namespace NamedSql

variable {σ ε ε' α β S : Type} {D : Driver σ}

/-! ## One slot -/

/-- The same error; a refusal to bind is told of the name. -/
def Error.inTheName (name : String) : Error → Error
  | .bind _ value source => .bind name value source
  | e                    => e

namespace Core

/-- The name of a slot is only what a refusal is told of. -/
theorem bindSlot_inTheName (name name' : String) (slot : Nat) (v : Value) (s : Core D × σ) :
    (bindSlot name slot v).apply s = ((bindSlot name' slot v).reword (Error.inTheName name)).apply s := by
  obtain ⟨⟨text, p, k, st, cursor⟩, w⟩ := s
  rw [Attempt.reword_apply]
  cases st with
  | none    =>
    rw [bindSlot_of_unprepared rfl, bindSlot_of_unprepared rfl]
    rfl
  | some st =>
    match h : (D.bind slot v).apply (st, w) with
    | (.ok (), st', w')   =>
      rw [bindSlot_of_ok h, bindSlot_of_ok h]
      rfl
    | (.error f, st', w') =>
      rw [bindSlot_of_error h, bindSlot_of_error h]
      rfl

theorem bindSlot_positional (name : String) (slot : Nat) (v : Value) (s : Core D × σ) :
    ((bindSlot name slot v).apply s).2.1.positional = s.1.positional := by
  obtain ⟨⟨text, p, k, st, cursor⟩, w⟩ := s
  cases st with
  | none    => rw [bindSlot_of_unprepared rfl]
  | some st =>
    match h : (D.bind slot v).apply (st, w) with
    | (.ok (), st', w')   => rw [bindSlot_of_ok h]
    | (.error f, st', w') => rw [bindSlot_of_error h]

/-! ## By name and by number -/

/-- Slots that there are, one after the other: it makes no difference what they are called. -/
theorem forM_bindSlot_eq (name : String) (v : Value) (slots : List Nat) (c : Core D) (w : σ)
    (h : ∀ slot ∈ slots, 1 ≤ slot ∧ slot ≤ c.positional.names.length) :
    (slots.forM fun slot => bindSlot name slot v).apply (c, w)
      = ((slots.forM fun slot => bindAt slot v).reword (Error.inTheName name)).apply (c, w) := by
  -- The names of the statement stay as they are, so the slots that are left are still in range.
  induction slots generalizing c w with
  | nil => rfl
  | cons slot slots ih =>
    have hfirst := bindSlot_inTheName name ("#" ++ toString slot) slot v (c, w)
    have hnames := bindSlot_positional ("#" ++ toString slot) slot v (c, w)
    show (bindSlot name slot v >>= fun _ => slots.forM fun slot => bindSlot name slot v).apply (c, w)
      = ((bindAt slot v >>= fun _ => slots.forM fun slot => bindAt slot v).reword (Error.inTheName name)).apply (c, w)
    rw [Attempt.reword_apply] at hfirst ⊢
    rw [Attempt.bind_apply, Attempt.bind_apply, hfirst, bindAt_of_inRange (h slot List.mem_cons_self)]
    match hslot : (bindSlot ("#" ++ toString slot) slot v).apply (c, w) with
    | (.error e, c₁, w₁) => rfl
    | (.ok (), c₁, w₁)   =>
      rw [hslot] at hnames
      have hrest : ∀ slot ∈ slots, 1 ≤ slot ∧ slot ≤ c₁.positional.names.length := by
        rw [show c₁.positional = c.positional from hnames]
        exact fun slot hmem => h slot (List.mem_cons_of_mem _ hmem)
      exact ih c₁ w₁ hrest

theorem bind_eq_forM_bindAt (name : String) (v : Value) (c : Core D) (w : σ) :
    (bind name v).apply (c, w)
      = (((c.positional.slots name).forM fun slot => bindAt slot v).reword (Error.inTheName name)).apply (c, w) := by
  rw [bind_eq_forM]
  exact forM_bindSlot_eq name v _ c w fun slot hslot => Positional.inRange_of_mem_slots hslot

end Core

namespace HasCore

variable [HasCore D S]

theorem onCore_apply (x : Attempt (Core D × σ) ε α) (q : S) (w : σ) :
    (onCore x).apply (q, w)
      = ((x.apply (core q, w)).1, withCore q (x.apply (core q, w)).2.1, (x.apply (core q, w)).2.2) := rfl

/-- Steps on the core, one after the other, are steps on the statement. -/
theorem onCore_bind (x : Attempt (Core D × σ) ε α) (f : α → Attempt (Core D × σ) ε β) (q : S) (w : σ) :
    (onCore (x >>= f)).apply (q, w) = (onCore x >>= fun a => onCore (f a)).apply (q, w) := by
  rw [onCore_apply, Attempt.bind_apply, Attempt.bind_apply, onCore_apply]
  match x.apply (core q, w) with
  | (.error e, c, w') => rfl
  | (.ok a, c, w')    => simp only [onCore_apply, core_withCore, withCore_withCore]

theorem onCore_forM {γ : Type} (x : γ → Attempt (Core D × σ) ε PUnit) (l : List γ) (q : S) (w : σ) :
    (onCore (l.forM x)).apply (q, w) = (l.forM fun a => onCore (x a)).apply (q, w) := by
  induction l generalizing q w with
  | nil =>
    show (Except.ok PUnit.unit, withCore q (core q), w) = (Except.ok PUnit.unit, q, w)
    rw [withCore_core]
  | cons a l ih =>
    show (onCore (x a >>= fun _ => l.forM x)).apply (q, w)
      = (onCore (x a) >>= fun _ => l.forM fun a => onCore (x a)).apply (q, w)
    rw [onCore_bind, Attempt.bind_apply, Attempt.bind_apply]
    match (onCore (x a)).apply (q, w) with
    | (.error e, q', w') => rfl
    | (.ok u, q', w')    => exact ih q' w'

theorem bindValue_eq_forM_bindIndex (name : String) (v : Value) (q : S) (w : σ) :
    (bindValue name v).apply (q, w)
      = ((((core q : Core D).positional.slots name).forM fun slot => bindIndex slot v).reword
          (Error.inTheName name)).apply (q, w) := by
  unfold bindValue bindIndex
  rw [Attempt.reword_apply, ← onCore_forM, onCore_apply, onCore_apply, Core.bind_eq_forM_bindAt,
    Attempt.reword_apply]

theorem bindValue_of_not_mem {name : String} {q : S} (h : name ∉ (core q : Core D).positional.names) (v : Value)
    (w : σ) : (bindValue name v).apply (q, w) = (.ok (), q, w) := by
  rw [bindValue_eq_forM_bindIndex, Positional.slots_eq_nil_iff.mpr h]
  rfl

end HasCore

/-! ## Steps -/

open Transcript

namespace Core

/-- The ways in which binding a value to some slots in turn can end. `name` is what a refusal is told of. -/
inductive BindsEach (name : String) (v : Value) :
    List Nat → Core D.transcribed → σ → Except Error Unit → Core D.transcribed → σ → Transcript → Prop where
  | done {c : Core D.transcribed} {w : σ} : BindsEach name v [] c w (.ok ()) c w []
  /-- There is no statement to ask, and the rest is not looked at. -/
  | unprepared {slot : Nat} {slots : List Nat} {c : Core D.transcribed} {w : σ} (hc : c.handle.statement = none) :
      BindsEach name v (slot :: slots) c w (.error .statementClosed) c w []
  /-- The driver refuses the value: everything is released, and the rest is not asked. -/
  | refused {slot : Nat} {slots : List Nat} {text : String} {p : Positional} {k : Option D.Connection}
      {s s' : D.Statement} {cursor : Option D.Cursor} {h : Handle D.transcribed} {w w₁ w' : σ} {f : Failure}
      {r : Except Error Unit} {closes : Transcript} (hb : (D.bind slot v).apply (s, w) = (.error f, s', w₁))
      (hr : Releasing ⟨k, some s', cursor⟩ w₁ r h w' closes) :
      BindsEach name v (slot :: slots) ⟨text, p, k, some s, cursor⟩ w (.error (.bind name v.display f)) ⟨text, p, h⟩ w'
        (.asked (.bind slot v) (some f) :: closes)
  | bound {slot : Nat} {slots : List Nat} {text : String} {p : Positional} {k : Option D.Connection}
      {s s' : D.Statement} {cursor : Option D.Cursor} {c' : Core D.transcribed} {w w₁ w' : σ}
      {r : Except Error Unit} {steps : Transcript} (hb : (D.bind slot v).apply (s, w) = (.ok (), s', w₁))
      (hrest : BindsEach name v slots ⟨text, p, k, some s', cursor⟩ w₁ r c' w' steps) :
      BindsEach name v (slot :: slots) ⟨text, p, k, some s, cursor⟩ w r c' w' (.asked (.bind slot v) none :: steps)

/-- The slots are asked in turn, all of them unless something is wrong. -/
theorem BindsEach.asks {name : String} {v : Value} {slots : List Nat} {c c' : Core D.transcribed} {w w' : σ}
    {r : Except Error Unit} {steps : Transcript} (h : BindsEach name v slots c w r c' w' steps) :
    steps.filterMap Step.request? <+: slots.map (.bind · v)
      ∧ (r = .ok () → steps.filterMap Step.request? = slots.map (.bind · v)) := by
  induction h with
  | done          => exact ⟨List.prefix_rfl, fun _ => rfl⟩
  | unprepared hc => exact ⟨List.nil_prefix, fun hr => absurd hr (by simp)⟩
  | @refused slot slots _ _ _ _ _ _ _ _ _ _ _ _ closes hb hr =>
    refine ⟨?_, fun hr => absurd hr (by simp)⟩
    show Request.bind slot v :: closes.filterMap Step.request? <+: Request.bind slot v :: slots.map (.bind · v)
    have hclosesOnly : closes.filterMap Step.request? = [] := by
      refine List.filterMap_eq_nil_iff.mpr ?_
      intro x hx
      obtain ⟨kind, f, rfl⟩ := hr.only_closes x hx
      rfl
    rw [hclosesOnly]
    exact List.cons_prefix_cons.mpr ⟨rfl, List.nil_prefix⟩
  | bound hb hrest ih => exact ⟨List.cons_prefix_cons.mpr ⟨rfl, ih.1⟩, fun hr => congrArg (List.cons _) (ih.2 hr)⟩

theorem forM_bindSlot_depicted (name : String) (v : Value) (slots : List Nat) :
    Depicts (BindsEach (D := D) name v slots) (slots.forM fun slot => bindSlot (D := D.transcribed) name slot v) where
  sound := by
    intro c c' w w' r steps h T
    -- Each slot that is bound enters one step, so the induction is for every transcript of before.
    induction h generalizing T with
    | done          =>
      rw [List.append_nil]
      rfl
    | unprepared hc =>
      rw [List.append_nil]
      exact Attempt.bind_of_error (bindSlot_of_unprepared hc name _ v _) _
    | refused hb hr =>
      refine Attempt.bind_of_error ?_ _
      rw [bindSlot_of_error (D := D.transcribed) (noting_of_apply hb _ T), cleanup_depicted.sound hr, failureOf_error,
        List.append_assoc]
      rfl
    | @bound slot slots text p k s s' cursor c' w w₁ w' r steps hb hrest ih =>
      show (bindSlot name slot v >>= fun _ => slots.forM fun slot => bindSlot name slot v).apply _ = _
      rw [Attempt.bind_apply, bindSlot_of_ok (D := D.transcribed) (noting_of_apply hb _ T),
        List.append_cons T _ steps]
      exact ih _
  total := by
    intro c w
    induction slots generalizing c w with
    | nil => exact ⟨_, _, _, _, .done⟩
    | cons slot slots ih =>
      obtain ⟨text, p, k, s, cursor⟩ := c
      cases s with
      | none   => exact ⟨_, _, _, _, .unprepared rfl⟩
      | some s =>
        match hb : (D.bind slot v).apply (s, w) with
        | (.error f, s', w₁) =>
          obtain ⟨r, h, w', closes, hr⟩ := cleanup_depicted.total ⟨k, some s', cursor⟩ w₁
          exact ⟨_, _, _, _, .refused hb hr⟩
        | (.ok (), s', w₁)   =>
          obtain ⟨r, c', w', steps, hrest⟩ := ih ⟨text, p, k, some s', cursor⟩ w₁
          exact ⟨r, c', w', _, .bound hb hrest⟩

theorem bind_depicted (name : String) (v : Value) :
    Depicts (fun c => BindsEach name v (c.positional.slots name) c) (bind (D := D.transcribed) name v) where
  sound h := (forM_bindSlot_depicted name v _).sound h
  total c := (forM_bindSlot_depicted name v _).total c

theorem bindAt_apply_iff {slot : Nat} {v : Value} {c c' : Core D.transcribed} {w w' : σ} {T T' : Transcript}
    {r : Except Error Unit} (h : 1 ≤ slot ∧ slot ≤ c.positional.names.length) :
    (bindAt (D := D.transcribed) slot v).apply (c, w, T) = (r, c', w', T')
      ↔ ∃ steps, T' = T ++ steps ∧ BindsEach ("#" ++ toString slot) v [slot] c w r c' w' steps := by
  have hone : ([slot].forM fun slot' => bindSlot (D := D.transcribed) ("#" ++ toString slot) slot' v).apply (c, w, T)
      = (bindSlot (D := D.transcribed) ("#" ++ toString slot) slot v).apply (c, w, T) :=
    congrArg (Attempt.apply · _) (bind_pure (bindSlot (D := D.transcribed) ("#" ++ toString slot) slot v))
  rw [bindAt_of_inRange h, ← hone]
  exact (forM_bindSlot_depicted _ v [slot]).apply_iff

end Core

namespace HasCore

/-- A step on the core of a statement, and what the statement is afterwards. -/
theorem onCore_apply_iff [HasCore D.transcribed S] {x : Attempt (Core D.transcribed × σ × Transcript) ε α}
    {R : Core D.transcribed → σ → Except ε α → Core D.transcribed → σ → Transcript → Prop} {q q' : S}
    {w w' : σ} {T T' : Transcript} {r : Except ε α}
    (hx : ∀ c', x.apply (core q, w, T) = (r, c', w', T') ↔ ∃ steps, T' = T ++ steps ∧ R (core q) w r c' w' steps) :
    (onCore x).apply (q, w, T) = (r, q', w', T')
      ↔ ∃ c' steps, q' = withCore q c' ∧ T' = T ++ steps ∧ R (core q) w r c' w' steps := by
  rw [onCore_apply]
  constructor
  · intro hend
    obtain ⟨rfl, hq', hs'⟩ : _ = r ∧ _ = q' ∧ _ = (w', T') := by simpa only [Prod.mk.injEq] using hend
    obtain ⟨steps, hT', hR⟩ := (hx (x.apply (core q, w, T)).2.1).mp (by rw [← hs'])
    exact ⟨_, steps, hq'.symm, hT', hR⟩
  · rintro ⟨c', steps, rfl, hT', hR⟩
    rw [(hx c').mpr ⟨steps, hT', hR⟩]

/-- **A value for a name is a value for each of its slots.** Whatever has become of the statement before, binding to a
    name is binding to the slots of the name, in ascending order and until one fails: the answer is the same, but that
    a refusal is told of the name, and so are the statement and the world. The driver is asked for these slots and no
    other, and for none behind one that it refuses; it is asked for nothing if the name does not occur. -/
theorem bindValue_slot_by_slot (D : Driver σ) :
    (∀ (p : Positional) (name : String), (p.slots name).Pairwise (· < ·)
      ∧ ∀ slot, slot ∈ p.slots name ↔ 1 ≤ slot ∧ p.names[slot - 1]? = some name)
    ∧ (∀ {S : Type} [HasCore D S] (name : String) (v : Value) (q : S) (w : σ),
      (bindValue name v).apply (q, w)
          = ((((core q : Core D).positional.slots name).forM fun slot => bindIndex slot v).reword
              (Error.inTheName name)).apply (q, w)
        ∧ (name ∉ (core q : Core D).positional.names → (bindValue name v).apply (q, w) = (.ok (), q, w)))
    -- The same with the steps that are taken.
    ∧ (∀ {S : Type} [HasCore D.transcribed S] (name : String) (v : Value) (q q' : S) (w w' : σ) (T T' : Transcript)
        (r : Except Error Unit),
      let c : Core D.transcribed := core q
      ((bindValue name v).apply (q, w, T) = (r, q', w', T')
        ↔ ∃ c' steps, q' = withCore q c' ∧ T' = T ++ steps
          ∧ Core.BindsEach name v (c.positional.slots name) c w r c' w' steps)
      ∧ ∀ slot, 1 ≤ slot ∧ slot ≤ c.positional.names.length →
        ((bindIndex slot v).apply (q, w, T) = (r, q', w', T')
          ↔ ∃ c' steps, q' = withCore q c' ∧ T' = T ++ steps
            ∧ Core.BindsEach ("#" ++ toString slot) v [slot] c w r c' w' steps))
    ∧ (∀ (name : String) (v : Value) (slots : List Nat) (c c' : Core D.transcribed) (w w' : σ)
        (r : Except Error Unit) (steps : Transcript), Core.BindsEach name v slots c w r c' w' steps →
      steps.filterMap Step.request? <+: slots.map (.bind · v)
        ∧ (r = .ok () → steps.filterMap Step.request? = slots.map (.bind · v))) := by
  refine ⟨?slots, ?same, ?steps, ?asks⟩
  case slots =>
    intro p name
    exact ⟨p.slots_ascending name, fun slot => Positional.mem_slots_iff⟩
  case same =>
    intro S _ name v q w
    exact ⟨bindValue_eq_forM_bindIndex name v q w, fun h => bindValue_of_not_mem h v w⟩
  case steps =>
    intro S _ name v q q' w w' T T' r c
    refine ⟨onCore_apply_iff fun c' => (Core.bind_depicted name v).apply_iff, ?_⟩
    intro slot hslot
    exact onCore_apply_iff fun c' => Core.bindAt_apply_iff hslot
  case asks =>
    intro name v slots c c' w w' r steps h
    exact h.asks

end HasCore

/-- A scripted database that refuses the second value it is given. -/
def Rehearsal.picky : Rehearsal.Script where
  number      := 0
  name        := "picky"
  tag         := "picky"
  labels      := []
  rows        := []
  keys        := []
  updateCount := 1
  batchCounts := none
  uncapped    := false
  faults      := [⟨.bind, some 2, some "no"⟩]

/-- An update with two names, one of which occurs twice. -/
def Rehearsal.pair : Update Rehearsal.driver.transcribed :=
  ⟨"values (:a, :b, :a)", ⟨"values (?, ?, ?)", ["a", "b", "a"]⟩, some picky, some ⟨picky, .generated, [], [], none⟩, none⟩

open Rehearsal in
/-- The first slot of a name is taken and the second one refused; for a name that does not occur nothing is asked; and
    the slot between the two can be bound to by its number. -/
theorem bindValue_slot_by_slot_pair :
    pair.core.positional = Positional.ofNamed pair.core.text
      ∧ (HasCore.bindValue (D := driver.transcribed) "c" (.text "x")).apply (pair, .start, [])
          = (.ok (), pair, .start, [])
      ∧ (∃ c' w' steps,
        Core.BindsEach "a" (.text "x") [1, 3] pair.core .start (.error (.bind "a" "x" (.saying "no"))) c' w' steps
          ∧ steps.filterMap Step.request? <+: [.bind 1 (.text "x"), .bind 3 (.text "x")])
      ∧ (∃ c' w' steps, Core.BindsEach "#2" (.text "x") [2] pair.core .start (.ok ()) c' w' steps
          ∧ steps.filterMap Step.request? = [.bind 2 (.text "x")]) := by
  obtain ⟨-, hsame, -⟩ := HasCore.bindValue_slot_by_slot driver.transcribed
  obtain ⟨-, -, hsteps, hasks⟩ := HasCore.bindValue_slot_by_slot driver
  refine ⟨by decide +kernel, (hsame "c" _ pair _).2 (by decide), ?named, ?numbered⟩
  case named =>
    obtain ⟨c', steps, -, -, hbinding⟩ := (hsteps "a" (.text "x") pair _ .start _ [] _ _).1.mp rfl
    exact ⟨c', _, steps, hbinding, (hasks _ _ _ _ _ _ _ _ _ hbinding).1⟩
  case numbered =>
    obtain ⟨c', steps, -, -, hbinding⟩ := ((hsteps "a" (.text "x") pair _ .start _ [] _ _).2 2 (by decide)).mp rfl
    exact ⟨c', _, steps, hbinding, (hasks _ _ _ _ _ _ _ _ _ hbinding).2 rfl⟩

end NamedSql
