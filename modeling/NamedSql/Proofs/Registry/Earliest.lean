import NamedSql.Driver.Lift
import NamedSql.Proofs.Statement.Calls
import NamedSql.Rehearsal.Driver
import NamedSql.Statement.Query

/-!
# `Proofs.Registry.Earliest` — of the connectors that fit a name, the earliest is meant

A lookup answers the connector that was registered before all others that fit the name; what is registered behind it
stays behind it. Who opens a connection, for itself or for a statement, asks this connector for one, and no other.
Which connectors are asked is seen when each of them notes its place in the registry before it answers.

## Contents
- **Names.** `Connector.Fits`, `Earliest`; `Registry.lookup_eq_ok_iff`, `Registry.lookup_eq_error_iff`.
- **Registering.** `Registry.registerAll`: one connector after the other. `Earliest.register` for one of them and
  `Earliest.registerAll` for all; `Earliest.name_ne`: no connector before it has the same name.
- **Noting the places.** `Visits`, `Driver.visited`, `Connector.visited`, `Registry.visited`, and the objects that a
  visited driver hands out. `Visiting`: a step that does the same, and visits these places.
- **Asking.** `Asks`: a step asks the connector of a name, or none. `Registry.connect_asks`, `Update.named_asks`,
  `Select.named_asks`, and `Registry.entryAsks` for all that an entry point starts; `Query.foldl_on`: of the names it
  was narrowed to the last one counts.
- `Registry.earliest_answers`.
-/

namespace NamedSql

variable {σ ε α β γ δ : Type} {D : Driver σ}

/-! ## Names -/

/-- A connector is among those that a name means: it has the name, or there is no name. -/
def Connector.Fits (c : Connector D) (name : Option String) : Prop := ∀ n ∈ name, c.name = n

/-- The connector at a place fits a name, and none before it does. -/
structure Earliest (cs : List (Connector D)) (name : Option String) (i : Nat) (c : Connector D) : Prop where
  there  : cs[i]? = some c
  fits   : c.Fits name
  before : ∀ j < i, ∀ d, cs[j]? = some d → ¬ d.Fits name

theorem Connector.all_name_eq (c : Connector D) (name : Option String) :
    name.all (c.name == ·) = true ↔ c.Fits name := by
  cases name with
  | none   => simp [Fits]
  | some n => simp [Fits]

theorem earliest_iff_find? {cs : List (Connector D)} {name : Option String} {c : Connector D} :
    (∃ i, Earliest cs name i c) ↔ (cs.find? fun d => name.all (d.name == ·)) = some c := by
  rw [List.find?_eq_some_iff_getElem]
  constructor
  · rintro ⟨i, hthere, hfits, hbefore⟩
    obtain ⟨hi, hc⟩ := List.getElem?_eq_some_iff.mp hthere
    refine ⟨(c.all_name_eq name).mpr hfits, i, hi, hc, ?_⟩
    intro j hj
    have hnot := hbefore j hj cs[j] (List.getElem?_eq_getElem (Nat.lt_trans hj hi))
    simpa [← Connector.all_name_eq] using hnot
  · rintro ⟨hfits, i, hi, hc, hbefore⟩
    refine ⟨i, List.getElem?_eq_some_iff.mpr ⟨hi, hc⟩, (c.all_name_eq name).mp hfits, ?_⟩
    intro j hj d hd
    obtain ⟨hj', rfl⟩ := List.getElem?_eq_some_iff.mp hd
    have hnot := hbefore j hj
    rw [← Connector.all_name_eq]
    simpa using hnot

namespace Registry

variable {r : Registry D} {name : Option String} {i : Nat} {c : Connector D}

theorem lookup_eq_ok_iff : r.lookup name = .ok c ↔ ∃ i, Earliest r.connectors name i c := by
  rw [earliest_iff_find?, lookup]
  cases r.connectors.find? fun d => name.all (d.name == ·) with
  | none   => simp
  | some d => simp

theorem lookup_eq_error_iff {e : Error} :
    r.lookup name = .error e ↔ e = .noConnector name ∧ ∀ c ∈ r.connectors, ¬ c.Fits name := by
  have hnone : r.connectors.find? (fun d => name.all (d.name == ·)) = none ↔ ∀ c ∈ r.connectors, ¬ c.Fits name := by
    simp only [List.find?_eq_none, Connector.all_name_eq]
  rw [← hnone, lookup]
  cases r.connectors.find? fun d => name.all (d.name == ·) with
  | none   => simp [eq_comm]
  | some d => simp

/-! ## Registering -/

/-- Adds connectors one after the other. -/
def registerAll (r : Registry D) (cs : List (Connector D)) : Registry D := cs.foldl register r

theorem registerAll_connectors (r : Registry D) (cs : List (Connector D)) :
    (r.registerAll cs).connectors = r.connectors ++ cs := by
  induction cs generalizing r with
  | nil          => simp [registerAll]
  | cons c cs ih =>
    have hcs := ih (r.register c)
    simpa [registerAll, register] using hcs

/-- What is registered stays at its place. -/
theorem registerAll_getElem? (h : r.connectors[i]? = some c) (later : List (Connector D)) :
    (r.registerAll later).connectors[i]? = some c := by
  have hi : i < r.connectors.length := (List.getElem?_eq_some_iff.mp h).1
  rw [registerAll_connectors, List.getElem?_append_left hi, h]

end Registry

namespace Earliest

variable {cs : List (Connector D)} {r : Registry D} {name : Option String} {i j : Nat} {c d : Connector D}

/-- A connector more does not come before those that are there. -/
theorem register (h : Earliest r.connectors name i c) (d : Connector D) :
    Earliest (r.register d).connectors name i c := by
  have hi : i < r.connectors.length := (List.getElem?_eq_some_iff.mp h.there).1
  have hkept : ∀ j ≤ i, (r.connectors ++ [d])[j]? = r.connectors[j]? :=
    fun j hj => List.getElem?_append_left (Nat.lt_of_le_of_lt hj hi)
  refine ⟨?_, h.fits, ?_⟩
  · show (r.connectors ++ [d])[i]? = some c
    rw [hkept i (Nat.le_refl i), h.there]
  · intro j hj b hb
    have hb' : (r.connectors ++ [d])[j]? = some b := hb
    rw [hkept j (Nat.le_of_lt hj)] at hb'
    exact h.before j hj b hb'

theorem registerAll (h : Earliest r.connectors name i c) (later : List (Connector D)) :
    Earliest (r.registerAll later).connectors name i c := by
  induction later generalizing r with
  | nil             => exact h
  | cons d later ih => exact ih (h.register d)

/-- What has the same name as a connector before it is not the earliest, whatever the name that is asked for. -/
theorem name_ne (h : Earliest cs name j d) (hij : i < j) (hc : cs[i]? = some c) : c.name ≠ d.name := by
  intro hname
  apply h.before i hij c hc
  intro n hn
  rw [hname]
  exact h.fits n hn

end Earliest

/-! ## Noting the places -/

/-- The places of the connectors that were asked for a connection, in order. -/
abbrev Visits := List Nat

/-- The same driver in a world where visits are noted. -/
abbrev Driver.visited (D : Driver σ) : Driver (σ × Visits) := D.lift Prod.fst fun w s => (w, s.2)

/-- A connector that notes its place when it is asked. -/
def Connector.visited (c : Connector D) (place : Nat) : Connector D.visited where
  name    := c.name
  connect := .of fun (w, V) => let (r, w') := c.connect.apply w; (r, w', V ++ [place])

/-- The same registry, with connectors that note their places. -/
def Registry.visited (r : Registry D) : Registry D.visited := ⟨r.connectors.mapIdx fun i c => c.visited i⟩

def Handle.visited (h : Handle D) : Handle D.visited := ⟨h.connection, h.statement, h.cursor⟩

def Core.visited (c : Core D) : Core D.visited := ⟨c.text, c.positional, c.handle.visited⟩

def Update.visited (u : Update D) : Update D.visited := ⟨u.core.visited⟩

/-- The same mapper, which visits nobody. -/
def Mapper.visited (m : Mapper D α) : Mapper D.visited α :=
  fun n c => (m n c).within Prod.fst fun w s => (w, s.2)

def Select.visited (s : Select D α) : Select D.visited α := ⟨s.core.visited, s.mapper.visited, s.default⟩

/-- The second step does what the first does, with the answer told by `up`, and visits these places. -/
def Visiting (places : Visits) (up : α → β) (y : Attempt σ ε α) (x : Attempt (σ × Visits) ε β) : Prop :=
  ∀ w V, x.apply (w, V) = ((y.apply w).1.map up, (y.apply w).2, V ++ places)

namespace Visiting

variable {places : Visits} {up : α → β} {up' : γ → δ} {y : Attempt σ ε α} {x : Attempt (σ × Visits) ε β}

theorem pure (up : α → β) (a : α) : Visiting [] up (Pure.pure a : Attempt σ ε α) (Pure.pure (up a)) :=
  fun w V => by simp [Except.map]

theorem throw (e : ε) : Visiting [] up (MonadExcept.throw e : Attempt σ ε α) (MonadExcept.throw e) :=
  fun w V => by simp [Except.map]

/-- The visits of the first step stay when the steps that follow visit nobody. -/
theorem bind {f : α → Attempt σ ε γ} {g : β → Attempt (σ × Visits) ε δ} (h : Visiting places up y x)
    (hfg : ∀ a, Visiting [] up' (f a) (g (up a))) : Visiting places up' (y >>= f) (x >>= g) := by
  intro w V
  have hx := h w V
  rw [Attempt.bind_apply, Attempt.bind_apply, hx]
  match y.apply w with
  | (.error e, w') => rfl
  | (.ok a, w')    =>
    have hg := hfg a w' (V ++ places)
    rwa [List.append_nil] at hg

theorem reword {ε' : Type} (f : ε → ε') (h : Visiting places up y x) :
    Visiting places up (y.reword f) (x.reword f) := by
  intro w V
  have hx := h w V
  rw [Attempt.reword_apply, Attempt.reword_apply, hx]
  match y.apply w with
  | (.error e, w') => rfl
  | (.ok a, w')    => rfl

end Visiting

theorem Connector.connect_visiting (c : Connector D) (place : Nat) :
    Visiting [place] id c.connect (c.visited place).connect := by
  intro w V
  rw [Except.map_id]
  rfl

/-- Statements are prepared without a further visit. -/
theorem Core.prepare_visiting (k : D.Connection) (text : String) (keys : KeyCapture) :
    Visiting [] Core.visited (Core.prepare k text keys) (Core.prepare (D := D.visited) k text keys) := by
  intro w V
  rw [List.append_nil]
  match hp : (D.prepare (Positional.ofNamed text).text keys).apply (k, w) with
  | (.ok st, k', w') =>
    have hp' : (D.visited.prepare (Positional.ofNamed text).text keys).apply (k, w, V) = (.ok st, k', w', V) :=
      congrArg (fun out => (out.1, out.2.1, out.2.2, V)) hp
    rw [prepare_of_ok hp, prepare_of_ok hp']
    rfl
  | (.error f, k', w') =>
    have hp' : (D.visited.prepare (Positional.ofNamed text).text keys).apply (k, w, V) = (.error f, k', w', V) :=
      congrArg (fun out => (out.1, out.2.1, out.2.2, V)) hp
    rw [prepare_of_error hp, prepare_of_error hp']
    rfl

/-- Reading a column visits nobody either. -/
theorem Mapper.column_visited (t : Target) (n : Nat) :
    (column t n : Mapper D.visited (Option t.Carrier)) = (column t n : Mapper D (Option t.Carrier)).visited := by
  have hread : ∀ c : D.Cursor, Visiting [] id (D.getAs t c n) (D.visited.getAs t c n) := by
    intro c
    have hget : Visiting [] id (D.get c n) (D.visited.get c n) := by
      intro w V
      rw [List.append_nil, Except.map_id]
      rfl
    refine hget.bind ?_
    intro v
    dsimp only [id]
    cases t.read v with
    | ok a    => exact Visiting.pure id a
    | error f => exact Visiting.throw f
  funext k c s
  have hcolumn := (hread c).reword Halt.failed s.1 s.2
  rw [List.append_nil, Except.map_id] at hcolumn
  exact hcolumn

/-! ## Asking -/

theorem Earliest.visited {r : Registry D} {name : Option String} {i : Nat} {c : Connector D}
    (h : Earliest r.connectors name i c) : Earliest r.visited.connectors name i (c.visited i) where
  there := by simp [Registry.visited, List.getElem?_mapIdx, h.there]
  fits := h.fits
  before j hj d hd := by
    rw [Registry.visited, List.getElem?_mapIdx, Option.map_eq_some_iff] at hd
    obtain ⟨b, hb, rfl⟩ := hd
    exact h.before j hj b hb

/-- A step asks the earliest connector that fits a name, once, and no other. If there is none, it asks nobody and says
    so. In either case it does what it does when nothing is noted. -/
structure Asks (r : Registry D) (name : Option String) (up : α → β) (y : Attempt σ Error α)
    (x : Attempt (σ × Visits) Error β) : Prop where
  found {i : Nat} {c : Connector D} (h : Earliest r.connectors name i c) : Visiting [i] up y x
  missing (h : ∀ c ∈ r.connectors, ¬ c.Fits name) :
    Visiting [] up y x ∧ ∀ w, y.apply w = (.error (.noConnector name), w)

section
variable {r : Registry D} {name : Option String}

theorem Asks.bind {up : α → β} {up' : γ → δ} {y : Attempt σ Error α} {x : Attempt (σ × Visits) Error β}
    {f : α → Attempt σ Error γ} {g : β → Attempt (σ × Visits) Error δ} (h : Asks r name up y x)
    (hfg : ∀ a, Visiting [] up' (f a) (g (up a))) : Asks r name up' (y >>= f) (x >>= g) where
  found hc := (h.found hc).bind hfg
  missing hnone := by
    obtain ⟨hsame, herr⟩ := h.missing hnone
    exact ⟨hsame.bind hfg, fun w => Attempt.bind_of_error (herr w) f⟩

theorem Registry.connect_asks (r : Registry D) (name : Option String) :
    Asks r name id (r.connect name) (r.visited.connect name) where
  found {i c} h := by
    have hfound   : r.lookup name = .ok c := lookup_eq_ok_iff.mpr ⟨i, h⟩
    have hvisited : r.visited.lookup name = .ok (c.visited i) := lookup_eq_ok_iff.mpr ⟨i, h.visited⟩
    simp only [connect, hfound, hvisited]
    exact (c.connect_visiting i).reword Error.connect
  missing h := by
    have hnone : r.lookup name = .error (.noConnector name) := lookup_eq_error_iff.mpr ⟨rfl, h⟩
    have hvisited : r.visited.lookup name = .error (.noConnector name) := by
      refine lookup_eq_error_iff.mpr ⟨rfl, ?_⟩
      intro d hd
      obtain ⟨i, hi, rfl⟩ := List.mem_mapIdx.mp hd
      exact h r.connectors[i] (List.getElem_mem hi)
    simp only [connect, hnone, hvisited]
    exact ⟨Visiting.throw _, fun w => rfl⟩

theorem Core.connect_asks (r : Registry D) (name : Option String) (text : String) (keys : KeyCapture) :
    Asks r name Core.visited (Core.connect r name text keys) (Core.connect r.visited name text keys) :=
  (r.connect_asks name).bind fun k => prepare_visiting k text keys

theorem Update.named_asks (r : Registry D) (name : Option String) (sql : String) :
    Asks r name Update.visited (Update.named r name sql) (Update.named r.visited name sql) :=
  (Core.connect_asks r name sql .generated).bind fun c => Visiting.pure Update.visited ⟨c⟩

theorem Select.named_asks (r : Registry D) (name : Option String) (sql : String) (m : Mapper D α) :
    Asks r name Select.visited (Select.named r name sql m) (Select.named r.visited name sql m.visited) :=
  (Core.connect_asks r name sql .none).bind fun c => Visiting.pure Select.visited ⟨c, m, none⟩

end

/-- Of the names that an entry point is narrowed to, one after the other, the last one counts. -/
theorem Query.foldl_on (q : Query D) (names : List String) :
    names.foldl Query.on q = ⟨q.registry, names.getLast?.or q.connectionName⟩ := by
  induction names generalizing q with
  | nil             => simp
  | cons n names ih =>
    rw [List.foldl_cons, ih, List.getLast?_cons]
    cases names.getLast? with
    | none   => simp [on]
    | some m => simp [on]

namespace Registry

/-- Whatever statement an entry point starts, it asks the connector that a name means. -/
structure EntryAsks (r : Registry D) (name : Option String) (q : Query D) (q' : Query D.visited) : Prop where
  update (sql : String) : Asks r name Update.visited (q.update sql) (q'.update sql)
  object {α : Type} (sql : String) (m : Mapper D α) :
    Asks r name Select.visited (q.forObject sql m) (q'.forObject sql m.visited)
  string (sql : String) : Asks r name Select.visited (q.forString sql) (q'.forString sql)
  integer (sql : String) : Asks r name Select.visited (q.forInteger sql) (q'.forInteger sql)
  long (sql : String) : Asks r name Select.visited (q.forLong sql) (q'.forLong sql)
  double (sql : String) : Asks r name Select.visited (q.forDouble sql) (q'.forDouble sql)

theorem entryAsks (r : Registry D) (name : Option String) : EntryAsks r name ⟨r, name⟩ ⟨r.visited, name⟩ := by
  -- The shorthands read the first column.
  have hcolumn : ∀ (sql : String) (t : Target),
      Asks r name Select.visited (Select.named r name sql (.column t 1))
        (Select.named r.visited name sql (.column t 1)) := by
    intro sql t
    rw [Mapper.column_visited]
    exact Select.named_asks r name sql (.column t 1)
  exact {
    update  := Update.named_asks r name
    object  := Select.named_asks r name
    string  := fun sql => hcolumn sql (.typed .varchar)
    integer := fun sql => hcolumn sql (.typed .integer)
    long    := fun sql => hcolumn sql (.typed .bigInt)
    double  := fun sql => hcolumn sql (.typed .double) }

/-- A lookup answers the connector that was registered before all others that fit the name, and it does so whatever is
    registered afterwards; only if none fits it fails, telling the name. So a connector with a name that another one
    has had before it is never reached. To connect, or to start a statement, is to ask the connector that a lookup
    would answer, once, and no other; nobody is asked if there is none. -/
theorem earliest_answers (D : Driver σ) :
    -- What a lookup answers.
    (∀ (cs : List (Connector D)) (name : Option String),
      (∀ c, (empty.registerAll cs).lookup name = .ok c ↔ ∃ i, Earliest cs name i c)
        ∧ ∀ e, (empty.registerAll cs).lookup name = .error e ↔ e = .noConnector name ∧ ∀ c ∈ cs, ¬ c.Fits name)
    -- What is registered afterwards.
    ∧ (∀ (r : Registry D) (name : Option String) (c : Connector D), r.lookup name = .ok c →
      ∃ i, Earliest r.connectors name i c ∧ ∀ later,
        Earliest (r.registerAll later).connectors name i c ∧ (r.registerAll later).lookup name = .ok c)
    -- A connector behind another one of its name.
    ∧ (∀ (r : Registry D) (i j : Nat) (c d : Connector D), i < j → r.connectors[i]? = some c →
      r.connectors[j]? = some d → c.name = d.name →
      ∀ later name b, ¬ Earliest (r.registerAll later).connectors name j b)
    -- Whom a connection is asked for.
    ∧ (∀ (r : Registry D) (name : Option String) (sql : String),
      Asks r name id (r.connect name) (r.visited.connect name)
        ∧ Asks r name Update.visited (Update.named r name sql) (Update.named r.visited name sql)
        ∧ ∀ {α : Type} (m : Mapper D α),
          Asks r name Select.visited (Select.named r name sql m) (Select.named r.visited name sql m.visited))
    -- The same for an entry point that was narrowed to one name after the other, or not at all.
    ∧ ∀ (r : Registry D) (names : List String),
      EntryAsks r names.getLast? (names.foldl Query.on (.ofRegistry r))
        (names.foldl Query.on (.ofRegistry r.visited)) := by
  refine ⟨?lookup, ?later, ?behind, ?asking, ?narrowed⟩
  case lookup =>
    intro cs name
    have hcs : ((empty : Registry D).registerAll cs).connectors = cs := registerAll_connectors empty cs
    constructor
    · intro c
      rw [lookup_eq_ok_iff, hcs]
    · intro e
      rw [lookup_eq_error_iff, hcs]
  case later =>
    intro r name c hc
    obtain ⟨i, hi⟩ := lookup_eq_ok_iff.mp hc
    refine ⟨i, hi, ?_⟩
    intro later
    have hkept := hi.registerAll later
    exact ⟨hkept, lookup_eq_ok_iff.mpr ⟨i, hkept⟩⟩
  case behind =>
    intro r i j c d hij hc hd hname later name b h
    have hb : b = d := by
      have hthere := h.there
      rw [registerAll_getElem? hd later] at hthere
      exact (Option.some.inj hthere).symm
    have hne : c.name ≠ b.name := h.name_ne hij (registerAll_getElem? hc later)
    rw [hb] at hne
    exact hne hname
  case asking =>
    intro r name sql
    exact ⟨r.connect_asks name, Update.named_asks r name sql, Select.named_asks r name sql⟩
  case narrowed =>
    intro r names
    simp only [Query.foldl_on, Query.ofRegistry, Option.or_none]
    exact r.entryAsks names.getLast?

end Registry

/-- A scripted database without rows. -/
def Rehearsal.blank (number : Nat) (name : String) : Rehearsal.Script where
  number      := number
  name        := name
  tag         := name
  labels      := []
  rows        := []
  keys        := []
  updateCount := 0
  batchCounts := none
  uncapped    := false
  faults      := []

/-- The connectors of three databases, the last two of the same name. -/
def Rehearsal.namesakes : List (Connector Rehearsal.driver) :=
  [connector (blank 0 "primary"), connector (blank 1 "reporting"), connector (blank 2 "reporting")]

open Rehearsal in
/-- The second database is used, and nobody ever hears of the third. -/
theorem Registry.earliest_answers_namesakes :
    (Registry.empty.registerAll namesakes).lookup (some "reporting") = .ok (connector (blank 1 "reporting"))
      ∧ (Registry.empty.registerAll namesakes).lookup (some "archive") = .error (.noConnector (some "archive"))
      ∧ (∀ later name b,
          ¬ Earliest ((Registry.empty.registerAll namesakes).registerAll later).connectors name 2 b)
      ∧ ∃ u w,
          ((((Query.ofRegistry (Registry.empty.registerAll namesakes).visited).on "primary").on "reporting").update
            "delete from t where n = :n").apply (World.start, []) = (.ok u, w, [1]) := by
  obtain ⟨hlookup, -, hbehind, -, hquery⟩ := Registry.earliest_answers Rehearsal.driver
  have hreporting : Earliest namesakes (some "reporting") 1 (connector (blank 1 "reporting")) := by
    refine ⟨rfl, ?_, ?_⟩
    · intro n hn
      exact Option.some.inj hn
    · intro j hj d hd hfits
      obtain rfl : j = 0 := by omega
      obtain rfl := Option.some.inj hd
      exact absurd (hfits "reporting" rfl) (by decide)
  refine ⟨?_, ?_, ?_, ?_⟩
  · exact ((hlookup namesakes (some "reporting")).1 _).mpr ⟨1, hreporting⟩
  · refine ((hlookup namesakes (some "archive")).2 _).mpr ⟨rfl, ?_⟩
    intro c hc hfits
    have hname : c.name = "archive" := hfits "archive" rfl
    simp only [namesakes, List.mem_cons, List.not_mem_nil, or_false] at hc
    rcases hc with rfl | rfl | rfl
    · exact absurd hname (by decide)
    · exact absurd hname (by decide)
    · exact absurd hname (by decide)
  · exact hbehind _ 1 2 _ _ (by decide) rfl rfl rfl
  · have hasks := hquery (Registry.empty.registerAll namesakes) ["primary", "reporting"]
    exact ⟨_, _, (hasks.update "delete from t where n = :n").found hreporting World.start []⟩

end NamedSql
