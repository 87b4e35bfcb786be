import NamedSql.Error
import Mathlib.Data.List.Count
import Mathlib.Data.List.Nodup
import Mathlib.Data.List.Perm.Basic
import Mathlib.Data.List.Infix

/-!
# `Proofs.Ledger.Basic` — what becomes of the objects of a driver

A ledger tells, in the order of events, which objects a driver handed out, which calls were made on them, and
which were closed. `Kept L S` says that a ledger was kept as the owner of one connection has to keep it, and
that `S` is what is still open after it, the object opened last in front: objects are opened on top of what
is open already, calls go to open objects only, and only the object in front can be closed.

## Contents
- `Object`, `Call`, `Entry`, `Ledger`, with `opens`, `closes` and `outstanding`.
- `Kept`, and what follows for every ledger that is kept: nothing is lost (`Kept.perm`), no object is handed
  out twice (`Kept.nodup_opens`), at most one object of each kind is open (`Kept.resources`), and that holds
  at each earlier moment too (`Kept.of_prefix`).
- **Order.** What came from an object is closed before it (`Kept.closed_before_source`), the connection last
  (`Kept.connection_last`, `Kept.before_connection`).
-/

namespace NamedSql

open scoped List

namespace Ledger

/-- An object that a driver handed out: its kind, and a number that no other object has. -/
structure Object where
  resource : Resource
  number   : Nat
deriving DecidableEq, Repr

/-- The kinds of call on an object, except those that close it. -/
inductive Call where
  | prepare | bind | addBatch | setMaxRows | executeQuery | executeUpdate | executeBatch | generatedKeys
  | next | get
  /-- The object is lent to code outside the library, which may make any calls on it. -/
  | lent
deriving DecidableEq, Repr

/-- An event in the life of an object. -/
inductive Entry where
  /-- A driver handed an object out; a statement comes from a connection, a cursor from a statement. -/
  | opened (o : Object) (source : Option Object)
  | called (o : Object) (call : Call)
  | closed (o : Object)
deriving DecidableEq, Repr

end Ledger

open Ledger in
/-- What happened to the objects of a driver, in the order of events. -/
abbrev Ledger := List Entry

namespace Ledger

/-- The objects that were handed out, in order. -/
def opens (L : Ledger) : List Object :=
  L.filterMap fun
    | .opened o _ => some o
    | _           => none

/-- The objects that were closed, in order, once for each time. -/
def closes (L : Ledger) : List Object :=
  L.filterMap fun
    | .closed o => some o
    | _         => none

/-- The objects that were handed out and have not been closed. -/
def outstanding (L : Ledger) : List Object := (opens L).filter (· ∉ closes L)

@[simp] theorem opens_append (L L' : Ledger) : opens (L ++ L') = opens L ++ opens L' :=
  List.filterMap_append ..

@[simp] theorem closes_append (L L' : Ledger) : closes (L ++ L') = closes L ++ closes L' :=
  List.filterMap_append ..

@[simp] theorem opens_nil : opens [] = [] := rfl
@[simp] theorem closes_nil : closes [] = [] := rfl

section
variable (o : Object) (L : Ledger)

@[simp] theorem opens_opened (p : Option Object) : opens (.opened o p :: L) = o :: opens L := rfl
@[simp] theorem closes_opened (p : Option Object) : closes (.opened o p :: L) = closes L := rfl
@[simp] theorem opens_called (c : Call) : opens (.called o c :: L) = opens L := rfl
@[simp] theorem closes_called (c : Call) : closes (.called o c :: L) = closes L := rfl
@[simp] theorem opens_closed : opens (.closed o :: L) = opens L := rfl
@[simp] theorem closes_closed : closes (.closed o :: L) = o :: closes L := rfl

end

@[simp] theorem closes_map_called (o : Object) (cs : List Call) : closes (cs.map (.called o)) = [] := by
  induction cs with
  | nil => rfl
  | cons c cs ih => exact ih

@[simp] theorem opens_map_closed (os : List Object) : opens (os.map .closed) = [] := by
  induction os with
  | nil => rfl
  | cons o os ih => exact ih

@[simp] theorem closes_map_closed (os : List Object) : closes (os.map .closed) = os := by
  induction os with
  | nil => rfl
  | cons o os ih => exact congrArg (o :: ·) ih

theorem mem_opens {L : Ledger} {o : Object} : o ∈ opens L ↔ ∃ p, .opened o p ∈ L := by
  unfold opens
  rw [List.mem_filterMap]
  constructor
  · rintro ⟨e, he, heq⟩
    cases e with
    | opened o' p => exact ⟨p, by cases heq; exact he⟩
    | called o' c => exact absurd heq (by simp)
    | closed o' => exact absurd heq (by simp)
  · rintro ⟨p, hp⟩
    exact ⟨_, hp, rfl⟩

theorem mem_closes {L : Ledger} {o : Object} : o ∈ closes L ↔ .closed o ∈ L := by
  unfold closes
  rw [List.mem_filterMap]
  constructor
  · rintro ⟨e, he, heq⟩
    cases e with
    | opened o' p => exact absurd heq (by simp)
    | called o' c => exact absurd heq (by simp)
    | closed o' => cases heq; exact he
  · intro h
    exact ⟨_, h, rfl⟩

/-! ## Keeping a ledger -/

/-- The kinds of object that must be open, and nothing else, when an object of a kind is handed out. -/
def footing : Resource → List Resource
  | .connection => []
  | .statement  => [.connection]
  | .cursor     => [.statement, .connection]

/-- A ledger of one connection, and what is still open after it, the latest object first. A new object has
    the number of its entry, which is new for that reason. -/
inductive Kept : Ledger → List Object → Prop where
  | connected : Kept [.opened ⟨.connection, 0⟩ none] [⟨.connection, 0⟩]
  | opened {L : Ledger} {S : List Object} {p : Object} (r : Resource) (h : Kept L (p :: S))
      (hfooting : (p :: S).map Object.resource = footing r) :
      Kept (L ++ [.opened ⟨r, L.length⟩ (some p)]) (⟨r, L.length⟩ :: p :: S)
  | called {L : Ledger} {S : List Object} {o : Object} (c : Call) (h : Kept L S) (ho : o ∈ S) :
      Kept (L ++ [.called o c]) S
  | closed {L : Ledger} {S : List Object} {o : Object} (h : Kept L (o :: S)) :
      Kept (L ++ [.closed o]) S

namespace Kept

variable {L : Ledger} {S : List Object}

/-- Every object that was handed out is either open or closed, and nothing else is. -/
theorem perm (h : Kept L S) : (Ledger.opens L).Perm (S ++ closes L) := by
  induction h with
  | connected => exact .refl _
  | @opened L S p r _ _ ih =>
    rw [opens_append, opens_opened, opens_nil, closes_append, closes_opened, closes_nil, List.append_nil]
    exact List.perm_append_comm.trans (ih.cons _)
  | called c _ _ ih => simpa using ih
  | @closed L S o _ ih =>
    rw [opens_append, opens_closed, opens_nil, closes_append, closes_closed, closes_nil, List.append_nil,
      ← List.append_assoc]
    exact ih.trans (List.perm_append_singleton o (S ++ closes L)).symm

theorem number_lt (h : Kept L S) {o : Object} (ho : o ∈ opens L) : o.number < L.length := by
  induction h with
  | connected =>
    obtain rfl : o = ⟨.connection, 0⟩ := by simpa using ho
    decide
  | opened r _ _ ih =>
    rw [opens_append, List.mem_append] at ho
    rw [List.length_append]
    rcases ho with ho | ho
    · exact Nat.lt_add_right _ (ih ho)
    · obtain rfl : o = _ := by simpa using ho
      simp
  | called c _ _ ih =>
    rw [List.length_append]
    exact Nat.lt_add_right _ (ih (by simpa using ho))
  | closed _ ih =>
    rw [List.length_append]
    exact Nat.lt_add_right _ (ih (by simpa using ho))

theorem fresh_not_mem (h : Kept L S) (r : Resource) : (⟨r, L.length⟩ : Object) ∉ opens L :=
  fun hm => absurd (h.number_lt hm) (Nat.lt_irrefl _)

/-- No object is handed out twice. -/
theorem nodup_opens (h : Kept L S) : (opens L).Nodup := by
  induction h with
  | connected => exact List.nodup_singleton _
  | opened r h _ ih =>
    rw [opens_append, opens_opened]
    exact List.concat_eq_append ▸ ih.concat (h.fresh_not_mem r)
  | called c _ _ ih => simpa using ih
  | closed _ ih => simpa using ih

theorem nodup_append (h : Kept L S) : (S ++ closes L).Nodup := h.perm.nodup_iff.mp h.nodup_opens

theorem mem_opens_of_mem (h : Kept L S) {o : Object} (ho : o ∈ S) : o ∈ opens L :=
  h.perm.mem_iff.mpr (List.mem_append_left _ ho)

/-- The one connection is in the ledger. -/
theorem connection_mem (h : Kept L S) : ⟨.connection, 0⟩ ∈ Ledger.opens L := by
  induction h with
  | connected => exact List.mem_cons_self ..
  | opened r _ _ ih => simp [ih]
  | called c _ _ ih => simpa using ih
  | closed _ ih => simpa using ih

/-- What an object came from is in the ledger too. -/
theorem source_mem (h : Kept L S) {o p : Object} (hsource : .opened o (some p) ∈ L) : p ∈ Ledger.opens L := by
  induction h with
  | connected => exact absurd hsource (by simp)
  | @opened L S q r h _ ih =>
    rw [opens_append, List.mem_append]
    rcases List.mem_append.mp hsource with hold | hnew
    · exact .inl (ih hold)
    · obtain ⟨-, rfl⟩ : o = ⟨r, L.length⟩ ∧ p = q := by simpa using hnew
      exact .inl (h.mem_opens_of_mem (List.mem_cons_self ..))
  | called c _ _ ih => simpa using ih (by simpa using hsource)
  | closed _ ih => simpa using ih (by simpa using hsource)

/-- What is open is what was handed out and not closed. -/
theorem outstanding_perm (h : Kept L S) : (outstanding L).Perm S := by
  have hnd := h.nodup_append
  refine (List.perm_ext_iff_of_nodup (h.nodup_opens.filter _) hnd.of_append_left).mpr ?_
  intro o
  rw [List.mem_filter, h.perm.mem_iff, List.mem_append]
  constructor
  · rintro ⟨ho | ho, hc⟩
    · exact ho
    · exact absurd ho (by simpa using hc)
  · intro ho
    exact ⟨Or.inl ho, by simpa using fun hc => List.disjoint_of_nodup_append hnd ho hc⟩

/-- At most a cursor, a statement and a connection are open, in this order. -/
theorem resources (h : Kept L S) :
    S.map Object.resource <:+ [.cursor, .statement, .connection] := by
  induction h with
  | connected => exact ⟨[.cursor, .statement], rfl⟩
  | opened r _ hfooting _ =>
    rw [List.map_cons, hfooting]
    cases r with
    | cursor => exact List.suffix_rfl
    | statement => exact ⟨[.cursor], rfl⟩
    | connection => exact ⟨[.cursor, .statement], rfl⟩
  | called c _ _ ih => exact ih
  | closed _ ih => exact (List.suffix_cons _ _).trans ih

/-- What an open object stands on is what it was handed out on. -/
theorem beneath {o : Object} (h : Kept L (o :: S)) : S.map Object.resource = footing o.resource := by
  have hsuffix : o.resource :: S.map Object.resource <:+ [.cursor, .statement, .connection] := h.resources
  rcases List.suffix_cons_iff.mp hsuffix with heq | hsuffix
  · rw [(List.cons.inj heq).1, (List.cons.inj heq).2]
    rfl
  rcases List.suffix_cons_iff.mp hsuffix with heq | hsuffix
  · rw [(List.cons.inj heq).1, (List.cons.inj heq).2]
    rfl
  rcases List.suffix_cons_iff.mp hsuffix with heq | hsuffix
  · rw [(List.cons.inj heq).1, (List.cons.inj heq).2]
    rfl
  · exact absurd (List.suffix_nil.mp hsuffix) (List.cons_ne_nil _ _)

/-- At most one object of a kind is open. -/
theorem count_outstanding_le (h : Kept L S) (r : Resource) :
    (outstanding L).countP (·.resource = r) ≤ 1 := by
  rw [h.outstanding_perm.countP_eq]
  have hcount : S.countP (·.resource = r) = (S.map Object.resource).count r := by
    rw [List.count, List.countP_map]
    refine List.countP_congr fun o _ => ?_
    simp
  rw [hcount]
  refine (h.resources.sublist.count_le r).trans ?_
  cases r <;> decide

/-- What was kept was kept at each earlier moment, once it was begun. -/
theorem of_prefix (h : Kept L S) {P : Ledger} (hp : P <+: L) : P = [] ∨ ∃ S', Kept P S' := by
  induction h with
  | connected =>
    rcases List.prefix_concat_iff.mp (show P <+: [] ++ [_] from hp) with rfl | hp
    · exact .inr ⟨_, .connected⟩
    · exact .inl (List.prefix_nil.mp hp)
  | opened r h hfooting ih =>
    rcases List.prefix_concat_iff.mp hp with rfl | hp
    · exact .inr ⟨_, .opened r h hfooting⟩
    · exact ih hp
  | called c h ho ih =>
    rcases List.prefix_concat_iff.mp hp with rfl | hp
    · exact .inr ⟨_, .called c h ho⟩
    · exact ih hp
  | closed h ih =>
    rcases List.prefix_concat_iff.mp hp with rfl | hp
    · exact .inr ⟨_, .closed h⟩
    · exact ih hp

/-- At no moment more than one object of a kind was open. -/
theorem count_outstanding_prefix_le (h : Kept L S) {P : Ledger} (hp : P <+: L) (r : Resource) :
    (outstanding P).countP (·.resource = r) ≤ 1 := by
  rcases h.of_prefix hp with rfl | ⟨S', hearlier⟩
  · exact Nat.zero_le 1
  · exact hearlier.count_outstanding_le r

/-- Closing what is in front, one object after the other. -/
theorem closeAll {B : List Object} : ∀ (A : List Object) {L : Ledger}, Kept L (A ++ B) →
    Kept (L ++ A.map .closed) B := by
  intro A
  induction A with
  | nil => intro L h; simpa using h
  | cons o A ih =>
    intro L h
    have hrest := ih (.closed (S := A ++ B) h)
    simpa using hrest

/-- Calls on an open object, one after the other. -/
theorem callAll (h : Kept L S) {o : Object} (ho : o ∈ S) (cs : List Call) :
    Kept (L ++ cs.map (.called o)) S := by
  induction cs generalizing L with
  | nil => simpa using h
  | cons c cs ih =>
    have hrest := ih (.called c h ho)
    simpa using hrest

/-- As long as nothing has been closed, all that was handed out is open. -/
theorem opens_of_closes_eq_nil (h : Kept L S) (hc : closes L = []) : Ledger.opens L = S.reverse := by
  induction h with
  | connected => rfl
  | opened r _ _ ih =>
    rw [opens_append, opens_opened, ih (by simpa using hc)]
    simp
  | called c _ _ ih =>
    rw [opens_append, opens_called, opens_nil, List.append_nil]
    exact ih (by simpa using hc)
  | closed _ _ => exact absurd hc (by simp)

/-! ## The order of closing -/

/-- An open object stands on the one it came from. -/
theorem source_below (h : Kept L S) {o p : Object} (hsource : .opened o (some p) ∈ L) (ho : o ∈ S) :
    [o, p] <+ S := by
  induction h with
  | connected => exact absurd hsource (by simp)
  | @opened L S q r h _ ih =>
    rcases List.mem_append.mp hsource with hold | hnew
    · -- An object of before has another number than the new one.
      have hne : o ≠ ⟨r, L.length⟩ := by
        rintro rfl
        exact h.fresh_not_mem r (mem_opens.mpr ⟨_, hold⟩)
      exact (ih hold ((List.mem_cons.mp ho).resolve_left hne)).trans (List.sublist_cons_self ..)
    · obtain ⟨rfl, rfl⟩ : o = ⟨r, L.length⟩ ∧ p = q := by simpa using hnew
      exact (List.singleton_sublist.mpr (List.mem_cons_self ..)).cons_cons _
  | called c _ _ ih => exact ih (by simpa using hsource) ho
  | @closed L S q h ih =>
    -- The object that is still open is not the one that was just closed.
    have hold : .opened o (some p) ∈ L := by simpa using hsource
    have hne : o ≠ q := by
      rintro rfl
      exact (List.nodup_cons.mp h.nodup_append.of_append_left).1 ho
    rcases List.sublist_cons_iff.mp (ih hold (List.mem_cons_of_mem _ ho)) with hs | ⟨_, he, _⟩
    · exact hs
    · exact absurd (List.cons.inj he).1 hne

/-- An object is closed before the one it came from. -/
theorem closed_before_source (h : Kept L S) {o p : Object} (hsource : .opened o (some p) ∈ L)
    (hp : .closed p ∈ L) : [.closed o, .closed p] <+ L := by
  induction h with
  | connected => exact absurd hp (by simp)
  | @opened L S q r h _ ih =>
    have hold : .closed p ∈ L := by simpa using hp
    rcases List.mem_append.mp hsource with hsource | hnew
    · exact (ih hsource hold).trans (List.sublist_append_left ..)
    · -- A new object comes from an open one, which has not been closed.
      obtain ⟨rfl, rfl⟩ : o = ⟨r, L.length⟩ ∧ p = q := by simpa using hnew
      exact absurd (mem_closes.mpr hold)
        (List.disjoint_of_nodup_append h.nodup_append (List.mem_cons_self ..))
  | called c _ _ ih =>
    exact (ih (by simpa using hsource) (by simpa using hp)).trans (List.sublist_append_left ..)
  | @closed L S q h ih =>
    have hold : .opened o (some p) ∈ L := by simpa using hsource
    rcases List.mem_append.mp hp with hp | hnew
    · exact (ih hold hp).trans (List.sublist_append_left ..)
    · obtain rfl : p = q := by simpa using hnew
      -- What came from the object in front is not open, so it has been closed.
      have hnotin : o ∉ p :: S := by
        intro ho
        have hnd := h.nodup_append.of_append_left
        rcases List.sublist_cons_iff.mp (h.source_below hold ho) with hs | ⟨_, he, hs⟩
        · exact (List.nodup_cons.mp hnd).1 (hs.subset (by simp))
        · obtain rfl : [p] = _ := (List.cons.inj he).2
          exact (List.nodup_cons.mp hnd).1 (hs.subset (by simp))
      have hclosed : .closed o ∈ L := by
        have hm := h.perm.mem_iff.mp (mem_opens.mpr ⟨_, hold⟩)
        exact mem_closes.mp ((List.mem_append.mp hm).resolve_left hnotin)
      exact (List.singleton_sublist.mpr hclosed).append (List.Sublist.refl [Entry.closed p])

/-- Under everything else that is open lies the connection. -/
theorem bottom (h : Kept L S) : ∀ o ∈ S.getLast?, o = ⟨.connection, 0⟩ := by
  induction h with
  | connected => intro o ho; simpa using ho.symm
  | opened r _ _ ih => intro o ho; exact ih o (by simpa using ho)
  | called c _ _ ih => exact ih
  | @closed L S q _ ih =>
    intro o ho
    cases S with
    | nil => exact absurd ho (by simp)
    | cons p S => exact ih o (by simpa using ho)

/-- When nothing is open any more, the connection was closed last. -/
theorem connection_last (h : Kept L []) : ∃ L' : Ledger, L = L' ++ [Entry.closed ⟨.connection, 0⟩] := by
  cases h with
  | called c _ ho => exact absurd ho (by simp)
  | @closed L _ o h =>
    obtain rfl := h.bottom o rfl
    exact ⟨L, rfl⟩

/-- When nothing is open any more, everything else was closed before the connection. -/
theorem before_connection (h : Kept L []) {o : Object} (ho : o ∈ Ledger.opens L) (hne : o ≠ ⟨.connection, 0⟩) :
    [Entry.closed o, .closed ⟨.connection, 0⟩] <+ L := by
  have hclosed : .closed o ∈ L := mem_closes.mp (h.perm.mem_iff.mp ho)
  obtain ⟨L', rfl⟩ := h.connection_last
  have hold : .closed o ∈ L' := by
    rcases List.mem_append.mp hclosed with hold | hlast
    · exact hold
    · exact absurd (Entry.closed.inj (List.mem_singleton.mp hlast)) hne
  exact (List.singleton_sublist.mpr hold).append (List.Sublist.refl _)

end Kept

end Ledger

end NamedSql
