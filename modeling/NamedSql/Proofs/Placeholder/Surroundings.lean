import NamedSql.Proofs.Placeholder.Decomposition

/-!
# `Proofs.Placeholder.Surroundings` — what a region takes from the text around it

The rule of a region speaks of all that stands before it and all that stands after it, but it asks little of
either: before a quote, whether that quote is escaped; after the region, whether anything follows and what
the first character of it is. So a region that belongs in one place belongs in every place that looks alike,
and the end of a text can be exchanged without a change in the regions before it.

## Contents
- **What follows.** `Alike`, `RunsThrough.change_after`, `Region.Fits.of_alike`.
- **What stands before.** `Region.leaves`, the flag of the scan behind a region, and `Region.Fits.marks`.
- **The end of a text.** `Decomposes.source_eq`, `Decomposes.fits_last`, `Decomposes.change_end`.
-/

namespace NamedSql

/-! ## What follows a region -/

/-- A region that ends before `after` ends before `after'` as well: there is something behind it if there was,
    no star has appeared that could open a comment, and no name character that could open a placeholder. -/
structure Alike (after after' : List Char) : Prop where
  nil  : after = [] → after' = []
  star : after'.head? = some '*' → after.head? = some '*'
  name : (∃ d ∈ after'.head?, isNameChar d = true) → ∃ c ∈ after.head?, isNameChar c = true

theorem alike_of_head? {after after' : List Char} (h : after'.head? = after.head?) : Alike after after' := by
  refine ⟨?_, ?_, ?_⟩
  · rintro rfl
    exact List.head?_eq_none_iff.mp h
  · rw [h]
    exact id
  · rw [h]
    exact id

theorem alike_cons {c c' : Char} {after after' : List Char} (hstar : c' = '*' → c = '*')
    (hname : isNameChar c' = true → isNameChar c = true) : Alike (c :: after) (c' :: after') := by
  refine ⟨?_, ?_, ?_⟩
  · intro h
    exact absurd h (List.cons_ne_nil _ _)
  · intro h
    rw [List.head?_cons, hstar (Option.some.inj h)]
  · rintro ⟨d, hd, hd'⟩
    obtain rfl : c' = d := by simpa using hd
    exact ⟨c, rfl, hname hd'⟩

theorem RunsThrough.change_after {Stop : List Char → Prop} {body after after' : List Char}
    (h : RunsThrough Stop body after) (hnil : after = [] → after' = []) : RunsThrough Stop body after' :=
  ⟨h.1, h.2.imp id hnil⟩

/-- A body that has stopped does not ask what follows. -/
theorem RunsThrough.of_stop {Stop : List Char → Prop} {body after : List Char}
    (h : RunsThrough Stop body after) (hstop : Stop body) (after' : List Char) : RunsThrough Stop body after' :=
  ⟨h.1, Or.inl hstop⟩

namespace Region

/-- **A region belongs in every place that looks alike**: a quote at its beginning is escaped here if it is
    escaped there, and what follows leaves its end where it is. -/
theorem Fits.of_alike {before before' after after' : List Char} {r : Region} (h : r.Fits before after)
    (hbefore : ∀ c ∈ r.source.head?, (OpensLiteral before c ↔ OpensLiteral before' c))
    (hafter : Alike after after') : r.Fits before' after' := by
  cases h with
  | comment hbody => exact .comment (hbody.change_after hafter.nil)
  | literal hopen hbody =>
    exact .literal ((hbefore _ rfl).mp hopen) (hbody.change_after hafter.nil)
  | placeholder hne hname hmax =>
    refine .placeholder hne hname ?_
    intro c hc
    by_contra hc'
    obtain ⟨d, hd, hd'⟩ := hafter.name ⟨c, hc, by simpa using hc'⟩
    rw [hmax d hd] at hd'
    exact absurd hd' (by decide)
  | plain hcomment hliteral hname =>
    refine .plain ?_ ?_ ?_
    · rintro ⟨hc, hstar⟩
      exact hcomment ⟨hc, hafter.star hstar⟩
    · rw [← hbefore _ rfl]
      exact hliteral
    · rintro ⟨hc, hd⟩
      exact hname ⟨hc, hafter.name hd⟩

/-! ## What stands before a region -/

/-- The flag of the scan behind a region, given the flag before it: only a plain character can escape what
    comes next. -/
def leaves (escaped : Bool) : Region → Bool
  | plain c => escapes escaped c
  | _       => false

/-- The flag that was right before a region is right behind it. -/
theorem Fits.marks {escaped : Bool} {before after : List Char} {r : Region} (h : r.Fits before after)
    (hm : Marks escaped before (r.source ++ after)) :
    Marks (r.leaves escaped) (before ++ r.source) after := by
  cases h with
  | comment hbody => exact marks_comment hbody
  | literal hopen hbody => exact marks_literal hopen.1 hbody
  | placeholder _ _ hmax => exact marks_name hmax
  | plain => exact hm.plain

end Region

/-- Two texts behind which the flag of the scan is the same let the same quotes open a literal. -/
theorem Marks.opensLiteral_congr {escaped : Bool} {before before' rest : List Char}
    (h : Marks escaped before rest) (h' : Marks escaped before' rest) :
    ∀ c ∈ rest.head?, (OpensLiteral before c ↔ OpensLiteral before' c) := by
  intro c hc
  obtain ⟨rest, rfl⟩ : ∃ t, rest = c :: t := List.head?_eq_some_iff.mp hc
  rw [h.opensLiteral_iff, h'.opensLiteral_iff]

/-! ## The end of a text -/

theorem Decomposes.source_eq {before s : List Char} {rs : List Region} (h : Decomposes before rs s) :
    rs.flatMap Region.source = s := by
  induction h with
  | done => rfl
  | next hsource _ _ ih => rw [List.flatMap_cons, ih, hsource]

/-- Nothing stands behind the last region. -/
theorem Decomposes.fits_last {before s : List Char} {rs : List Region} {r : Region}
    (h : Decomposes before (rs ++ [r]) s) : r.Fits (before ++ rs.flatMap Region.source) [] := by
  induction rs generalizing before s with
  | nil =>
    cases h with
    | next _ hfits hrest =>
      cases hrest with
      | done => simpa using hfits
  | cons r₀ rs ih =>
    cases h with
    | next _ _ hrest => simpa using ih hrest

/-- **The end of a text can be exchanged**: where a text goes on with `u` in place of its last region, and `u`
    begins like that region, the regions before it stay. -/
theorem Decomposes.change_end {before s u : List Char} {rs us : List Region} {r : Region}
    (h : Decomposes before (rs ++ [r]) s) (hu : Decomposes (before ++ rs.flatMap Region.source) us u)
    (hhead : u.head? = r.source.head?) : Decomposes before (rs ++ us) (rs.flatMap Region.source ++ u) := by
  induction rs generalizing before s with
  | nil => simpa using hu
  | cons r₀ rs ih =>
    cases h with
    | @next _ after _ _ _ hsource hfits hrest =>
      -- Behind `r₀` stand the regions between, if there are any, or else `u` in the place of `r`.
      have hafter : after = rs.flatMap Region.source ++ r.source := by
        rw [← hrest.source_eq]
        simp
      have halike : (rs.flatMap Region.source ++ u).head? = after.head? := by
        rw [hafter, List.head?_append, List.head?_append, hhead]
      refine .next ?_ (hfits.of_alike (fun _ _ => Iff.rfl) (alike_of_head? halike)) (ih hrest ?_)
      · simp
      · simpa using hu

end NamedSql
