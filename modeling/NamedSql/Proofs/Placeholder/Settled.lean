import NamedSql.Proofs.Placeholder.Surroundings

/-!
# `Proofs.Placeholder.Settled` — rewriting a text that is rewritten already

A rewritten text is read again by drivers, and may be handed to the same rewriting a second time. It has a cut
of its own, and that cut is the first one with each comment turned into a blank and each placeholder into a
marker (`Region.settled`): blanks and markers open nothing, the characters that came together at such a place
look like those that stood there before, and quotes are escaped in the rewritten text just if they were
escaped in the text.

## Contents
- **Settled regions.** `Region.settled`; what is settled covers what the region became (`source_settled`).
- **One region.** `Region.Fits.settled`, `Region.Fits.marks_image`.
- **A whole cut.** `Decomposes.alike_images`, `Decomposes.settled`, `regions_text`.
- `Positional.ofNamed_text`: rewriting a rewritten text changes nothing, and opens or closes no literal.
-/

namespace NamedSql

/-! ## Settled regions -/

namespace Region

/-- What a region is in the rewritten text: a comment is a plain blank, a placeholder a plain marker. -/
def settled : Region → Region
  | comment _          => plain ' '
  | literal quote body => literal quote body
  | placeholder _      => plain '?'
  | plain c            => plain c

/-- Whether a region is copied for its quotes. -/
def isLiteral : Region → Bool
  | literal _ _ => true
  | _           => false

@[simp] theorem source_settled (r : Region) : r.settled.source = r.image := by
  cases r <;> rfl

@[simp] theorem image_settled (r : Region) : r.settled.image = r.image := by
  cases r <;> rfl

@[simp] theorem name?_settled (r : Region) : r.settled.name? = none := by
  cases r <;> rfl

theorem isLiteral_settled (r : Region) : r.settled.isLiteral = r.isLiteral := by
  cases r <;> rfl

theorem settled_of_isLiteral {r : Region} (h : r.isLiteral = true) : r.settled = r := by
  cases r with
  | literal => rfl
  | comment | placeholder | plain => exact absurd h Bool.false_ne_true

theorem settled_settled (r : Region) : r.settled.settled = r.settled := by
  cases r <;> rfl

/-! ## One region -/

/-- A character that opens nothing belongs everywhere. -/
theorem fits_plain {before after : List Char} {c : Char} (hquote : isQuote c = false) (hslash : c ≠ '/')
    (hcolon : c ≠ ':') : (plain c).Fits before after := by
  refine .plain ?_ ?_ ?_
  · rintro ⟨hc, -⟩
    exact hslash hc
  · rintro ⟨hc, -⟩
    rw [hquote] at hc
    exact absurd hc (by decide)
  · rintro ⟨hc, -⟩
    exact hcolon hc

/-- A region that belongs in a text belongs, settled, in every text that looks alike. -/
theorem Fits.settled {before before' after after' : List Char} {r : Region} (h : r.Fits before after)
    (hbefore : ∀ c ∈ r.source.head?, (OpensLiteral before c ↔ OpensLiteral before' c))
    (hafter : Alike after after') : r.settled.Fits before' after' := by
  cases r with
  | comment => exact fits_plain (by decide) (by decide) (by decide)
  | placeholder => exact fits_plain (by decide) (by decide) (by decide)
  | literal => exact h.of_alike hbefore hafter
  | plain => exact h.of_alike hbefore hafter

/-- Behind what a region became, the flag of the scan is what it was behind the region. -/
theorem Fits.marks_image {escaped : Bool} {before before' after : List Char} {r : Region}
    (h : r.Fits before after) (hm : Marks escaped before' (r.source ++ after)) :
    Marks (r.leaves escaped) (before' ++ r.image) after := by
  cases h with
  | comment => exact marks_concat (by decide) after
  | literal hopen hbody => exact marks_literal hopen.1 hbody
  | placeholder => exact marks_concat (by decide) after
  | plain => exact hm.plain

end Region

/-! ## A whole cut -/

/-- The rewritten text begins like the text: a blank where a slash stood is neither star nor name character,
    and a marker is a name character, but so was the colon. -/
theorem Decomposes.alike_images {before s : List Char} {rs : List Region} (h : Decomposes before rs s) :
    Alike s (rs.flatMap Region.image) := by
  cases h with
  | done => exact alike_of_head? rfl
  | @next _ _ _ r _ hsource =>
    subst hsource
    cases r with
    | comment => exact alike_cons (by decide) (by decide)
    | placeholder => exact alike_cons (by decide) (by decide)
    | literal => exact alike_of_head? rfl
    | plain => exact alike_of_head? rfl

/-- **The rewritten text is cut where the text was**: its regions are those of the text, settled. The two cuts
    are followed at once, and one flag is right for both. -/
theorem Decomposes.settled {escaped : Bool} {before before' s : List Char} {rs : List Region}
    (h : Decomposes before rs s) (hm : Marks escaped before s) (hm' : Marks escaped before' s) :
    Decomposes before' (rs.map Region.settled) (rs.flatMap Region.image) := by
  induction h generalizing escaped before' with
  | done => exact .done
  | @next before after s r rs hsource hfits hrest ih =>
    subst hsource
    have hquote : ∀ c ∈ r.source.head?, (OpensLiteral before c ↔ OpensLiteral before' c) := by
      intro c hc
      exact hm.opensLiteral_congr hm' c (List.mem_head?_append_of_mem_head? hc)
    have hr : r.settled.Fits before' (rs.flatMap Region.image) := hfits.settled hquote hrest.alike_images
    have hrs := ih (hfits.marks hm) (hfits.marks_image hm')
    rw [← r.source_settled] at hrs
    exact .next (by simp) hr hrs

/-- The regions of a rewritten text. -/
theorem regions_text (sql : String) :
    regions (Positional.ofNamed sql).text.toList = (regions sql.toList).map Region.settled := by
  have hstart : Marks false [] sql.toList := by
    intro _ _ _
    simp [backslashes]
  have hcut : Decomposes [] (regions sql.toList) sql.toList := decomposes_iff.mpr rfl
  have htext : (Positional.ofNamed sql).text.toList = (regions sql.toList).flatMap Region.image :=
    String.toList_ofList
  rw [htext]
  exact (decomposes_iff.mp (hcut.settled hstart hstart)).symm

/-- Every region of a rewritten text is settled. -/
theorem settled_of_mem_text {sql : String} {r : Region}
    (h : r ∈ regions (Positional.ofNamed sql).text.toList) : r.settled = r := by
  rw [regions_text] at h
  obtain ⟨r, -, rfl⟩ := List.mem_map.mp h
  exact r.settled_settled

namespace Positional

/-- **Rewriting a rewritten text changes nothing.** The text stays and no names are found; outside its
    literals it has no comment and no placeholder, and its literals are those of the statement: region by
    region, each literal stays where it was opened and closed, and nothing else becomes one. -/
theorem ofNamed_text (sql : String) :
    ofNamed (ofNamed sql).text = ⟨(ofNamed sql).text, []⟩
    ∧ (∀ body, .comment body ∉ regions (ofNamed sql).text.toList)
    ∧ (∀ name, .placeholder name ∉ regions (ofNamed sql).text.toList)
    ∧ regions (ofNamed sql).text.toList = (regions sql.toList).map Region.settled
    ∧ (regions (ofNamed sql).text.toList).filter Region.isLiteral
        = (regions sql.toList).filter Region.isLiteral := by
  have hregions : regions (ofNamed sql).text.toList = (regions sql.toList).map Region.settled := regions_text sql
  refine ⟨?_, ?_, ?_, hregions, ?_⟩
  · have himages : (regions (ofNamed sql).text.toList).flatMap Region.image
        = (regions sql.toList).flatMap Region.image := by
      simp [hregions, List.flatMap_map]
    have hnames : (regions (ofNamed sql).text.toList).filterMap Region.name? = [] := by
      simp [hregions]
    show ofRegions (regions (ofNamed sql).text.toList) = ⟨(ofNamed sql).text, []⟩
    rw [ofRegions, himages, hnames]
    rfl
  · intro body hmem
    exact Region.noConfusion (settled_of_mem_text hmem)
  · intro name hmem
    exact Region.noConfusion (settled_of_mem_text hmem)
  · rw [hregions, List.filter_map]
    have hsame : (Region.isLiteral ∘ Region.settled) = Region.isLiteral := funext Region.isLiteral_settled
    have hfixed : ∀ r ∈ (regions sql.toList).filter Region.isLiteral, r.settled = r := by
      intro r hr
      exact Region.settled_of_isLiteral (List.mem_filter.mp hr).2
    rw [hsame, List.map_congr_left hfixed]
    exact List.map_id _

end Positional

end NamedSql
