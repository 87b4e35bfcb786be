import NamedSql.Proofs.Placeholder.Surroundings

/-!
# `Proofs.Placeholder.Fragments` — statements put together from fragments

A statement is often written in fragments, one behind the other. The scan carries something from one
character to the next, so a fragment may change how the next one is read: a name or a literal may go on, a
colon may find its name, a slash its star, a backslash its quote. A fragment with no such end is seamless, and
behind it the rewriting of the whole is that of the fragment followed by that of the rest.

## Contents
- **Putting together.** Statements with markers can be appended; `Positional.ofRegions_append`.
- **Ends.** `Region.Ends`, `Seamless`; a region that ends does not look at what follows (`Region.Fits.of_ends`)
  and leaves nothing escaped (`Region.Fits.marks_of_ends`).
- **Cuts of fragments.** `regions_change_end`, and from it `regions_append`.
- **Complete literals and comments.** `Region.Enclosed`, `Region.Enclosed.fits`.
- `Positional.ofNamed_append`: fragments are rewritten one by one.
-/

namespace NamedSql

/-! ## Putting together -/

namespace Positional

/-- One statement behind the other: the texts are joined, and so are the names of their markers. -/
instance : Append Positional where
  append p q := ⟨p.text ++ q.text, p.names ++ q.names⟩

theorem append_eq (p q : Positional) : p ++ q = ⟨p.text ++ q.text, p.names ++ q.names⟩ := rfl

theorem ofRegions_append (rs us : List Region) : ofRegions (rs ++ us) = ofRegions rs ++ ofRegions us := by
  rw [append_eq]
  simp [ofRegions, String.ofList_append]

end Positional

/-! ## Ends -/

namespace Region

/-- A region that nothing behind it can lengthen or change, and that changes nothing behind it. A name always
    goes on with what follows, as far as it can. -/
def Ends : Region → Prop
  | comment body       => ClosesComment body
  | literal quote body => ClosesLiteral quote [] body
  | placeholder _      => False
  | plain c            => c ≠ ':' ∧ c ≠ '/' ∧ c ≠ '\\'

theorem Fits.of_ends {before after : List Char} {r : Region} (h : r.Fits before after) (hends : r.Ends)
    (after' : List Char) : r.Fits before after' := by
  cases h with
  | comment hbody => exact .comment (hbody.of_stop hends after')
  | literal hopen hbody => exact .literal hopen (hbody.of_stop hends after')
  | placeholder => exact hends.elim
  | plain _ hliteral _ =>
    obtain ⟨hcolon, hslash, -⟩ := hends
    exact .plain (fun hopen => hslash hopen.1) hliteral (fun hopen => hcolon hopen.1)

theorem Fits.marks_of_ends {before after : List Char} {r : Region} (h : r.Fits before after)
    (hends : r.Ends) (rest : List Char) : Marks false (before ++ r.source) rest := by
  cases h with
  | comment hbody => exact marks_comment (hbody.of_stop hends rest)
  | literal hopen hbody => exact marks_literal hopen.1 (hbody.of_stop hends rest)
  | placeholder => exact hends.elim
  | plain => exact marks_concat hends.2.2 rest

end Region

/-- A text whose scan ends outside comments, literals and names, and not behind a colon, a slash or a backslash
    that was copied. -/
def Seamless (s : List Char) : Prop := ∀ r ∈ (regions s).getLast?, r.Ends

/-! ## Cuts of fragments -/

/-- The regions before the last one cover what stands before it. -/
theorem source_of_regions {a : List Char} {rs : List Region} {r : Region}
    (h : regions (a ++ r.source) = rs ++ [r]) : rs.flatMap Region.source = a := by
  have hsource := regions_source (a ++ r.source)
  rw [h] at hsource
  simpa using hsource

/-- The last region of a cut belongs at the end of the text. -/
theorem fits_of_regions {a : List Char} {rs : List Region} {r : Region}
    (h : regions (a ++ r.source) = rs ++ [r]) : r.Fits a [] := by
  have hcut : Decomposes [] (rs ++ [r]) (a ++ r.source) := decomposes_iff.mpr h.symm
  obtain rfl := source_of_regions h
  exact hcut.fits_last

/-- **Behind a region that ends, a text is read as if it stood alone**, and the regions before stay what they
    were when another region, with the same first character, was the last. -/
theorem regions_change_end {a : List Char} {rs : List Region} {r r' : Region}
    (h : regions (a ++ r.source) = rs ++ [r]) (hfits : r'.Fits a []) (hends : r'.Ends)
    (hhead : r'.source.head? = r.source.head?) (b : List Char) :
    regions (a ++ r'.source ++ b) = rs ++ r' :: regions b := by
  have hcut : Decomposes [] (rs ++ [r]) (a ++ r.source) := decomposes_iff.mpr h.symm
  obtain rfl := source_of_regions h
  -- The flag behind `r'` is the one that a text starts with, so `b` is cut as it is alone.
  have hrest := decomposes_regionsFrom b (hfits.marks_of_ends hends b)
  have hend := Decomposes.next rfl (hfits.of_ends hends b) hrest
  have hfirst : (r'.source ++ b).head? = r.source.head? := by
    rw [List.head?_append_of_ne_nil _ r'.source_ne_nil, hhead]
  have hwhole := hcut.change_end hend hfirst
  rw [← List.append_assoc] at hwhole
  exact (decomposes_iff.mp hwhole).symm

theorem regions_append {a : List Char} (h : Seamless a) (b : List Char) :
    regions (a ++ b) = regions a ++ regions b := by
  rcases List.eq_nil_or_concat (regions a) with hnil | ⟨rs, r, hlast⟩
  · have ha : a = [] := by
      rw [← regions_source a, hnil]
      rfl
    rw [hnil, ha]
    rfl
  · rw [List.concat_eq_append] at hlast
    have hends : r.Ends := h r (by rw [hlast, List.getLast?_concat]; rfl)
    have ha : a = rs.flatMap Region.source ++ r.source := by
      rw [← regions_source a, hlast]
      simp
    rw [hlast, List.append_assoc, List.singleton_append]
    rw [ha] at hlast ⊢
    exact regions_change_end hlast (fits_of_regions hlast) hends rfl b

/-! ## Complete literals and comments -/

/-- A literal or a comment that is complete: read alone, it is one region, and it is closed. -/
def Region.Enclosed (r : Region) : Prop := regions r.source = [r] ∧ r.Ends ∧ ∀ c, r ≠ .plain c

theorem Region.Enclosed.seamless {r : Region} (h : r.Enclosed) : Seamless r.source := by
  intro r' hr'
  rw [h.1] at hr'
  obtain rfl : r = r' := by simpa using hr'
  exact h.2.1

/-- Where one literal or comment belongs, every complete one with the same beginning does. -/
theorem Region.Enclosed.fits {before : List Char} {r r' : Region} (h' : r'.Enclosed) (h : r.Enclosed)
    (hfits : r.Fits before []) (hhead : r'.source.head? = r.source.head?) : r'.Fits before [] := by
  obtain ⟨halone, hends, hplain⟩ := h'
  have hfits' : r'.Fits [] [] := @fits_of_regions [] [] r' halone
  cases hfits' with
  | comment hbody => exact .comment hbody
  | @literal quote body hopen hbody =>
    -- The two quotes are the same character, and the one of `r` opens a literal behind `before`.
    cases hfits with
    | comment =>
      obtain rfl : quote = '/' := by simpa [source] using hhead
      exact absurd hopen.1 (by decide)
    | @literal quote' _ hopen' =>
      obtain rfl : quote = quote' := by simpa [source] using hhead
      exact .literal hopen' hbody
    | placeholder => exact h.2.1.elim
    | plain => exact absurd rfl (h.2.2 _)
  | placeholder => exact hends.elim
  | plain => exact absurd rfl (hplain _)

namespace Positional

/-- **Fragments are rewritten one by one.** Behind a seamless fragment, the rest of a statement is rewritten as
    if it stood alone. So a complete literal or comment between two fragments is copied or becomes a blank, and
    whatever it holds, it changes neither of them: not the seamless fragment before it, and if that one is
    not seamless, then not the regions that it was cut into, as long as the literal or comment begins as it
    did. -/
theorem ofNamed_append :
    (∀ a b : String, Seamless a.toList → ofNamed (a ++ b) = ofNamed a ++ ofNamed b)
    ∧ (∀ (a b : String) (r : Region), Seamless a.toList → r.Enclosed →
        ofNamed (a ++ String.ofList r.source ++ b) = ofNamed a ++ ofRegions [r] ++ ofNamed b)
    ∧ ∀ (a b : String) (rs : List Region) (r r' : Region), r.Enclosed → r'.Enclosed →
        r'.source.head? = r.source.head? → regions (a.toList ++ r.source) = rs ++ [r] →
        ofNamed (a ++ String.ofList r'.source ++ b) = ofRegions rs ++ ofRegions [r'] ++ ofNamed b := by
  have happend : ∀ a b : String, Seamless a.toList → ofNamed (a ++ b) = ofNamed a ++ ofNamed b := by
    intro a b h
    rw [ofNamed, String.toList_append, regions_append h, ofRegions_append]
    rfl
  refine ⟨happend, ?_, ?_⟩
  · intro a b r h hr
    have hregions : regions (a ++ String.ofList r.source ++ b).toList
        = regions a.toList ++ [r] ++ regions b.toList := by
      rw [String.toList_append, String.toList_append, String.toList_ofList, List.append_assoc,
        regions_append h, regions_append hr.seamless, hr.1, List.append_assoc]
    rw [ofNamed, hregions, ofRegions_append, ofRegions_append]
    rfl
  · intro a b rs r r' hr hr' hhead hlast
    have hfits : r.Fits a.toList [] := fits_of_regions hlast
    have hregions : regions (a ++ String.ofList r'.source ++ b).toList
        = rs ++ [r'] ++ regions b.toList := by
      rw [String.toList_append, String.toList_append, String.toList_ofList,
        regions_change_end hlast (hr'.fits hr hfits hhead) hr'.2.1 hhead, List.append_assoc]
      rfl
    rw [ofNamed, hregions, ofRegions_append, ofRegions_append]
    rfl

/-- Two literals side by side, a comment behind a literal, and a comment behind a backslash, where another
    comment stood. -/
theorem ofNamed_append_enclosed :
    Seamless "x = ':n'".toList
    ∧ Region.Enclosed (.comment " 'a */".toList) ∧ Region.Enclosed (.comment " :b ' */".toList)
    ∧ ofNamed ("x = ':n'" ++ "':m' or y = :y") = ofNamed "x = ':n'" ++ ofNamed "':m' or y = :y"
    ∧ ofNamed ("x = ':n'" ++ "/* 'a */" ++ ":y")
        = ofNamed "x = ':n'" ++ ofRegions [.comment " 'a */".toList] ++ ofNamed ":y"
    ∧ ofNamed ("x\\" ++ "/* :b ' */" ++ "'q' = :q")
        = ofRegions [.plain 'x', .plain '\\'] ++ ofRegions [.comment " :b ' */".toList]
          ++ ofNamed "'q' = :q" := by
  have hclosed : ∀ body : List Char, ['*', '/'] <:+ body → regions ('/' :: '*' :: body) = [.comment body] →
      Region.Enclosed (.comment body) := by
    intro body hbody hregions
    exact ⟨hregions, hbody, fun c hc => Region.noConfusion hc⟩
  have hquoted : Seamless "x = ':n'".toList := by
    have hregions : regions "x = ':n'".toList
        = [.plain 'x', .plain ' ', .plain '=', .plain ' ', .literal '\'' [':', 'n', '\'']] := by decide +kernel
    intro r hr
    rw [hregions] at hr
    obtain rfl : .literal '\'' [':', 'n', '\''] = r := by simpa using hr
    exact ⟨[':', 'n'], rfl, by decide⟩
  have hfirst := hclosed " 'a */".toList (by decide) (by decide +kernel)
  have hsecond := hclosed " :b ' */".toList (by decide) (by decide +kernel)
  obtain ⟨happend, hbetween, hexchange⟩ := ofNamed_append
  have hmiddle := hbetween "x = ':n'" ":y" _ hquoted hfirst
  have hother := hexchange "x\\" "'q' = :q" [.plain 'x', .plain '\\'] _ _ hfirst hsecond rfl
    (by decide +kernel)
  have hsource₁ : String.ofList (Region.comment " 'a */".toList).source = "/* 'a */" := by decide +kernel
  have hsource₂ : String.ofList (Region.comment " :b ' */".toList).source = "/* :b ' */" := by decide +kernel
  rw [hsource₁] at hmiddle
  rw [hsource₂] at hother
  exact ⟨hquoted, hfirst, hsecond, happend _ _ hquoted, hmiddle, hother⟩

end Positional

end NamedSql
