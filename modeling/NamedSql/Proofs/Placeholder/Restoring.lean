import NamedSql.Proofs.Placeholder.Decomposition

/-!
# `Proofs.Placeholder.Restoring` — from markers back to names

The rewriting forgets the content of comments, and a question mark that the statement had itself looks like a
marker. In a statement that has neither, nothing is lost: the rewritten text and the names determine the
statement, which comes back when each name is written in the place of its marker.

## Contents
- `restore`, which writes names in the place of markers; `restore_append`.
- **Names.** `Decomposes.name_chars`: a name is not empty and has no delimiter.
- **Texts.** `count_images`, `restore_images`, region by region.
- `Positional.restore_ofNamed`: rewriting loses nothing.
-/

namespace NamedSql

/-- Writes a colon and the next name in the place of each question mark, from left to right, as long as there
    are names. -/
def restore : List String → List Char → List Char
  | name :: names, '?' :: s => ':' :: (name.toList ++ restore names s)
  | names, c :: s           => c :: restore names s
  | _, []                   => []

theorem restore_cons {c : Char} (h : c ≠ '?') (names : List String) (s : List Char) :
    restore names (c :: s) = c :: restore names s := by
  cases names with
  | nil => rfl
  | cons name names =>
    rw [restore]
    rintro _ _ ⟨⟩ ⟨⟩
    exact h rfl

/-- What has no question mark stays. -/
theorem restore_append {t : List Char} (h : '?' ∉ t) (names : List String) (s : List Char) :
    restore names (t ++ s) = t ++ restore names s := by
  induction t with
  | nil => rfl
  | cons c t ih =>
    rw [List.mem_cons, not_or] at h
    rw [List.cons_append, restore_cons (Ne.symm h.1), ih h.2, List.cons_append]

/-! ## Names -/

theorem Decomposes.name_chars {before s name : List Char} {rs : List Region} (h : Decomposes before rs s)
    (hmem : .placeholder name ∈ rs) : name ≠ [] ∧ ∀ c ∈ name, isNameChar c = true := by
  induction h with
  | done => exact absurd hmem List.not_mem_nil
  | next _ hfits _ ih =>
    rcases List.mem_cons.mp hmem with rfl | hmem
    · cases hfits with
      | placeholder hne hname => exact ⟨hne, hname⟩
    · exact ih hmem

theorem mem_filterMap_name? {rs : List Region} {n : String} :
    n ∈ rs.filterMap Region.name? ↔ ∃ name, .placeholder name ∈ rs ∧ n = String.ofList name := by
  rw [List.mem_filterMap]
  constructor
  · rintro ⟨r, hr, hn⟩
    cases r with
    | placeholder name => exact ⟨name, hr, (Option.some.inj hn).symm⟩
    | comment | literal | plain => exact absurd hn (by simp [Region.name?])
  · rintro ⟨name, hr, rfl⟩
    exact ⟨_, hr, rfl⟩

/-! ## Texts -/

/-- Neither a comment nor a region with a question mark. -/
def Region.Kept (r : Region) : Prop := '?' ∉ r.source ∧ ∀ body, r ≠ .comment body

/-- A region that is kept becomes a marker for its name, or it stays. -/
theorem Region.Kept.cases {r : Region} (h : r.Kept) :
    (∃ name, r.name? = some name ∧ r.image = ['?'] ∧ r.source = ':' :: name.toList)
      ∨ (r.name? = none ∧ r.image = r.source) := by
  cases r with
  | comment body => exact absurd rfl (h.2 body)
  | placeholder name =>
    refine Or.inl ⟨String.ofList name, rfl, rfl, ?_⟩
    rw [String.toList_ofList]
    rfl
  | literal | plain => exact Or.inr ⟨rfl, rfl⟩

/-- There is one marker for each name. -/
theorem count_images {rs : List Region} (h : ∀ r ∈ rs, r.Kept) :
    (rs.flatMap Region.image).count '?' = (rs.filterMap Region.name?).length := by
  induction rs with
  | nil => rfl
  | cons r rs ih =>
    have hr := h r List.mem_cons_self
    have hrs := ih (fun r' hr' => h r' (List.mem_cons_of_mem r hr'))
    rw [List.flatMap_cons, List.count_append, hrs]
    rcases hr.cases with ⟨name, hname, himage, -⟩ | ⟨hname, himage⟩
    · rw [List.filterMap_cons_some hname, himage, List.length_cons, Nat.add_comm]
      rfl
    · rw [List.filterMap_cons_none hname, himage, List.count_eq_zero.mpr hr.1, Nat.zero_add]

/-- **Each region comes back**: the marker of a placeholder with the next name, and the others as they are. -/
theorem restore_images {rs : List Region} (h : ∀ r ∈ rs, r.Kept) :
    restore (rs.filterMap Region.name?) (rs.flatMap Region.image) = rs.flatMap Region.source := by
  induction rs with
  | nil => rfl
  | cons r rs ih =>
    have hr := h r List.mem_cons_self
    have hrs := ih (fun r' hr' => h r' (List.mem_cons_of_mem r hr'))
    rw [List.flatMap_cons, List.flatMap_cons]
    rcases hr.cases with ⟨name, hname, himage, hsource⟩ | ⟨hname, himage⟩
    · rw [List.filterMap_cons_some hname, himage, hsource, List.singleton_append, restore, hrs,
        List.cons_append]
    · rw [List.filterMap_cons_none hname, himage, restore_append hr.1, hrs]

namespace Positional

/-- **Rewriting loses nothing** of a statement that has no question mark and no comment: there is one marker
    for each name, the names have at least one character and no delimiter, and with the names in the place of
    the markers the rewritten text is the statement. -/
theorem restore_ofNamed (sql : String) (hmark : '?' ∉ sql.toList)
    (hcomment : ∀ body, .comment body ∉ regions sql.toList) :
    (ofNamed sql).text.toList.count '?' = (ofNamed sql).names.length
    ∧ (∀ n ∈ (ofNamed sql).names, n ≠ "" ∧ ∀ c ∈ n.toList, c ≠ ' ' ∧ c ≠ ')' ∧ c ≠ ',')
    ∧ String.ofList (restore (ofNamed sql).names (ofNamed sql).text.toList) = sql := by
  have htext : (ofNamed sql).text.toList = (regions sql.toList).flatMap Region.image := String.toList_ofList
  have hnames : (ofNamed sql).names = (regions sql.toList).filterMap Region.name? := rfl
  have hkept : ∀ r ∈ regions sql.toList, r.Kept := by
    intro r hr
    refine ⟨fun hmem => hmark ?_, fun body he => hcomment body (he ▸ hr)⟩
    rw [← regions_source sql.toList]
    exact List.mem_flatMap.mpr ⟨r, hr, hmem⟩
  refine ⟨?_, ?_, ?_⟩
  · rw [htext, hnames]
    exact count_images hkept
  · intro n hn
    obtain ⟨name, hmem, rfl⟩ := mem_filterMap_name?.mp hn
    have hcut : Decomposes [] (regions sql.toList) sql.toList := decomposes_iff.mpr rfl
    obtain ⟨hne, hchars⟩ := hcut.name_chars hmem
    refine ⟨fun he => hne ?_, ?_⟩
    · rw [← String.toList_ofList (l := name), he]
      rfl
    · rw [String.toList_ofList]
      exact fun c hc => isNameChar_iff.mp (hchars c hc)
  · rw [htext, hnames, restore_images hkept, regions_source, String.ofList_toList]

/-- An escaped quote, two names side by side and a literal that is not closed. -/
theorem restore_ofNamed_unclosed :
    '?' ∉ "\\'=:a,:b ':".toList ∧ (∀ body, .comment body ∉ regions "\\'=:a,:b ':".toList)
    ∧ (ofNamed "\\'=:a,:b ':").text = "\\'=?,? ':"
    ∧ String.ofList (restore ["a", "b"] "\\'=?,? ':".toList) = "\\'=:a,:b ':" := by
  have hmark : '?' ∉ "\\'=:a,:b ':".toList := by decide +kernel
  have hregions : regions "\\'=:a,:b ':".toList = [.plain '\\', .plain '\'', .plain '=', .placeholder ['a'],
      .plain ',', .placeholder ['b'], .plain ' ', .literal '\'' [':']] := by decide +kernel
  have hcomment : ∀ body, .comment body ∉ regions "\\'=:a,:b ':".toList := by
    rw [hregions]
    simp
  have hnamed : ofNamed "\\'=:a,:b ':" = ⟨"\\'=?,? ':", ["a", "b"]⟩ := by decide +kernel
  obtain ⟨-, -, hrestore⟩ := restore_ofNamed "\\'=:a,:b ':" hmark hcomment
  rw [hnamed] at hrestore
  exact ⟨hmark, hcomment, congrArg text hnamed, hrestore⟩

end Positional

end NamedSql
