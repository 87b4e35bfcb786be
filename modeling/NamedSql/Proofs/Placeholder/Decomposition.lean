import NamedSql.Placeholder.Positional
import Mathlib.Algebra.Ring.Parity
import Mathlib.Data.List.DropRight
import Mathlib.Logic.ExistsUnique

/-!
# `Proofs.Placeholder.Decomposition` — the cut of a text, as a grammar

`regionsFrom` reads a text once and carries a flag from one character to the next. Here the same cut is said
without a scan: each region is judged by the text it covers, all that stands before it and all that stands
after it. A text has exactly one cut that satisfies these rules, and it is the one that the scan finds.

## Contents
- **Rules.** `isQuote_iff` and `isNameChar_iff` for the characters that matter; `backslashes`, `RunsThrough`,
  `Region.Fits`, and `Decomposes` for a whole text.
- **Spans.** Each span of the scan runs exactly as far as the rules say (`commentSpan_runsThrough`,
  `literalSpan_runsThrough`).
- **Existence.** `decomposes_regionsFrom`; the flag of the scan is right wherever it is looked at (`Marks`).
- **Uniqueness.** `RunsThrough.unique`, `Region.Fits.unique`, `Decomposes.unique`.
- **Rewriting.** `Rewrites`: the text and the names that come of some regions, region by region.
- `ofNamed_decomposition`: the statement with markers is what comes of the one cut.
-/

namespace NamedSql

/-! ## The rules -/

theorem isQuote_iff {c : Char} : isQuote c = true ↔ c = '\'' ∨ c = '"' := by
  simp [isQuote]

theorem isNameChar_iff {c : Char} : isNameChar c = true ↔ c ≠ ' ' ∧ c ≠ ')' ∧ c ≠ ',' := by
  simp [isNameChar, and_assoc]

/-- How many backslashes a text ends with. -/
def backslashes (s : List Char) : Nat := (s.rtakeWhile (· == '\\')).length

/-- `body` runs through the first place where `Stop` holds of what has been read of it, or to the end of
    the text; `after` is what follows. -/
def RunsThrough (Stop : List Char → Prop) (body after : List Char) : Prop :=
  (∀ p, p <+: body → p ≠ body → ¬ Stop p) ∧ (Stop body ∨ after = [])

/-- A comment closes with the two characters of its closing mark. -/
def ClosesComment (body : List Char) : Prop := ['*', '/'] <:+ body

/-- A literal closes with its quote, if an even number of backslashes stands right before it. What is read
    of the literal is `seen` and then `body`. -/
def ClosesLiteral (quote : Char) (seen body : List Char) : Prop :=
  ∃ inner, body = inner ++ [quote] ∧ Even (backslashes (seen ++ inner))

/-- A slash opens a comment if a star follows. -/
def OpensComment (c : Char) (after : List Char) : Prop := c = '/' ∧ after.head? = some '*'

/-- A quote opens a literal if an even number of backslashes stands right before it. -/
def OpensLiteral (before : List Char) (c : Char) : Prop := isQuote c = true ∧ Even (backslashes before)

/-- A colon opens a placeholder if a name character follows. -/
def OpensName (c : Char) (after : List Char) : Prop := c = ':' ∧ ∃ d ∈ after.head?, isNameChar d = true

/-- Whether a region belongs between the texts before and after it. -/
inductive Region.Fits (before after : List Char) : Region → Prop where
  | comment {body} (hbody : RunsThrough ClosesComment body after) : Fits before after (.comment body)
  | literal {quote body} (hopen : OpensLiteral before quote)
      (hbody : RunsThrough (ClosesLiteral quote []) body after) : Fits before after (.literal quote body)
  | placeholder {name} (hne : name ≠ []) (hname : ∀ c ∈ name, isNameChar c = true)
      (hmax : ∀ c ∈ after.head?, isNameChar c = false) : Fits before after (.placeholder name)
  | plain {c} (hcomment : ¬ OpensComment c after) (hliteral : ¬ OpensLiteral before c)
      (hname : ¬ OpensName c after) : Fits before after (.plain c)

/-- A text behind `before` is made up of regions, each of which belongs where it stands. -/
inductive Decomposes : List Char → List Region → List Char → Prop where
  | done {before} : Decomposes before [] []
  | next {before after s : List Char} {r : Region} {rs : List Region} (hsource : r.source ++ after = s)
      (hfits : r.Fits before after) (hrest : Decomposes (before ++ r.source) rs after) :
      Decomposes before (r :: rs) s

/-! ## Backslashes -/

theorem backslashes_concat (s : List Char) (c : Char) :
    backslashes (s ++ [c]) = if c = '\\' then backslashes s + 1 else 0 := by
  unfold backslashes
  by_cases hc : c = '\\'
  · rw [List.rtakeWhile_concat_pos _ _ _ (by simp [hc]), if_pos hc, List.length_append]
    rfl
  · rw [List.rtakeWhile_concat_neg _ _ _ (by simp [hc]), if_neg hc]
    rfl

/-- The flag of the scan tells whether the number of backslashes is odd, and goes on telling it. -/
theorem escapes_iff_odd {escaped : Bool} {s : List Char} (h : escaped = true ↔ Odd (backslashes s))
    (c : Char) : escapes escaped c = true ↔ Odd (backslashes (s ++ [c])) := by
  rw [backslashes_concat]
  by_cases hc : c = '\\'
  · rw [if_pos hc, Nat.odd_add_one, ← h]
    simp [escapes, hc]
  · rw [if_neg hc]
    simp [escapes, hc]

theorem isNameChar_of_isQuote {c : Char} (h : isQuote c = true) : isNameChar c = true := by
  simp only [isQuote, Bool.or_eq_true, beq_iff_eq] at h
  rcases h with rfl | rfl <;> decide

theorem ne_backslash_of_isQuote {c : Char} (h : isQuote c = true) : c ≠ '\\' := by
  rintro rfl
  exact absurd h (by decide)

/-! ## Spans -/

/-- A place of the longer body is a place of the shorter one, or the very beginning. -/
theorem RunsThrough.cons {Stop Stop' : List Char → Prop} {c : Char} {body after : List Char}
    (h : RunsThrough Stop body after) (hnil : ¬ Stop' [])
    (hcons : ∀ p, p <+: body → (Stop' (c :: p) ↔ Stop p)) : RunsThrough Stop' (c :: body) after := by
  refine ⟨?_, ?_⟩
  · intro p hp hne hstop
    cases p with
    | nil => exact hnil hstop
    | cons d p =>
      obtain ⟨rfl, hp'⟩ := List.cons_prefix_cons.mp hp
      exact h.1 p hp' (fun he => hne (by rw [he])) ((hcons p hp').mp hstop)
  · exact h.2.imp (fun hs => (hcons body List.prefix_rfl).mpr hs) id

theorem commentSpan_runsThrough (s : List Char) :
    RunsThrough ClosesComment (commentSpan s).1 (commentSpan s).2 := by
  fun_induction commentSpan s with
  | case1 => exact ⟨fun p hp hne => absurd (List.prefix_nil.mp hp) hne, Or.inr rfl⟩
  | case2 rest =>
    refine ⟨?_, Or.inl List.suffix_rfl⟩
    intro p hp hne hstop
    -- What closes a comment has two characters, so it is the whole of this body.
    have hlen : 2 ≤ p.length := hstop.length_le
    exact hne (hp.eq_of_length_le hlen)
  | case3 c rest hrest body after h ih =>
    rw [h] at ih
    refine ih.cons (fun hs => by simp [ClosesComment] at hs) ?_
    intro p hp
    refine ⟨fun hs => ?_, fun hs => hs.trans (List.suffix_cons c p)⟩
    rcases List.suffix_cons_iff.mp hs with he | hs'
    · -- A star here and a slash next would have been the closing mark.
      obtain ⟨rfl, rfl⟩ : '*' = c ∧ ['/'] = p := by simpa using he
      have happ := commentSpan_append rest
      rw [h] at happ
      obtain ⟨t, rfl⟩ := hp
      exact absurd happ.symm (hrest _ rfl)
    · exact hs'

theorem literalSpan_runsThrough {quote : Char} {escaped : Bool} {seen : List Char} (s : List Char)
    (hflag : escaped = true ↔ Odd (backslashes seen)) :
    RunsThrough (ClosesLiteral quote seen) (literalSpan quote escaped s).1
      (literalSpan quote escaped s).2 := by
  fun_induction literalSpan quote escaped s generalizing seen with
  | case1 => exact ⟨fun p hp hne => absurd (List.prefix_nil.mp hp) hne, Or.inr rfl⟩
  | case2 escaped c rest hstop =>
    obtain ⟨rfl, rfl⟩ := hstop
    refine ⟨?_, Or.inl ⟨[], rfl, ?_⟩⟩
    · intro p hp hne hstop
      obtain ⟨inner, rfl, _⟩ := hstop
      exact hne (hp.eq_of_length_le (by simp))
    · rw [List.append_nil, ← Nat.not_odd_iff_even, ← hflag]
      simp
  | case3 escaped c rest hstop body after h ih =>
    rw [h] at ih
    refine (ih (escapes_iff_odd hflag c)).cons (by simp [ClosesLiteral]) ?_
    intro p hp
    constructor
    · rintro ⟨inner, he, heven⟩
      cases inner with
      | nil =>
        -- This quote would have closed the literal, had it not been escaped.
        obtain ⟨rfl, rfl⟩ : c = quote ∧ p = [] := by simpa using he
        have hesc : escaped = true := by simpa using hstop
        rw [List.append_nil, ← Nat.not_odd_iff_even, ← hflag] at heven
        exact absurd hesc heven
      | cons d inner =>
        obtain ⟨rfl, rfl⟩ : c = d ∧ p = inner ++ [quote] := by simpa using he
        exact ⟨inner, rfl, by simpa using heven⟩
    · rintro ⟨inner, rfl, heven⟩
      exact ⟨c :: inner, rfl, by simpa using heven⟩

/-! ## Existence -/

/-- The flag of the scan tells of the next character whether it is escaped, if that matters at all: behind a
    name stands a character that cannot open anything. -/
def Marks (escaped : Bool) (before rest : List Char) : Prop :=
  ∀ c ∈ rest.head?, isNameChar c = true → (escaped = true ↔ Odd (backslashes before))

theorem Marks.opensLiteral_iff {escaped : Bool} {before rest : List Char} {c : Char}
    (h : Marks escaped before (c :: rest)) :
    OpensLiteral before c ↔ isQuote c = true ∧ escaped = false := by
  -- A quote is a name character, so the flag can be trusted before it.
  constructor
  · rintro ⟨hquote, heven⟩
    refine ⟨hquote, ?_⟩
    rw [← Nat.not_odd_iff_even, ← h c rfl (isNameChar_of_isQuote hquote)] at heven
    simpa using heven
  · rintro ⟨hquote, hesc⟩
    refine ⟨hquote, ?_⟩
    rw [← Nat.not_odd_iff_even, ← h c rfl (isNameChar_of_isQuote hquote), hesc]
    simp

/-- What closes on a character other than a backslash leaves nothing escaped behind it. -/
theorem marks_concat {before : List Char} {c : Char} (hc : c ≠ '\\') (rest : List Char) :
    Marks false (before ++ [c]) rest := by
  intro _ _ _
  rw [backslashes_concat, if_neg hc]
  simp

theorem marks_nil (escaped : Bool) (before : List Char) : Marks escaped before [] := by
  intro c hc
  exact absurd hc (by simp)

theorem Marks.plain {escaped : Bool} {before rest : List Char} {c : Char}
    (h : Marks escaped before (c :: rest)) : Marks (escapes escaped c) (before ++ [c]) rest := by
  intro _ _ _
  by_cases hc : isNameChar c = true
  · exact escapes_iff_odd (h c rfl hc) c
  · -- What is no name character is no backslash either, and sets the count back.
    have hne : c ≠ '\\' := by
      rintro rfl
      exact hc (by decide)
    rw [backslashes_concat, if_neg hne]
    simp [escapes, hne]

theorem marks_comment {before body after : List Char} (h : RunsThrough ClosesComment body after) :
    Marks false (before ++ (Region.comment body).source) after := by
  rcases h.2 with ⟨inner, rfl⟩ | rfl
  · have hsource : before ++ (Region.comment (inner ++ ['*', '/'])).source
        = (before ++ '/' :: '*' :: inner ++ ['*']) ++ ['/'] := by simp [Region.source]
    rw [hsource]
    exact marks_concat (by decide) after
  · exact marks_nil _ _

theorem marks_literal {before body after : List Char} {quote : Char} (hquote : isQuote quote = true)
    (h : RunsThrough (ClosesLiteral quote []) body after) :
    Marks false (before ++ (Region.literal quote body).source) after := by
  rcases h.2 with ⟨inner, rfl, _⟩ | rfl
  · have hsource : before ++ (Region.literal quote (inner ++ [quote])).source
        = (before ++ quote :: inner) ++ [quote] := by simp [Region.source]
    rw [hsource]
    exact marks_concat (ne_backslash_of_isQuote hquote) after
  · exact marks_nil _ _

theorem marks_name {before after : List Char} (h : ∀ c ∈ after.head?, isNameChar c = false) :
    Marks false before after := by
  intro c hc hname
  rw [h c hc] at hname
  exact absurd hname (by simp)

theorem nameSpan_fits {before rest : List Char} (h : OpensName ':' rest) :
    (Region.placeholder (nameSpan rest).1).Fits before (nameSpan rest).2 := by
  obtain ⟨_, d, hd, hname⟩ := h
  refine .placeholder ?_ ?_ ?_
  · intro hnil
    cases rest with
    | nil => exact absurd hd (by simp)
    | cons e rest =>
      obtain rfl : e = d := by simpa using hd
      simp [nameSpan, hname] at hnil
  · intro c hc
    exact List.mem_takeWhile_imp hc
  · intro c hc
    have hhead := List.head?_dropWhile_not isNameChar rest
    rw [show rest.dropWhile isNameChar = (nameSpan rest).2 from rfl, hc] at hhead
    simpa using hhead

/-- **The cut of the scan follows the rules**, from any place on where the flag is right. -/
theorem decomposes_regionsFrom {escaped : Bool} {before : List Char} (s : List Char)
    (h : Marks escaped before s) : Decomposes before (regionsFrom escaped s) s := by
  fun_induction regionsFrom escaped s generalizing before with
  | case1 => exact .done
  | case2 escaped rest ih =>
    have hbody := commentSpan_runsThrough rest
    exact .next (by simp [Region.source, commentSpan_append]) (.comment hbody) (ih (marks_comment hbody))
  | case3 escaped c rest _ hopen ih =>
    have hbody := @literalSpan_runsThrough c false [] rest (by decide)
    exact .next (by simp [Region.source, literalSpan_append])
      (.literal (h.opensLiteral_iff.mpr hopen) hbody) (ih (marks_literal hopen.1 hbody))
  | case4 escaped c rest _ _ hname ih =>
    obtain ⟨rfl, hhead⟩ := hname
    have hfits := @nameSpan_fits before rest ⟨rfl, by simpa [Option.any_eq_true] using hhead⟩
    refine .next (by simp [Region.source, nameSpan_append]) hfits (ih (marks_name ?_))
    cases hfits with
    | placeholder _ _ hmax => exact hmax
  | case5 escaped c rest hcomment hliteral hname ih =>
    refine .next rfl (.plain ?_ ?_ ?_) (ih h.plain)
    · rintro ⟨rfl, hstar⟩
      obtain ⟨rest, rfl⟩ : ∃ t, rest = '*' :: t := by
        cases rest with
        | nil => exact absurd hstar (by simp)
        | cons d t => exact ⟨t, by simpa using hstar⟩
      exact hcomment _ rfl rfl
    · rw [h.opensLiteral_iff]
      exact hliteral
    · rintro ⟨rfl, hd⟩
      exact hname ⟨rfl, by simpa [Option.any_eq_true] using hd⟩

/-! ## Uniqueness -/

theorem RunsThrough.eq_of_prefix {Stop : List Char → Prop} {body body' after after' : List Char}
    (h : RunsThrough Stop body after) (h' : RunsThrough Stop body' after')
    (he : body ++ after = body' ++ after') (hp : body <+: body') : body = body' := by
  by_contra hne
  -- The shorter body would have stopped the longer one, or nothing is left after it.
  rcases h.2 with hstop | rfl
  · exact h'.1 body hp hne hstop
  · rw [List.append_nil] at he
    exact hne (hp.eq_of_length_le (by rw [he]; simp))

/-- A text falls in one way only into a body and what follows it. -/
theorem RunsThrough.unique {Stop : List Char → Prop} {body body' after after' : List Char}
    (h : RunsThrough Stop body after) (h' : RunsThrough Stop body' after')
    (he : body ++ after = body' ++ after') : body = body' ∧ after = after' := by
  have hbody : body = body' := by
    rcases List.prefix_or_prefix_of_prefix (List.prefix_append body after)
      (he ▸ List.prefix_append body' after') with hp | hp
    · exact h.eq_of_prefix h' he hp
    · exact (h'.eq_of_prefix h he.symm hp).symm
  subst hbody
  exact ⟨rfl, List.append_cancel_left he⟩

/-- The longest run of name characters is one only. -/
theorem name_unique {name name' after after' : List Char}
    (hname : ∀ c ∈ name, isNameChar c = true) (hname' : ∀ c ∈ name', isNameChar c = true)
    (hmax : ∀ c ∈ after.head?, isNameChar c = false) (hmax' : ∀ c ∈ after'.head?, isNameChar c = false)
    (he : name ++ after = name' ++ after') : name = name' ∧ after = after' := by
  have hspan : ∀ {n a : List Char}, (∀ c ∈ n, isNameChar c = true) →
      (∀ c ∈ a.head?, isNameChar c = false) → nameSpan (n ++ a) = (n, a) := by
    intro n a hn ha
    cases a with
    | nil =>
      rw [List.append_nil]
      exact Prod.ext (List.takeWhile_eq_self_iff.mpr hn) (List.dropWhile_eq_nil_iff.mpr hn)
    | cons d a =>
      have hd : isNameChar d = false := ha d rfl
      simp [nameSpan, List.takeWhile_append_of_pos hn, List.dropWhile_append_of_pos hn, hd]
  have hpair : (name, after) = (name', after') := by
    rw [← hspan hname hmax, he, hspan hname' hmax']
  exact Prod.mk.inj hpair

theorem opensName_of_name {name after : List Char} (hne : name ≠ [])
    (hname : ∀ c ∈ name, isNameChar c = true) : OpensName ':' (name ++ after) := by
  cases name with
  | nil => exact absurd rfl hne
  | cons d name => exact ⟨rfl, d, rfl, hname d (List.mem_cons_self ..)⟩

/-- **At most one region belongs at the beginning of a text.** -/
theorem Region.Fits.unique {before after after' : List Char} {r r' : Region} (h : r.Fits before after)
    (h' : r'.Fits before after') (he : r.source ++ after = r'.source ++ after') :
    r = r' ∧ after = after' := by
  -- Two regions of different kinds begin differently, or the rule of a plain character excludes the other.
  cases h with
  | comment hbody =>
    cases h' with
    | comment hbody' =>
      obtain ⟨rfl, rfl⟩ := hbody.unique hbody' (by simpa [source] using he)
      exact ⟨rfl, rfl⟩
    | literal hopen =>
      obtain ⟨rfl, -⟩ := List.cons.inj he
      exact absurd hopen.1 (by decide)
    | placeholder => exact absurd (List.cons.inj he).1 (by decide)
    | plain hcomment hliteral hname =>
      obtain ⟨rfl, rfl⟩ := List.cons.inj he
      exact absurd ⟨rfl, rfl⟩ hcomment
  | literal hopen hbody =>
    cases h' with
    | comment =>
      obtain ⟨rfl, -⟩ := List.cons.inj he
      exact absurd hopen.1 (by decide)
    | literal hopen' hbody' =>
      obtain ⟨rfl, hrest⟩ := List.cons.inj he
      obtain ⟨rfl, rfl⟩ := hbody.unique hbody' hrest
      exact ⟨rfl, rfl⟩
    | placeholder =>
      obtain ⟨rfl, -⟩ := List.cons.inj he
      exact absurd hopen.1 (by decide)
    | plain hcomment hliteral hname =>
      obtain ⟨rfl, -⟩ := List.cons.inj he
      exact absurd hopen hliteral
  | placeholder hne hname hmax =>
    cases h' with
    | comment => exact absurd (List.cons.inj he).1 (by decide)
    | literal hopen =>
      obtain ⟨rfl, -⟩ := List.cons.inj he
      exact absurd hopen.1 (by decide)
    | placeholder hne' hname' hmax' =>
      obtain ⟨rfl, rfl⟩ := name_unique hname hname' hmax hmax' (List.cons.inj he).2
      exact ⟨rfl, rfl⟩
    | plain hcomment hliteral hopen =>
      obtain ⟨rfl, rfl⟩ := List.cons.inj he
      exact absurd (opensName_of_name hne hname) hopen
  | plain hcomment hliteral hopen =>
    cases h' with
    | comment =>
      obtain ⟨rfl, rfl⟩ := List.cons.inj he
      exact absurd ⟨rfl, rfl⟩ hcomment
    | literal hopen' =>
      obtain ⟨rfl, -⟩ := List.cons.inj he
      exact absurd hopen' hliteral
    | placeholder hne hname =>
      obtain ⟨rfl, rfl⟩ := List.cons.inj he
      exact absurd (opensName_of_name hne hname) hopen
    | plain =>
      obtain ⟨rfl, rfl⟩ := List.cons.inj he
      exact ⟨rfl, rfl⟩

theorem Region.source_ne_nil (r : Region) : r.source ≠ [] := by
  cases r <;> simp [source]

theorem Decomposes.unique {before s : List Char} {rs rs' : List Region} (h : Decomposes before rs s)
    (h' : Decomposes before rs' s) : rs = rs' := by
  induction h generalizing rs' with
  | done =>
    cases h' with
    | done => rfl
    | next hsource => exact absurd (List.append_eq_nil_iff.mp hsource).1 (Region.source_ne_nil _)
  | next hsource hfits _ ih =>
    cases h' with
    | done => exact absurd (List.append_eq_nil_iff.mp hsource).1 (Region.source_ne_nil _)
    | next hsource' hfits' hrest' =>
      obtain ⟨rfl, rfl⟩ := hfits.unique hfits' (hsource.trans hsource'.symm)
      rw [ih hrest']

theorem decomposes_iff {s : List Char} {rs : List Region} : Decomposes [] rs s ↔ rs = regions s := by
  have hregions : Decomposes [] (regions s) s :=
    decomposes_regionsFrom s (fun _ _ _ => by simp [backslashes])
  constructor
  · intro h
    exact h.unique hregions
  · rintro rfl
    exact hregions

/-! ## Rewriting -/

/-- The text and the names that come of some regions. A comment becomes one blank; a literal stays as it is, quotes
    included; a placeholder becomes a question mark and its name is noted down; any other character stays. -/
inductive Rewrites : List Region → List Char → List String → Prop where
  | done : Rewrites [] [] []
  | comment {body rs text names} (hrest : Rewrites rs text names) : Rewrites (.comment body :: rs) (' ' :: text) names
  | literal {quote body rs text names} (hrest : Rewrites rs text names) :
      Rewrites (.literal quote body :: rs) (quote :: (body ++ text)) names
  | placeholder {name rs text names} (hrest : Rewrites rs text names) :
      Rewrites (.placeholder name :: rs) ('?' :: text) (String.ofList name :: names)
  | plain {c rs text names} (hrest : Rewrites rs text names) : Rewrites (.plain c :: rs) (c :: text) names

theorem rewrites_ofRegions (rs : List Region) :
    Rewrites rs (Positional.ofRegions rs).text.toList (Positional.ofRegions rs).names := by
  unfold Positional.ofRegions
  rw [String.toList_ofList]
  induction rs with
  | nil => exact .done
  | cons r rs ih =>
    cases r with
    | comment body       => exact .comment ih
    | literal quote body => exact .literal ih
    | placeholder name   => exact .placeholder ih
    | plain c            => exact .plain ih

/-- Regions are rewritten in one way only. -/
theorem Rewrites.unique {rs : List Region} {text text' : List Char} {names names' : List String}
    (h : Rewrites rs text names) (h' : Rewrites rs text' names') : text = text' ∧ names = names' := by
  induction h generalizing text' names' with
  | done =>
    cases h' with
    | done => exact ⟨rfl, rfl⟩
  | comment _ ih | literal _ ih | placeholder _ ih | plain _ ih =>
    cases h'
    rename_i hrest
    obtain ⟨rfl, rfl⟩ := ih hrest
    exact ⟨rfl, rfl⟩

/-- **The statement with markers is what comes of the one cut of its text.** Every text has exactly one cut that
    follows the rules, where the quotes are `'` and `"` and a name has no blank, no closing parenthesis and no comma.
    Of this cut come exactly the text with markers and the names, region by region. -/
theorem ofNamed_decomposition (sql : String) :
    (∃! rs, Decomposes [] rs sql.toList)
      ∧ (∀ rs, Decomposes [] rs sql.toList → ∀ p : Positional,
          Rewrites rs p.text.toList p.names ↔ p = Positional.ofNamed sql)
      ∧ (∀ c, isQuote c = true ↔ c = '\'' ∨ c = '"')
      ∧ ∀ c, isNameChar c = true ↔ c ≠ ' ' ∧ c ≠ ')' ∧ c ≠ ',' := by
  refine ⟨⟨regions sql.toList, decomposes_iff.mpr rfl, fun rs h => decomposes_iff.mp h⟩, ?_,
    fun _ => isQuote_iff, fun _ => isNameChar_iff⟩
  intro rs h p
  obtain rfl := decomposes_iff.mp h
  have hcut : Rewrites (regions sql.toList) (Positional.ofNamed sql).text.toList (Positional.ofNamed sql).names :=
    rewrites_ofRegions _
  constructor
  · intro hp
    obtain ⟨htext, hnames⟩ := hp.unique hcut
    obtain ⟨text, names⟩ := p
    obtain rfl : text = (Positional.ofNamed sql).text := String.toList_inj.mp htext
    obtain rfl : names = (Positional.ofNamed sql).names := hnames
    rfl
  · rintro rfl
    exact hcut

/-- Comments, a literal with an escaped quote and a colon in it, and one name twice. -/
theorem ofNamed_decomposition_mixed :
    let sql := "/**/x='a\\':b'/*:c*/:d,:d"
    let cut : List Region := [.comment ['*', '/'], .plain 'x', .plain '=', .literal '\'' "a\\':b'".toList,
      .comment ":c*/".toList, .placeholder ['d'], .plain ',', .placeholder ['d']]
    Decomposes [] cut sql.toList ∧ Rewrites cut " x='a\\':b' ?,?".toList ["d", "d"]
      ∧ Positional.ofNamed sql = ⟨" x='a\\':b' ?,?", ["d", "d"]⟩ := by
  intro sql cut
  have hcut : Decomposes [] cut sql.toList := decomposes_iff.mpr (by decide +kernel)
  have hrewrites : Rewrites cut " x='a\\':b' ?,?".toList ["d", "d"] :=
    .comment (.plain (.plain (.literal (.comment (.placeholder (.plain (.placeholder .done)))))))
  exact ⟨hcut, hrewrites, (((ofNamed_decomposition sql).2.1 cut hcut ⟨_, _⟩).mp hrewrites).symm⟩

end NamedSql
