/-!
# `NamedSql.Placeholder.Region` — an SQL text cut into regions

A statement is read once, from left to right, and falls into four kinds of region: block comments,
quoted literals, named placeholders, and single characters that are none of these. The cut never fails;
a comment or literal that is not closed runs to the end of the text.

## Contents
- **Regions.** `Region`, the text one covers (`source`), what it becomes (`image`), the name it asks for
  (`name?`).
- **Spans.** `commentSpan`, `literalSpan`, `nameSpan`: how far an opened region reaches. Each splits the
  text it is given, and loses nothing (`commentSpan_append`, `literalSpan_append`, `nameSpan_append`).
- **The cut.** `regionsFrom`, `regions`, and `regions_source`: the regions cover the text exactly.
-/

namespace NamedSql

/-- A stretch of SQL text that keeps or changes its form as one piece. -/
inductive Region where
  /-- A block comment: `body` is all that follows the opening mark, the closing mark included. -/
  | comment (body : List Char)
  /-- A quoted literal: `body` is all that follows the opening quote, the closing quote included. -/
  | literal (quote : Char) (body : List Char)
  /-- A colon and the name after it. -/
  | placeholder (name : List Char)
  /-- A character that belongs to none of the others. -/
  | plain (c : Char)
deriving DecidableEq, Repr

namespace Region

/-- The text that a region covers. -/
def source : Region → List Char
  | comment body       => '/' :: '*' :: body
  | literal quote body => quote :: body
  | placeholder name   => ':' :: name
  | plain c            => [c]

/-- What a region becomes: a comment is a blank, a placeholder a marker, and the rest stays. -/
def image : Region → List Char
  | comment _          => [' ']
  | literal quote body => quote :: body
  | placeholder _      => ['?']
  | plain c            => [c]

/-- The name that a region asks a value for. -/
def name? : Region → Option String
  | placeholder name => some (String.ofList name)
  | _                => none

end Region

/-! ## Classes of characters -/

/-- Both quotes open literals. -/
def isQuote (c : Char) : Bool := c == '\'' || c == '"'

/-- A name runs until a blank, a closing parenthesis or a comma; every other character may be in it. -/
def isNameChar (c : Char) : Bool := !(c == ' ' || c == ')' || c == ',')

/-- Whether the character after `c` is escaped, given whether `c` is: a backslash that is not itself
    escaped escapes its successor. -/
def escapes (escaped : Bool) (c : Char) : Bool := c == '\\' && !escaped

/-! ## Spans -/

/-- Splits the text after a comment's opening mark behind the first closing mark. -/
def commentSpan : List Char → List Char × List Char
  | []                 => ([], [])
  | '*' :: '/' :: rest => (['*', '/'], rest)
  | c :: rest          => let (body, after) := commentSpan rest; (c :: body, after)

/-- Splits the text after an opening quote behind the first such quote that is not escaped. -/
def literalSpan (quote : Char) (escaped : Bool) : List Char → List Char × List Char
  | []        => ([], [])
  | c :: rest =>
    if c = quote ∧ escaped = false then ([c], rest)
    else let (body, after) := literalSpan quote (escapes escaped c) rest; (c :: body, after)

/-- Splits the text after a colon behind the longest run of name characters. -/
def nameSpan (s : List Char) : List Char × List Char := (s.takeWhile isNameChar, s.dropWhile isNameChar)

theorem commentSpan_append (s : List Char) : (commentSpan s).1 ++ (commentSpan s).2 = s := by
  fun_induction commentSpan s with
  | case1 => rfl
  | case2 rest => rfl
  | case3 c rest _ body after h ih => simpa [h] using ih

theorem literalSpan_append (quote : Char) (escaped : Bool) (s : List Char) :
    (literalSpan quote escaped s).1 ++ (literalSpan quote escaped s).2 = s := by
  fun_induction literalSpan quote escaped s with
  | case1 => rfl
  | case2 escaped rest h => rfl
  | case3 escaped c rest _ body after h ih => simpa [h] using ih

theorem nameSpan_append (s : List Char) : (nameSpan s).1 ++ (nameSpan s).2 = s :=
  List.takeWhile_append_dropWhile

theorem length_commentSpan_le (s : List Char) : (commentSpan s).2.length ≤ s.length := by
  have h := congrArg List.length (commentSpan_append s)
  rw [List.length_append] at h
  omega

theorem length_literalSpan_le (quote : Char) (escaped : Bool) (s : List Char) :
    (literalSpan quote escaped s).2.length ≤ s.length := by
  have h := congrArg List.length (literalSpan_append quote escaped s)
  rw [List.length_append] at h
  omega

theorem length_nameSpan_le (s : List Char) : (nameSpan s).2.length ≤ s.length := by
  have h := congrArg List.length (nameSpan_append s)
  rw [List.length_append] at h
  omega

/-! ## The cut -/

/-- The regions of a text whose first character is escaped or not. A quote opens a literal unless it is
    escaped; a colon opens a placeholder if a name character follows. What precedes a comment, a literal or
    a placeholder escapes nothing behind it. -/
def regionsFrom (escaped : Bool) : List Char → List Region
  | []                 => []
  | '/' :: '*' :: rest =>
    .comment (commentSpan rest).1 :: regionsFrom false (commentSpan rest).2
  | c :: rest          =>
    if isQuote c ∧ escaped = false then
      .literal c (literalSpan c false rest).1 :: regionsFrom false (literalSpan c false rest).2
    else if c = ':' ∧ rest.head?.any isNameChar then
      .placeholder (nameSpan rest).1 :: regionsFrom false (nameSpan rest).2
    else
      .plain c :: regionsFrom (escapes escaped c) rest
termination_by s => s.length
decreasing_by
  · have := length_commentSpan_le rest; simp; omega
  · have := length_literalSpan_le c false rest; simp; omega
  · have := length_nameSpan_le rest; simp; omega
  · simp

/-- The regions of a whole statement. -/
def regions (s : List Char) : List Region := regionsFrom false s

/-- The regions cover the text exactly, in order. -/
theorem regionsFrom_source (escaped : Bool) (s : List Char) :
    (regionsFrom escaped s).flatMap Region.source = s := by
  fun_induction regionsFrom escaped s with
  | case1 => rfl
  | case2 escaped rest ih => simp [Region.source, ih, commentSpan_append]
  | case3 escaped c rest _ h ih => simp [Region.source, ih, literalSpan_append]
  | case4 escaped c rest _ _ h ih => simp [Region.source, ih, nameSpan_append, h.1]
  | case5 escaped c rest _ _ _ ih => simp [Region.source, ih]

theorem regions_source (s : List Char) : (regions s).flatMap Region.source = s :=
  regionsFrom_source false s

end NamedSql
