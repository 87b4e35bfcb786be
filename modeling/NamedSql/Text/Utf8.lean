/-!
# `NamedSql.Text.Utf8` — texts as bytes

## Contents
- `Utf8.Defect`: what is wrong with a text, and where; `Utf8.Defect.message`.
- `Utf8.decode`: the characters of a text, or its first defect. `Utf8.decodeLossy`: the characters of a text, with a
  replacement for each defect.
-/

namespace NamedSql.Utf8

/-- The first place where bytes are no text. -/
structure Defect where
  /-- The number of bytes before it. -/
  index  : Nat
  /-- How many bytes can be no part of a text; none if the bytes just end too early. -/
  length : Option Nat
deriving DecidableEq, Repr

/-- How a defect reads. -/
def Defect.message (d : Defect) : String :=
  match d.length with
  | some n => "invalid utf-8 sequence of " ++ toString n ++ " bytes from index " ++ toString d.index
  | none   => "incomplete utf-8 byte sequence from index " ++ toString d.index

/-- What a leading byte above 0x7F announces. -/
structure Lead where
  /-- The bits that the leading byte contributes. -/
  bits : Nat
  /-- The least and the greatest second byte. -/
  low  : UInt8
  high : UInt8
  /-- The bytes that follow the second one. -/
  more : Nat

/-- Reads a leading byte. Its second byte is restricted where a character could be written shorter, would be
    a surrogate, or would lie beyond the last character. -/
def lead? (b : UInt8) : Option Lead :=
  if 0xC2 ≤ b ∧ b ≤ 0xDF then some ⟨b.toNat - 0xC0, 0x80, 0xBF, 0⟩
  else if b = 0xE0 then some ⟨0, 0xA0, 0xBF, 1⟩
  else if b = 0xED then some ⟨0xD, 0x80, 0x9F, 1⟩
  else if 0xE1 ≤ b ∧ b ≤ 0xEF then some ⟨b.toNat - 0xE0, 0x80, 0xBF, 1⟩
  else if b = 0xF0 then some ⟨0, 0x90, 0xBF, 2⟩
  else if 0xF1 ≤ b ∧ b ≤ 0xF3 then some ⟨b.toNat - 0xF0, 0x80, 0xBF, 2⟩
  else if b = 0xF4 then some ⟨4, 0x80, 0x8F, 2⟩
  else none

/-- Reads the bytes after the second one. `count` is the number of bytes read so far; a failure tells the
    length of the defect. -/
def tail (count : Nat) (code : Nat) : Nat → List UInt8 → Except (Option Nat) (Nat × List UInt8)
  | 0,        rest      => .ok (code, rest)
  | _ + 1,    []        => .error none
  | more + 1, b :: rest =>
    if 0x80 ≤ b ∧ b ≤ 0xBF then tail (count + 1) (code * 64 + (b.toNat - 0x80)) more rest
    else .error (some count)

/-- Reads one character. -/
def char (b : UInt8) (rest : List UInt8) : Except (Option Nat) (Nat × List UInt8) :=
  if b ≤ 0x7F then .ok (b.toNat, rest)
  else
    match lead? b, rest with
    | none,   _         => .error (some 1)
    | some _, []        => .error none
    | some l, c :: rest =>
      if l.low ≤ c ∧ c ≤ l.high then tail 2 (l.bits * 64 + (c.toNat - 0x80)) l.more rest
      else .error (some 1)

theorem length_of_tail {count code more : Nat} {s rest : List UInt8} {n : Nat}
    (h : tail count code more s = .ok (n, rest)) : rest.length ≤ s.length := by
  fun_induction tail count code more s with
  | case1 => simp_all
  | case2 => simp at h
  | case3 count code more b s _ ih => have := ih h; simp; omega
  | case4 => simp at h

theorem length_of_char {b : UInt8} {s rest : List UInt8} {n : Nat} (h : char b s = .ok (n, rest)) :
    rest.length ≤ s.length := by
  unfold char at h
  split at h
  · simp_all
  · split at h
    · simp at h
    · simp at h
    · split at h
      · have := length_of_tail h
        simp
        omega
      · simp at h

/-- Reads characters from a place on. -/
def decodeFrom (index : Nat) : List UInt8 → Except Defect (List Char)
  | []      => .ok []
  | b :: s  =>
    match _h : char b s with
    | .error length  => .error ⟨index, length⟩
    | .ok (n, rest)  =>
      match decodeFrom (index + (Char.ofNat n).utf8Size) rest with
      | .error d => .error d
      | .ok cs   => .ok (Char.ofNat n :: cs)
termination_by s => s.length
decreasing_by
  have := length_of_char _h
  simp
  omega

/-- The characters that bytes stand for. -/
def decode (s : List UInt8) : Except Defect (List Char) := decodeFrom 0 s

/-- The character that stands in the place of what is no text. -/
def replacement : Char := '\ufffd'

/-- The characters that bytes stand for, with the replacement in the place of each defect. -/
def decodeLossy : List UInt8 → List Char
  | []     => []
  | b :: s =>
    match _h : char b s with
    | .ok (n, rest)      => Char.ofNat n :: decodeLossy rest
    | .error (some size) => replacement :: decodeLossy (s.drop (size - 1))
    | .error none        => [replacement]
termination_by s => s.length
decreasing_by
  · have := length_of_char _h
    simp only [List.length_cons]
    omega
  · simp only [List.length_drop, List.length_cons]
    omega

end NamedSql.Utf8
