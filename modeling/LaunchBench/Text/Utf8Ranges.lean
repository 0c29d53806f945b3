/-!
Ranges of code points as ranges of UTF-8 bytes.

The UTF-8 encodings of a range of scalar values are covered by a few
sequences of byte ranges, each sequence matching one byte range per byte of
the encoding. A range is first cut around the surrogates and at the last
code point of each encoding length; a range within one length is then cut
where a continuation byte would wrap, until its first and last code points
differ only in ways that one range per byte can describe. The sequences come
out in increasing order and never overlap.

* **`codePointBytes_ascii`**: an ASCII code point is its own single byte.
-/

namespace LaunchBench.Text

/-- The UTF-8 bytes of a code point. -/
def codePointBytes (n : Nat) : List Nat :=
  if n < 0x80 then [n]
  else if n < 0x800 then [0xC0 + n / 64, 0x80 + n % 64]
  else if n < 0x10000 then [0xE0 + n / 4096, 0x80 + n / 64 % 64, 0x80 + n % 64]
  else [0xF0 + n / 262144, 0x80 + n / 4096 % 64, 0x80 + n / 64 % 64, 0x80 + n % 64]

theorem codePointBytes_ascii (n : Nat) (h : n < 0x80) : codePointBytes n = [n] := by
  simp [codePointBytes, h]

/-- The UTF-8 bytes of a run of characters. -/
def charsBytes (cs : List Char) : List Nat :=
  cs.flatMap fun c => codePointBytes c.toNat

/-- Where a range within one encoding length must be cut so that one byte range per byte
describes each part: at the first place where, for the continuation bytes below a
multiple of `2 ^ (6 i)`, the range neither starts at such a multiple nor ends just below
one. -/
def cutPoint (lo hi : Nat) : Option (Nat × Nat) :=
  [64, 4096, 262144].findSome? fun unit =>
    if lo / unit = hi / unit then none
    else if lo % unit ≠ 0 then some (lo - lo % unit + unit - 1, lo - lo % unit + unit)
    else if hi % unit ≠ unit - 1 then some (hi - hi % unit - 1, hi - hi % unit)
    else none

/-- The byte-range sequences of the scalar values from `lo` to `hi`, cutting at most
`fuel` times along any path. -/
def sequencesWith : Nat → Nat → Nat → List (List (Nat × Nat))
  | 0, _, _ => []
  | fuel + 1, lo, hi =>
    if hi < lo then []
    else if lo < 0xE000 && 0xD7FF < hi then
      sequencesWith fuel lo 0xD7FF ++ sequencesWith fuel 0xE000 hi
    else
      match [0x7F, 0x7FF, 0xFFFF].find? (fun m => lo ≤ m && m < hi) with
      | some m => sequencesWith fuel lo m ++ sequencesWith fuel (m + 1) hi
      | none =>
        if hi ≤ 0x7F then [[(lo, hi)]]
        else
          match cutPoint lo hi with
          | some (leftEnd, rightStart) =>
            sequencesWith fuel lo leftEnd ++ sequencesWith fuel rightStart hi
          | none => [(codePointBytes lo).zip (codePointBytes hi)]

/-- The byte-range sequences of the scalar values from `lo` to `hi`. Every cut moves a
range to a shorter encoding or to a coarser unit, so a path has far fewer than 32 cuts. -/
def utf8Sequences (lo hi : Nat) : List (List (Nat × Nat)) :=
  sequencesWith 32 lo hi

end LaunchBench.Text
