/-!
Reading bytes as UTF-8 text, replacing what is not UTF-8.

A well-formed sequence becomes its character. Where a sequence breaks off,
the longest start of a well-formed sequence that was seen becomes one
replacement character `U+FFFD`, and reading goes on at the byte that broke
it; a byte that cannot start a sequence is replaced on its own. This is the
"maximal subpart" rule of the Unicode standard, so the text read from a log
does not depend on where a broken sequence stops.

* **`decodeLossy_ascii`**: bytes below `0x80` read as themselves.
-/

namespace LaunchBench.Text

/-- The character that stands for bytes that are not UTF-8. -/
def replacement : Char := '\uFFFD'

/-- Whether a byte continues a sequence: `10xxxxxx`. -/
def isContinuation (b : UInt8) : Bool :=
  0x80 ≤ b.toNat && b.toNat ≤ 0xBF

/-- For a byte that starts a sequence of two or more bytes: the bounds of the
byte after it and how many bytes follow that one. The bounds leave out
overlong forms, surrogates and values above `U+10FFFF`. -/
def leadShape (b : Nat) : Option (Nat × Nat × Nat) :=
  if 0xC2 ≤ b && b ≤ 0xDF then some (0x80, 0xBF, 0)
  else if b == 0xE0 then some (0xA0, 0xBF, 1)
  else if (0xE1 ≤ b && b ≤ 0xEC) || b == 0xEE || b == 0xEF then some (0x80, 0xBF, 1)
  else if b == 0xED then some (0x80, 0x9F, 1)
  else if b == 0xF0 then some (0x90, 0xBF, 2)
  else if 0xF1 ≤ b && b ≤ 0xF3 then some (0x80, 0xBF, 2)
  else if b == 0xF4 then some (0x80, 0x8F, 2)
  else none

/-- The character read from a first byte `b` of `128` or more and the bytes
after it, with the bytes left over: a broken sequence gives `U+FFFD` and
leaves the byte that broke it. -/
def readSequence (b : UInt8) (rest : List UInt8) : Char × List UInt8 :=
  let n := b.toNat
  match leadShape n with
  | none => (replacement, rest)
  | some (lo, hi, more) =>
    match rest with
    | [] => (replacement, [])
    | c :: rest2 =>
      if lo ≤ c.toNat && c.toNat ≤ hi then
        if more = 0 then (Char.ofNat ((n % 32) * 64 + c.toNat % 64), rest2)
        else match rest2 with
          | [] => (replacement, [])
          | d :: rest3 =>
            if isContinuation d then
              if more = 1 then
                (Char.ofNat ((n % 16) * 4096 + (c.toNat % 64) * 64 + d.toNat % 64), rest3)
              else match rest3 with
                | [] => (replacement, [])
                | e :: rest4 =>
                  if isContinuation e then
                    (Char.ofNat ((n % 8) * 262144 + (c.toNat % 64) * 4096 +
                      (d.toNat % 64) * 64 + e.toNat % 64), rest4)
                  else (replacement, e :: rest4)
            else (replacement, d :: rest3)
      else (replacement, c :: rest2)

theorem readSequence_length_le (b : UInt8) (rest : List UInt8) :
    (readSequence b rest).2.length ≤ rest.length := by
  unfold readSequence
  dsimp only
  generalize leadShape b.toNat = shape
  cases shape with
  | none => simp
  | some s =>
    obtain ⟨lo, hi, more⟩ := s
    cases rest with
    | nil => simp
    | cons c rest2 =>
      dsimp only
      split
      · split
        · simp
        · cases rest2 with
          | nil => simp
          | cons d rest3 =>
            dsimp only
            split
            · split
              · simp only [List.length_cons]; omega
              · cases rest3 with
                | nil => simp
                | cons e rest4 =>
                  dsimp only
                  split
                  · simp only [List.length_cons]; omega
                  · simp
            · simp
      · simp

/-- Reads bytes as UTF-8, replacing each maximal broken part by `U+FFFD`. -/
def decodeLossyChars : List UInt8 → List Char
  | [] => []
  | b :: rest =>
    if b.toNat < 0x80 then Char.ofNat b.toNat :: decodeLossyChars rest
    else (readSequence b rest).1 :: decodeLossyChars (readSequence b rest).2
termination_by bs => bs.length
decreasing_by
  all_goals simp only [List.length_cons]
  · omega
  · have := readSequence_length_le b rest
    omega

/-- Reads bytes as UTF-8 text, replacing what is not UTF-8. -/
def decodeLossy (bs : List UInt8) : String :=
  String.ofList (decodeLossyChars bs)

/-- The UTF-8 bytes of a text. -/
def utf8Bytes (s : String) : List UInt8 :=
  s.toUTF8.toList

theorem decodeLossy_ascii (b : UInt8) (rest : List UInt8) (h : b.toNat < 0x80) :
    decodeLossyChars (b :: rest) = Char.ofNat b.toNat :: decodeLossyChars rest := by
  rw [decodeLossyChars, if_pos h]

example : decodeLossyChars [0x45, 0xFF, 0x0A] = ['E', replacement, '\n'] := by decide +kernel
example : decodeLossyChars [0xC3, 0xA9, 0xFF] = ['é', replacement] := by decide +kernel
example : decodeLossyChars [0x20, 0xC3] = [' ', replacement] := by decide +kernel
example : decodeLossyChars [0xE2, 0x82, 0x41] = [replacement, 'A'] := by decide +kernel
example : decodeLossyChars [0xED, 0xA0, 0x80] = [replacement, replacement, replacement] := by decide +kernel

end LaunchBench.Text
