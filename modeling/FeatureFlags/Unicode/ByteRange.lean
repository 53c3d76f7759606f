/-!
# Ranges of UTF-8 encodings

The UTF-8 encodings of a range of code points, cut into blocks: a block has a range
of bytes for each place, and holds every encoding with its bytes in those ranges.
-/

namespace FeatureFlags.Unicode

/-- A range of bytes, both ends included. -/
abbrev ByteRange := Nat × Nat

/-- The bytes of the encoding of a code point. -/
def encode (n : Nat) : List Nat :=
  if n < 0x80 then [n]
  else if n < 0x800 then [0xC0 + n / 64, 0x80 + n % 64]
  else if n < 0x10000 then [0xE0 + n / 4096, 0x80 + n / 64 % 64, 0x80 + n % 64]
  else [0xF0 + n / 262144, 0x80 + n / 4096 % 64, 0x80 + n / 64 % 64, 0x80 + n % 64]

/-- The last code point that encodings of the same length as those before it have. -/
def lengthCut? (lo hi : Nat) : Option Nat :=
  [0x7F, 0x7FF, 0xFFFF].find? fun last => lo ≤ last && last < hi

/-- Where to cut a range of encodings of one length so that the bytes after the first `places`
ones are not restricted by those before them: `size` code points share those bytes. -/
def alignmentCut? (lo hi size : Nat) : Option Nat :=
  if lo / size = hi / size then none
  else if lo % size ≠ 0 then some (lo / size * size + (size - 1))
  else if hi % size ≠ size - 1 then some (hi / size * size - 1)
  else none

/-- The last code point of the first part, if the range is no block. -/
def cut? (lo hi : Nat) : Option Nat :=
  (lengthCut? lo hi).orElse fun _ =>
    if hi < 0x80 then none
    else [64, 64 * 64, 64 * 64 * 64].findSome? (alignmentCut? lo hi)

/-- The blocks of a range without surrogates, in increasing order. -/
def blocksFrom (lo hi : Nat) : List (List ByteRange) :=
  match cut? lo hi with
  | none => [(encode lo).zip (encode hi)]
  | some last =>
    if lo ≤ last ∧ last < hi then blocksFrom lo last ++ blocksFrom (last + 1) hi else []
termination_by hi - lo

/-- The blocks of a range; surrogates have no encoding. -/
def blocks (lo hi : Nat) : List (List ByteRange) :=
  if lo < 0xE000 ∧ 0xD7FF < hi then
    (if lo ≤ 0xD7FF then blocksFrom lo 0xD7FF else []) ++
      (if 0xE000 ≤ hi then blocksFrom 0xE000 hi else [])
  else blocksFrom lo hi

end FeatureFlags.Unicode
