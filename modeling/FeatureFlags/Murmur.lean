/-!
# The 32-bit Murmur3 hash

The hash with seed zero.  A text of bytes is taken in blocks of four, the first byte of a
block being its lowest; the bytes after the last whole block are mixed in without the
final step of a block.
-/

namespace FeatureFlags.Murmur

/-- Rotates a word to the left. -/
def rotate (x r : UInt32) : UInt32 := (x <<< r) ||| (x >>> (32 - r))

/-- Scrambles a block. -/
def scramble (k : UInt32) : UInt32 := rotate (k * 0xcc9e2d51) 15 * 0x1b873593

/-- Mixes a whole block into the hash. -/
def mix (h k : UInt32) : UInt32 := rotate (h ^^^ scramble k) 13 * 5 + 0xe6546b64

/-- Mixes all bits of the hash with each other. -/
def finish (h : UInt32) : UInt32 :=
  let h := (h ^^^ (h >>> 16)) * 0x85ebca6b
  let h := (h ^^^ (h >>> 13)) * 0xc2b2ae35
  h ^^^ (h >>> 16)

/-- The number that bytes spell, the lowest one first. -/
def littleEndian (bytes : List UInt8) : UInt32 :=
  bytes.foldr (fun b n => n * 256 + b.toUInt32) 0

/-- Mixes bytes into the hash. -/
def absorb (h : UInt32) : List UInt8 → UInt32
  | [] => h
  | a :: b :: c :: d :: rest => absorb (mix h (littleEndian [a, b, c, d])) rest
  | bytes => h ^^^ scramble (littleEndian bytes)

/-- The hash of a text in UTF-8. -/
def hash (text : String) : UInt32 :=
  finish (absorb 0 text.toUTF8.data.toList ^^^ text.utf8ByteSize.toUInt32)

end FeatureFlags.Murmur
