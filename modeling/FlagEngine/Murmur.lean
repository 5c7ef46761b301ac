/-!
# MurmurHash3, 32 bits

The hash of a byte string: blocks of four bytes are mixed into the state one after the other, then the
trailing bytes and the length, and the state is avalanched.
-/

namespace FlagEngine.Murmur

def rotateLeft (x k : UInt32) : UInt32 :=
  (x <<< k) ||| (x >>> (32 - k))

/-- The little-endian word of up to four bytes. -/
def word : List UInt8 → UInt32
  | [] => 0
  | b :: bs => b.toUInt32 ||| (word bs <<< 8)

/-- Spreads a block before it enters the state. -/
def scramble (block : UInt32) : UInt32 :=
  rotateLeft (block * 0xcc9e2d51) 15 * 0x1b873593

/-- Mixes one block into the state. -/
def mix (state block : UInt32) : UInt32 :=
  rotateLeft (state ^^^ scramble block) 13 * 5 + 0xe6546b64

/-- Mixes all bytes into the state; the last one to three make a block that is not mixed further. -/
def absorb (state : UInt32) : List UInt8 → UInt32
  | a :: b :: c :: d :: rest => absorb (mix state (word [a, b, c, d])) rest
  | tail => state ^^^ scramble (word tail)

/-- Makes every bit of the state depend on every other. -/
def avalanche (state : UInt32) : UInt32 :=
  let state := state ^^^ (state >>> 16)
  let state := state * 0x85ebca6b
  let state := state ^^^ (state >>> 13)
  let state := state * 0xc2b2ae35
  state ^^^ (state >>> 16)

def hash (seed : UInt32) (bytes : List UInt8) : UInt32 :=
  avalanche (absorb seed bytes ^^^ UInt32.ofNat bytes.length)

/-- The hash of the UTF-8 bytes of a text. -/
def hashText (seed : UInt32) (s : String) : UInt32 :=
  hash seed s.toUTF8.toList

end FlagEngine.Murmur
