/-!
# The hash of 512 bits

* `Sha512.hash` : the 64 bytes of a hash;
* `pad` : a message with its length, in whole blocks of 128 bytes;
* `schedule` : the 80 words of a block; `compress` : mixes a block into the eight words of state.
-/

namespace CommandFlow.Sha512

/-- The words that the rounds add: the first 64 bits behind the point of the cube roots of the first 80
primes. -/
def constants : Array UInt64 := #[
  0x428a2f98d728ae22, 0x7137449123ef65cd, 0xb5c0fbcfec4d3b2f, 0xe9b5dba58189dbbc,
  0x3956c25bf348b538, 0x59f111f1b605d019, 0x923f82a4af194f9b, 0xab1c5ed5da6d8118,
  0xd807aa98a3030242, 0x12835b0145706fbe, 0x243185be4ee4b28c, 0x550c7dc3d5ffb4e2,
  0x72be5d74f27b896f, 0x80deb1fe3b1696b1, 0x9bdc06a725c71235, 0xc19bf174cf692694,
  0xe49b69c19ef14ad2, 0xefbe4786384f25e3, 0x0fc19dc68b8cd5b5, 0x240ca1cc77ac9c65,
  0x2de92c6f592b0275, 0x4a7484aa6ea6e483, 0x5cb0a9dcbd41fbd4, 0x76f988da831153b5,
  0x983e5152ee66dfab, 0xa831c66d2db43210, 0xb00327c898fb213f, 0xbf597fc7beef0ee4,
  0xc6e00bf33da88fc2, 0xd5a79147930aa725, 0x06ca6351e003826f, 0x142929670a0e6e70,
  0x27b70a8546d22ffc, 0x2e1b21385c26c926, 0x4d2c6dfc5ac42aed, 0x53380d139d95b3df,
  0x650a73548baf63de, 0x766a0abb3c77b2a8, 0x81c2c92e47edaee6, 0x92722c851482353b,
  0xa2bfe8a14cf10364, 0xa81a664bbc423001, 0xc24b8b70d0f89791, 0xc76c51a30654be30,
  0xd192e819d6ef5218, 0xd69906245565a910, 0xf40e35855771202a, 0x106aa07032bbd1b8,
  0x19a4c116b8d2d0c8, 0x1e376c085141ab53, 0x2748774cdf8eeb99, 0x34b0bcb5e19b48a8,
  0x391c0cb3c5c95a63, 0x4ed8aa4ae3418acb, 0x5b9cca4f7763e373, 0x682e6ff3d6b2b8a3,
  0x748f82ee5defb2fc, 0x78a5636f43172f60, 0x84c87814a1f0ab72, 0x8cc702081a6439ec,
  0x90befffa23631e28, 0xa4506cebde82bde9, 0xbef9a3f7b2c67915, 0xc67178f2e372532b,
  0xca273eceea26619c, 0xd186b8c721c0c207, 0xeada7dd6cde0eb1e, 0xf57d4f7fee6ed178,
  0x06f067aa72176fba, 0x0a637dc5a2c898a6, 0x113f9804bef90dae, 0x1b710b35131c471b,
  0x28db77f523047d84, 0x32caab7b40c72493, 0x3c9ebe0a15c9bebc, 0x431d67c49c100d4c,
  0x4cc5d4becb3e42b6, 0x597f299cfc657e2a, 0x5fcb6fab3ad6faec, 0x6c44198c4a475817]

/-- The words that a hash begins with: the first 64 bits behind the point of the square roots of the first
eight primes. -/
def initial : Array UInt64 := #[
  0x6a09e667f3bcc908, 0xbb67ae8584caa73b, 0x3c6ef372fe94f82b, 0xa54ff53a5f1d36f1,
  0x510e527fade682d1, 0x9b05688c2b3e6c1f, 0x1f83d9abfb41bd6b, 0x5be0cd19137e2179]

def turn (w : UInt64) (count : UInt64) : UInt64 := (w >>> count) ||| (w <<< (64 - count))

def bytesOf (count n : Nat) : List UInt8 :=
  (List.range count).map fun i => UInt8.ofNat (n / Nat.pow 256 (count - 1 - i))

/-- A message with a mark, zeros and its length in bits, in whole blocks. -/
def pad (message : List UInt8) : List UInt8 :=
  let zeros := (239 - message.length % 128) % 128
  message ++ 0x80 :: List.replicate zeros 0 ++ bytesOf 16 (message.length * 8)

/-- The word of eight bytes, most significant first. -/
def wordOf (bytes : List UInt8) : UInt64 :=
  bytes.foldl (fun w b => (w <<< 8) ||| b.toUInt64) 0

/-- Parts of a length, which must not be zero, as many as fit. -/
def chunks {α : Type} (size : Nat) : Nat → List α → List (List α)
  | 0, _ => []
  | count + 1, xs => xs.take size :: chunks size count (xs.drop size)

/-- Mixes a word of the schedule forward, by its small turns. -/
def small (a b c : UInt64) (w : UInt64) : UInt64 := turn w a ^^^ turn w b ^^^ (w >>> c)

def large (a b c : UInt64) (w : UInt64) : UInt64 := turn w a ^^^ turn w b ^^^ turn w c

/-- The 80 words of a block: its own sixteen, and others mixed from them. -/
def schedule (block : List UInt8) : Array UInt64 :=
  let own : Array UInt64 := ((chunks 8 16 block).map wordOf).toArray
  (List.range 64).foldl
    (fun words i =>
      let word (k : Nat) : UInt64 := words.getD (i + k) 0
      words.push (small 19 61 6 (word 14) + word 9 + small 1 8 7 (word 1) + word 0))
    own

/-- The eight words of state in a round. -/
structure State where
  a : UInt64
  b : UInt64
  c : UInt64
  d : UInt64
  e : UInt64
  f : UInt64
  g : UInt64
  h : UInt64

def State.round (s : State) (constant word : UInt64) : State :=
  let choice := (s.e &&& s.f) ^^^ ((~~~s.e) &&& s.g)
  let majority := (s.a &&& s.b) ^^^ (s.a &&& s.c) ^^^ (s.b &&& s.c)
  let first := s.h + large 14 18 41 s.e + choice + constant + word
  let second := large 28 34 39 s.a + majority
  ⟨first + second, s.a, s.b, s.c, s.d + first, s.e, s.f, s.g⟩

def State.ofWords (words : Array UInt64) : State :=
  let word (i : Nat) : UInt64 := words.getD i 0
  ⟨word 0, word 1, word 2, word 3, word 4, word 5, word 6, word 7⟩

def State.words (s : State) : Array UInt64 := #[s.a, s.b, s.c, s.d, s.e, s.f, s.g, s.h]

def compress (words : Array UInt64) (block : List UInt8) : Array UInt64 :=
  let scheduled := schedule block
  let last := (List.range 80).foldl
    (fun s i => State.round s (constants.getD i 0) (scheduled.getD i 0)) (State.ofWords words)
  Array.zipWith (· + ·) words last.words

def hash (message : List UInt8) : List UInt8 :=
  let padded := pad message
  let words := (chunks 128 (padded.length / 128) padded).foldl compress initial
  words.toList.flatMap fun w => bytesOf 8 w.toNat

end CommandFlow.Sha512
