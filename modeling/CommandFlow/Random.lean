/-!
# Random numbers

A generator of 32-bit words with 624 words of state, of which each draw renews one.

* `Generator` : the state and the place of the next word;
* `Generator.ofSeed` : the generator of an integer;
* `Generator.next`, `Generator.bits`, `Generator.below` : a word, a number of so many bits, and a number
  below a bound.
-/

namespace CommandFlow

structure Generator where
  words : Array UInt32
  place : Nat

namespace Generator

def size : Nat := 624

/-- The distance of the word that a renewal mixes in. -/
def offset : Nat := 397

/-- The word at a place, counted around the end. -/
def word (words : Array UInt32) (i : Nat) : UInt32 := words.getD (i % size) 0

/-! ## Seeding -/

/-- A word with its two highest bits mixed into the lowest ones. -/
def fold (w : UInt32) : UInt32 := w ^^^ (w >>> 30)

/-- The words that a single word begets. -/
def spread (seed : UInt32) : Array UInt32 :=
  (List.range (size - 1)).foldl
    (fun words i => words.push (1812433253 * fold (words.getD i 0) + UInt32.ofNat (i + 1)))
    #[seed]

/-- Replaces the word at a place, given the one before it. The last word is also kept at the front, where
the next round finds it. -/
def replace (words : Array UInt32) (i : Nat) (w : UInt32) : Array UInt32 :=
  let words := words.setIfInBounds i w
  if i = size - 1 then words.setIfInBounds 0 w else words

/-- The place whose word is replaced in a round: all but the first in turn. -/
def turn (k : Nat) : Nat := k % (size - 1) + 1

def mixKey (key : List UInt32) (words : Array UInt32) : Array UInt32 :=
  (List.range (max size key.length)).foldl
    (fun words k =>
      let i := turn k
      let j := k % key.length
      replace words i ((word words i ^^^ (fold (word words (i - 1)) * 1664525)) +
        key.getD j 0 + UInt32.ofNat j))
    words

def mixSelf (start : Nat) (words : Array UInt32) : Array UInt32 :=
  (List.range (size - 1)).foldl
    (fun words k =>
      let i := turn (start + k)
      replace words i ((word words i ^^^ (fold (word words (i - 1)) * 1566083941)) -
        UInt32.ofNat i))
    words

def ofKey (key : List UInt32) : Generator :=
  let words := mixSelf (max size key.length) (mixKey key (spread 19650218))
  ⟨words.setIfInBounds 0 0x80000000, 0⟩

def wordCount : Nat := 4294967296

/-- The 32-bit words of a natural number, least significant first. -/
def keyWords (n : Nat) : List UInt32 :=
  if n < wordCount then [UInt32.ofNat n]
  else UInt32.ofNat (n % wordCount) :: keyWords (n / wordCount)
decreasing_by
  simp only [wordCount] at *
  omega

/-- The generator of an integer; its sign does not count. -/
def ofSeed (seed : Int) : Generator := ofKey (keyWords seed.natAbs)

/-! ## Drawing -/

/-- The word that takes the place of the one at a place. -/
def renewed (words : Array UInt32) (i : Nat) : UInt32 :=
  let joined := (word words i &&& 0x80000000) ||| (word words (i + 1) &&& 0x7FFFFFFF)
  word words (i + offset) ^^^ (joined >>> 1) ^^^ (if joined &&& 1 = 1 then 0x9908B0DF else 0)

/-- A word of state as it is handed out. -/
def temper (w : UInt32) : UInt32 :=
  let w := w ^^^ (w >>> 11)
  let w := w ^^^ ((w <<< 7) &&& 0x9D2C5680)
  let w := w ^^^ ((w <<< 15) &&& 0xEFC60000)
  w ^^^ (w >>> 18)

def next (g : Generator) : UInt32 × Generator :=
  let w := renewed g.words g.place
  (temper w, ⟨g.words.setIfInBounds g.place w, (g.place + 1) % size⟩)

/-- A number of so many bits: whole words from the least significant on, and the high bits of a last
one. -/
def bits (count : Nat) (g : Generator) : Nat × Generator :=
  if count ≤ 32 then
    let (w, g) := g.next
    (w.toNat / Nat.pow 2 (32 - count), g)
  else
    let (w, g) := g.next
    let (high, g) := bits (count - 32) g
    (w.toNat + high * wordCount, g)
decreasing_by omega

def bitLength (n : Nat) : Nat := if n = 0 then 0 else n.log2 + 1

/-- How often a draw is repeated at most, more often than any run gets to. -/
def attempts : Nat := Nat.pow 2 64

/-- Draws numbers of as many bits as the bound has until one is below the bound. -/
def drawBelow (bound : Nat) : Nat → Generator → Nat × Generator
  | 0, g => (0, g)
  | n + 1, g =>
    let (r, g) := bits (bitLength bound) g
    if r < bound then (r, g) else drawBelow bound n g

def below (bound : Nat) (g : Generator) : Nat × Generator := drawBelow bound attempts g

def between (least most : Int) (g : Generator) : Int × Generator :=
  let (r, g) := below (most - least + 1).toNat g
  (least + r, g)

end Generator

end CommandFlow
