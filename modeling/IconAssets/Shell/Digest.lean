import IconAssets.Shell.Octet

/-!
# Digests

A digest is a number of fixed size that is made of a text.  Digests of one family take a text in
blocks of sixteen words, behind it a mark and its size, and mix each block into a state of a few
words; their constants are digits of roots and of sines.  The simpler ones add up the octets or take
a remainder.
-/

namespace IconAssets
namespace Shell
namespace Digest

/-- The greatest number with fewer than `bits` digits in base two whose power is at most `n`. -/
def root (power bits n : Nat) : Nat :=
  (List.range bits).foldr (fun b r => if Nat.pow (r + Nat.pow 2 b) power ≤ n then r + Nat.pow 2 b else r) 0

/-- Whether a number is a prime number. -/
def isPrime (n : Nat) : Bool := 2 ≤ n && (List.range n).all fun d => d < 2 || n % d ≠ 0

/-- The first prime numbers. -/
def primes (count : Nat) : List Nat := ((List.range 410).filter isPrime).take count

/-- The first `width` digits in base two of the fraction of a root of a number. -/
def fraction (power width n : Nat) : Nat :=
  root power (width + 8) (n * Nat.pow 2 (power * width)) % Nat.pow 2 width

/-- The first 32 digits in base two of the amount of the sine of a number. -/
def sine (n : Nat) : Nat :=
  let scale : Int := (Nat.pow 2 256 : Nat)
  let x : Int := n
  let terms := (List.range 150).foldl (fun (s : Int × Int) (k : Nat) =>
    (s.1 + s.2, -(s.2 * x * x).tdiv ((2 * (k : Int) + 2) * (2 * k + 3)))) (0, x * scale)
  terms.1.natAbs / Nat.pow 2 224

/-- The size of words and the order of the octets in them. -/
structure Layout where
  width : Nat
  lastFirst : Bool

namespace Layout

/-- One more than the greatest word. -/
def size (l : Layout) : Nat := Nat.pow 2 l.width

/-- The sum of words. -/
def add (l : Layout) (ws : List Nat) : Nat := ws.foldl (· + ·) 0 % l.size

/-- A word turned to the left. -/
def left (l : Layout) (n w : Nat) : Nat := (w <<< n) % l.size ||| w >>> (l.width - n)

/-- A word turned to the right. -/
def right (l : Layout) (n w : Nat) : Nat := l.left (l.width - n) w

/-- The other word with every digit changed. -/
def invert (l : Layout) (w : Nat) : Nat := l.size - 1 - w

/-- The word that some octets make. -/
def word (l : Layout) (bytes : List Nat) : Nat :=
  if l.lastFirst then bytes.foldr (fun b n => b + 256 * n) 0 else bytes.foldl (fun n b => 256 * n + b) 0

/-- The octets of a number, as many as asked for. -/
def bytes (l : Layout) (count n : Nat) : List Nat :=
  let low := (List.range count).map fun i => n / Nat.pow 256 i % 256
  if l.lastFirst then low else low.reverse

/-- The pieces of a size that a list has, as many as asked for. -/
def pieces (size : Nat) : Nat → List Nat → List (List Nat)
  | 0, _ => []
  | count + 1, bs => bs.take size :: pieces size count (bs.drop size)

/-- The blocks of a text, each of sixteen words. -/
def blocks (l : Layout) (text : List Nat) : List (Array Nat) :=
  let octets := l.width / 8
  let block := 16 * octets
  let used := text.length + 1 + 2 * octets
  let all := text ++ 128 :: List.replicate ((block - used % block) % block) 0 ++
    l.bytes (2 * octets) (8 * text.length)
  (pieces block (all.length / block) all).map fun b => ((pieces octets 16 b).map l.word).toArray

end Layout

/-- A digest that mixes blocks into a state of words. -/
structure Mixed where
  layout : Layout
  start : List Nat
  constants : Unit → Array Nat
  /-- The state after a block, given the constants, the state before it and the block. -/
  mix : Array Nat → List Nat → Array Nat → List Nat
  /-- The number of octets. -/
  size : Nat

/-- The digest of a text. -/
def Mixed.digest (m : Mixed) (text : List Nat) : List Nat :=
  let constants := m.constants ()
  let final := (m.layout.blocks text).foldl
    (fun s b => List.zipWith (fun v w => m.layout.add [v, w]) s (m.mix constants s b)) m.start
  (final.flatMap (m.layout.bytes (m.layout.width / 8))).take m.size

/-- The word of a block at a place. -/
def nth (block : Array Nat) (i : Nat) : Nat := block.getD i 0

/-- The state from which short digests start. -/
def shortStart : List Nat := [0x67452301, 0xefcdab89, 0x98badcfe, 0x10325476]

/-- The digest of 128 binary digits. -/
def short : Mixed where
  layout := ⟨32, true⟩
  start := shortStart
  size := 16
  constants := fun _ => ((List.range 64).map fun i => sine (i + 1)).toArray
  mix := fun constants s block =>
    let l : Layout := ⟨32, true⟩
    let turns := #[7, 12, 17, 22, 5, 9, 14, 20, 4, 11, 16, 23, 6, 10, 15, 21]
    (List.range 64).foldl (fun s i =>
      match s with
      | [a, b, c, d] =>
        let (f, k) :=
          if i < 16 then (b &&& c ||| l.invert b &&& d, i)
          else if i < 32 then (d &&& b ||| l.invert d &&& c, (5 * i + 1) % 16)
          else if i < 48 then (b ^^^ c ^^^ d, (3 * i + 5) % 16)
          else (c ^^^ (b ||| l.invert d), 7 * i % 16)
        let turned := l.left (turns.getD (i / 16 * 4 + i % 4) 0) (l.add [a, f, nth constants i, nth block k])
        [d, l.add [b, turned], b, c]
      | _ => s) s

/-- The digest of 160 binary digits. -/
def middle : Mixed where
  layout := ⟨32, false⟩
  start := shortStart ++ [0xc3d2e1f0]
  size := 20
  constants := fun _ => (List.map (fun n => root 2 33 (n * Nat.pow 2 60)) [2, 3, 5, 10]).toArray
  mix := fun constants s block =>
    let l : Layout := ⟨32, false⟩
    let words := (List.range 64).foldl (fun (ws : Array Nat) i =>
      ws.push (l.left 1 (nth ws (i + 13) ^^^ nth ws (i + 8) ^^^ nth ws (i + 2) ^^^ nth ws i))) block
    (List.range 80).foldl (fun s i =>
      match s with
      | [a, b, c, d, e] =>
        let f :=
          if i < 20 then b &&& c ||| l.invert b &&& d
          else if 40 ≤ i && i < 60 then b &&& c ||| b &&& d ||| c &&& d
          else b ^^^ c ^^^ d
        [l.add [l.left 5 a, f, e, nth constants (i / 20), nth words i], a, l.left 30 b, c, d]
      | _ => s) s

/-- How often words are turned in a long digest: two turns and a shift, twice, and three turns,
twice. -/
structure Turns where
  first : Nat × Nat × Nat
  second : Nat × Nat × Nat
  third : Nat × Nat × Nat
  fourth : Nat × Nat × Nat

/-- A long digest of words of a width. -/
def long (width rounds : Nat) (t : Turns) (start : List Nat) (size : Nat) : Mixed where
  layout := ⟨width, false⟩
  start := start
  size := size
  constants := fun _ => ((primes rounds).map (fraction 3 width)).toArray
  mix := fun constants s block =>
    let l : Layout := ⟨width, false⟩
    let shifting (t : Nat × Nat × Nat) (w : Nat) : Nat := l.right t.1 w ^^^ l.right t.2.1 w ^^^ w >>> t.2.2
    let turning (t : Nat × Nat × Nat) (w : Nat) : Nat := l.right t.1 w ^^^ l.right t.2.1 w ^^^ l.right t.2.2 w
    let words := (List.range (rounds - 16)).foldl (fun (ws : Array Nat) i =>
      ws.push (l.add [shifting t.second (nth ws (i + 14)), nth ws (i + 9),
        shifting t.first (nth ws (i + 1)), nth ws i])) block
    (List.range rounds).foldl (fun s i =>
      match s with
      | [a, b, c, d, e, f, g, h] =>
        let x := l.add [h, turning t.fourth e, e &&& f ^^^ l.invert e &&& g, nth constants i, nth words i]
        let y := l.add [turning t.third a, a &&& b ^^^ a &&& c ^^^ b &&& c]
        [l.add [x, y], a, b, c, l.add [d, x], e, f, g]
      | _ => s) s

/-- The turns for words of 32 digits. -/
def narrowTurns : Turns := ⟨(7, 18, 3), (17, 19, 10), (2, 13, 22), (6, 11, 25)⟩

/-- The turns for words of 64 digits. -/
def wideTurns : Turns := ⟨(1, 8, 7), (19, 61, 6), (28, 34, 39), (14, 18, 41)⟩

/-- Digits of the square roots of some prime numbers. -/
def squares (width skipped : Nat) : List Nat := ((primes (skipped + 8)).drop skipped).map (fraction 2 width)

/-- The digest of 224 binary digits. -/
def long224 : Mixed := long 32 64 narrowTurns ((squares 64 8).map (· % Nat.pow 2 32)) 28

/-- The digest of 256 binary digits. -/
def long256 : Mixed := long 32 64 narrowTurns (squares 32 0) 32

/-- The digest of 384 binary digits. -/
def long384 : Mixed := long 64 80 wideTurns (squares 64 8) 48

/-- The digest of 512 binary digits. -/
def long512 : Mixed := long 64 80 wideTurns (squares 64 0) 64

/-- The remainder that a text and its size leave. -/
def remainder (text : List Nat) : Nat :=
  let step (r b : Nat) : Nat :=
    (List.range 8).foldl (fun r _ =>
      if r < Nat.pow 2 31 then 2 * r else (2 * r - Nat.pow 2 32) ^^^ 0x04c11db7) (r ^^^ b <<< 24)
  let n := text.length
  let size := ((List.range 8).map fun i => n / Nat.pow 256 i % 256).take ((Nat.toDigits 256 n).length)
  Nat.pow 2 32 - 1 - (text ++ if n = 0 then [] else size).foldl step 0

/-- The sum of the octets, turned at each of them. -/
def turnedSum (text : List Nat) : Nat :=
  text.foldl (fun s b => (s / 2 + s % 2 * 32768 + b) % 65536) 0

/-- The sum of the octets, with what does not fit added to it. -/
def plainSum (text : List Nat) : Nat :=
  let s := text.foldl (· + ·) 0
  let r := s % 65536 + s % Nat.pow 2 32 / 65536
  r % 65536 + r / 65536

end Digest
end Shell
end IconAssets
