/-!
# The BLAKE3 digest

The 256-bit digest of a list of bytes.  The bytes are cut into chunks of 1024, and each chunk into
blocks of 64.  A *chaining value* of eight words runs through the blocks of a chunk.  The chunks
are the leaves of a binary tree in which every left subtree is complete and as large as possible,
and a parent digests the chaining values of its two children.  The digest is what the root gives.

The work is done by `compress`: seven rounds of mixing on a state of four rows of four words, where
each round mixes the columns and then the diagonals.
-/

namespace SampleForge.Blake3

/-! ## Words, rows and blocks -/

/-- Four words. -/
structure Row where
  a : UInt32
  b : UInt32
  c : UInt32
  d : UInt32

namespace Row

/-- Two rows combined word by word. -/
def zip (f : UInt32 → UInt32 → UInt32) (x y : Row) : Row :=
  ⟨f x.a y.a, f x.b y.b, f x.c y.c, f x.d y.d⟩

/-- A row changed word by word. -/
def map (f : UInt32 → UInt32) (x : Row) : Row := ⟨f x.a, f x.b, f x.c, f x.d⟩

/-- A row with its words moved one place to the left. -/
def turn (x : Row) : Row := ⟨x.b, x.c, x.d, x.a⟩

/-- The words. -/
def toList (x : Row) : List UInt32 := [x.a, x.b, x.c, x.d]

end Row

/-- Sixteen words of a message, in rows. -/
structure Block where
  first : Row
  second : Row
  third : Row
  fourth : Row

/-- The words of a block in the order of the next round. -/
def Block.permute (m : Block) : Block :=
  ⟨⟨m.first.c, m.second.c, m.first.d, m.third.c⟩, ⟨m.second.d, m.first.a, m.second.a, m.fourth.b⟩,
    ⟨m.first.b, m.third.d, m.fourth.a, m.second.b⟩, ⟨m.third.b, m.fourth.c, m.fourth.d, m.third.a⟩⟩

/-- A chaining value. -/
structure Chain where
  low : Row
  high : Row

/-- The words that start every chaining value. -/
def start : Chain :=
  ⟨⟨0x6A09E667, 0xBB67AE85, 0x3C6EF372, 0xA54FF53A⟩,
    ⟨0x510E527F, 0x9B05688C, 0x1F83D9AB, 0x5BE0CD19⟩⟩

/-! ## Compression -/

/-- A word turned to the right. -/
def rotate (n : UInt32) (x : UInt32) : UInt32 := (x >>> n) ||| (x <<< (32 - n))

/-- The state of the mixing. -/
structure State where
  first : Row
  second : Row
  third : Row
  fourth : Row

/-- Mixes the four columns, each with two words of the message. -/
def State.mixColumns (s : State) (x y : Row) : State :=
  let a := (s.first.zip (· + ·) s.second).zip (· + ·) x
  let d := (s.fourth.zip (· ^^^ ·) a).map (rotate 16)
  let c := s.third.zip (· + ·) d
  let b := (s.second.zip (· ^^^ ·) c).map (rotate 12)
  let a := (a.zip (· + ·) b).zip (· + ·) y
  let d := (d.zip (· ^^^ ·) a).map (rotate 8)
  let c := c.zip (· + ·) d
  let b := (b.zip (· ^^^ ·) c).map (rotate 7)
  ⟨a, b, c, d⟩

/-- Turns the rows so that the diagonals become columns. -/
def State.slant (s : State) : State :=
  ⟨s.first, s.second.turn, s.third.turn.turn, s.fourth.turn.turn.turn⟩

/-- Turns the rows back. -/
def State.straighten (s : State) : State :=
  ⟨s.first, s.second.turn.turn.turn, s.third.turn.turn, s.fourth.turn⟩

/-- One round: the columns with the first half of the message, the diagonals with the second. -/
def State.mix (s : State) (m : Block) : State :=
  let s := s.mixColumns ⟨m.first.a, m.first.c, m.second.a, m.second.c⟩
    ⟨m.first.b, m.first.d, m.second.b, m.second.d⟩
  (s.slant.mixColumns ⟨m.third.a, m.third.c, m.fourth.a, m.fourth.c⟩
    ⟨m.third.b, m.third.d, m.fourth.b, m.fourth.d⟩).straighten

/-- Several rounds, the message permuted between them. -/
def State.rounds (s : State) (m : Block) : Nat → State
  | 0 => s
  | n + 1 => (s.mix m).rounds m.permute n

/-- What goes into one compression. -/
structure Input where
  /-- The chaining value before. -/
  chain : Chain
  /-- The message. -/
  block : Block
  /-- The number of the chunk, or zero for a parent. -/
  counter : Nat
  /-- The number of bytes in the message. -/
  length : Nat
  /-- The role of the message. -/
  flags : UInt32

/-- The chaining value after a message. -/
def compress (i : Input) : Chain :=
  let s := State.rounds
    ⟨i.chain.low, i.chain.high, start.low,
      ⟨UInt32.ofNat i.counter, UInt32.ofNat (i.counter >>> 32), UInt32.ofNat i.length, i.flags⟩⟩
    i.block 7
  ⟨s.first.zip (· ^^^ ·) s.third, s.second.zip (· ^^^ ·) s.fourth⟩

/-! ## Chunks and the tree -/

/-- The first block of a chunk. -/
def chunkStart : UInt32 := 1

/-- The last block of a chunk. -/
def chunkEnd : UInt32 := 2

/-- A parent. -/
def parent : UInt32 := 4

/-- The root. -/
def root : UInt32 := 8

/-- Four bytes as a word, the least significant first.  Missing bytes are zero. -/
def word (bytes : List UInt8) : UInt32 :=
  let byte (i : Nat) : UInt32 := (bytes.getD i 0).toUInt32
  byte 0 ||| (byte 1 <<< 8) ||| (byte 2 <<< 16) ||| (byte 3 <<< 24)

/-- Sixteen bytes as a row. -/
def row (bytes : List UInt8) : Row :=
  ⟨word (bytes.take 4), word ((bytes.drop 4).take 4), word ((bytes.drop 8).take 4),
    word ((bytes.drop 12).take 4)⟩

/-- At most 64 bytes as a block, filled up with zeros. -/
def block (bytes : List UInt8) : Block :=
  ⟨row (bytes.take 16), row ((bytes.drop 16).take 16), row ((bytes.drop 32).take 16),
    row ((bytes.drop 48).take 16)⟩

/-- The last compression of a chunk, after those of its earlier blocks. -/
def chunkInput (counter : Nat) (chain : Chain) (flags : UInt32) (bytes : List UInt8) : Input :=
  if _h : bytes.length ≤ 64 then ⟨chain, block bytes, counter, bytes.length, flags ||| chunkEnd⟩
  else
    chunkInput counter (compress ⟨chain, block (bytes.take 64), counter, 64, flags⟩) 0
      (bytes.drop 64)
termination_by bytes.length
decreasing_by
  simp only [List.length_drop]
  omega

/-- The last compression of a parent. -/
def parentInput (left right : Chain) : Input :=
  ⟨start, ⟨left.low, left.high, right.low, right.high⟩, 0, 64, parent⟩

/-- The number of bytes in the left subtree of more than one chunk: the greatest power of two of
chunks that leaves something over. -/
def leftLength (length : Nat) : Nat := 1024 <<< Nat.log2 ((length - 1) / 1024)

theorem leftLength_pos (length : Nat) : 0 < leftLength length := by
  rw [leftLength, Nat.shiftLeft_eq]
  exact Nat.mul_pos (by omega) (Nat.two_pow_pos _)

theorem leftLength_lt {length : Nat} (h : 1024 < length) : leftLength length < length := by
  have hne : (length - 1) / 1024 ≠ 0 := by omega
  have hle := Nat.log2_self_le hne
  rw [leftLength, Nat.shiftLeft_eq]
  omega

/-- The last compression of a subtree whose first chunk has the given number. -/
def treeInput (counter : Nat) (bytes : List UInt8) : Input :=
  if h : bytes.length ≤ 1024 then chunkInput counter start chunkStart bytes
  else
    let left := leftLength bytes.length
    parentInput (compress (treeInput counter (bytes.take left)))
      (compress (treeInput (counter + left / 1024) (bytes.drop left)))
termination_by bytes.length
decreasing_by
  · have hlt := leftLength_lt (Nat.lt_of_not_le h)
    simp only [List.length_take]
    omega
  · have hpos := leftLength_pos bytes.length
    simp only [List.length_drop]
    omega

/-- A word as four bytes, the least significant first. -/
def wordBytes (w : UInt32) : List UInt8 :=
  [w.toUInt8, (w >>> 8).toUInt8, (w >>> 16).toUInt8, (w >>> 24).toUInt8]

/-- The digest of a list of bytes, 32 bytes long. -/
def digest (bytes : List UInt8) : List UInt8 :=
  let input := treeInput 0 bytes
  let chain := compress { input with flags := input.flags ||| root }
  (chain.low.toList ++ chain.high.toList).flatMap wordBytes

section Tests

example : (digest []).take 4 = [0xAF, 0x13, 0x49, 0xB9] := by decide +kernel

end Tests

end SampleForge.Blake3
