/-!
Decompression of deflated data.

The data is a sequence of blocks. Bits are taken from each byte lowest first. A block holds plain
bytes, or symbols of two prefix codes: bytes and lengths in one, distances in the other. A length
with a distance stands for a part of what was written before.
-/

set_option autoImplicit false

namespace Linkage.Inflate

/-- Bytes that are read bit by bit. -/
structure BitSource where
  bytes : ByteArray
  /-- The number of bits that have been read. -/
  position : Nat

/-- Reads from bits, or fails. -/
abbrev BitReader := StateT BitSource Option

def bit : BitReader Nat := fun source =>
  (source.bytes[source.position / 8]?).map fun byte =>
    (byte.toNat >>> (source.position % 8) % 2, { source with position := source.position + 1 })

/-- A number of some bits, the lowest one first. -/
def number : Nat → BitReader Nat
  | 0 => pure 0
  | count + 1 => do
    let low ← bit
    pure (low + 2 * (← number count))

/-- Goes on to the next whole byte. -/
def align : BitReader Unit :=
  modify fun source => { source with position := (source.position + 7) / 8 * 8 }

/-- A prefix code in which shorter words come before longer ones, and words of the same length
follow the order of their symbols. -/
structure PrefixCode where
  /-- The number of words of length one, two and so on. -/
  counts : List Nat
  /-- The symbols in the order of their words. -/
  symbols : Array Nat

namespace PrefixCode

/-- The greatest length of a word. -/
def maxLength : Nat := 15

/-- The code in which each symbol has a word of the given length; zero means none. -/
def ofLengths (lengths : List Nat) : PrefixCode :=
  let withLength := fun length =>
    (lengths.zipIdx.filter fun (other, _) => other == length).map (·.2)
  let words := (List.range maxLength).map fun index => withLength (index + 1)
  ⟨words.map (·.length), words.flatten.toArray⟩

/-- Reads a symbol, where `word` has been read, `first` is the first word of its length and
`skipped` symbols have shorter words. -/
def symbolFrom (symbols : Array Nat) : List Nat → Nat → Nat → Nat → BitReader Nat
  | [], _, _, _ => failure
  | count :: counts, word, first, skipped => do
    let word := 2 * word + (← bit)
    let first := 2 * first
    if word < first + count then
      match symbols[skipped + (word - first)]? with
      | some symbol => pure symbol
      | none => failure
    else symbolFrom symbols counts word (first + count) (skipped + count)

def symbol (code : PrefixCode) : BitReader Nat := symbolFrom code.symbols code.counts 0 0 0

end PrefixCode

/-- The least values that the symbols for lengths stand for, with the numbers of bits to add. -/
def lengthTable : List (Nat × Nat) := [
  (3, 0), (4, 0), (5, 0), (6, 0), (7, 0), (8, 0), (9, 0), (10, 0), (11, 1), (13, 1), (15, 1),
  (17, 1), (19, 2), (23, 2), (27, 2), (31, 2), (35, 3), (43, 3), (51, 3), (59, 3), (67, 4), (83, 4),
  (99, 4), (115, 4), (131, 5), (163, 5), (195, 5), (227, 5), (258, 0)]

/-- The least values that the symbols for distances stand for, with the numbers of bits to add. -/
def distanceTable : List (Nat × Nat) := [
  (1, 0), (2, 0), (3, 0), (4, 0), (5, 1), (7, 1), (9, 2), (13, 2), (17, 3), (25, 3), (33, 4),
  (49, 4), (65, 5), (97, 5), (129, 6), (193, 6), (257, 7), (385, 7), (513, 8), (769, 8), (1025, 9),
  (1537, 9), (2049, 10), (3073, 10), (4097, 11), (6145, 11), (8193, 12), (12289, 12), (16385, 13),
  (24577, 13)]

/-- The value for a symbol of a table. -/
def tableValue (table : List (Nat × Nat)) (symbol : Nat) : BitReader Nat :=
  match table[symbol]? with
  | some (least, extra) => do pure (least + (← number extra))
  | none => failure

/-- Repeats bytes from some distance before the end. -/
def copy (distance : Nat) : Nat → ByteArray → Option ByteArray
  | 0, written => some written
  | count + 1, written =>
    if written.size < distance then none
    else
      match written[written.size - distance]? with
      | some byte => copy distance count (written.push byte)
      | none => none

/-- Writes what symbols stand for until the end of the block. At most `steps` symbols are read;
every symbol takes a bit. -/
def symbols (lengths distances : PrefixCode) : Nat → ByteArray → BitReader ByteArray
  | 0, _ => failure
  | steps + 1, written => do
    let symbol ← lengths.symbol
    if symbol < 256 then symbols lengths distances steps (written.push symbol.toUInt8)
    else if symbol = 256 then pure written
    else
      let count ← tableValue lengthTable (symbol - 257)
      let distance ← tableValue distanceTable (← distances.symbol)
      match copy distance count written with
      | some written => symbols lengths distances steps written
      | none => failure

/-- The codes of blocks that bring none of their own. -/
def fixedLengths : PrefixCode :=
  .ofLengths (List.replicate 144 8 ++ List.replicate 112 9 ++ List.replicate 24 7 ++
    List.replicate 8 8)

def fixedDistances : PrefixCode := .ofLengths (List.replicate 30 5)

/-- Where the lengths of the words for lengths stand. -/
def lengthOrder : List Nat := [16, 17, 18, 0, 8, 7, 9, 6, 10, 5, 11, 4, 12, 3, 13, 2, 14, 1, 15]

/-- Reads lengths of words until there are `count`; every step takes a bit. -/
def wordLengths (code : PrefixCode) (count : Nat) : Nat → List Nat → BitReader (List Nat)
  | 0, _ => failure
  | steps + 1, known =>
    if count ≤ known.length then
      if known.length = count then pure known else failure
    else do
      match ← code.symbol with
      | 16 =>
        match known.getLast? with
        | some length =>
          let times := 3 + (← number 2)
          wordLengths code count steps (known ++ List.replicate times length)
        | none => failure
      | 17 =>
        let times := 3 + (← number 3)
        wordLengths code count steps (known ++ List.replicate times 0)
      | 18 =>
        let times := 11 + (← number 7)
        wordLengths code count steps (known ++ List.replicate times 0)
      | length => wordLengths code count steps (known ++ [length])

/-- Reads the codes that a block brings. -/
def ownCodes : BitReader (PrefixCode × PrefixCode) := do
  let lengthCount := 257 + (← number 5)
  let distanceCount := 1 + (← number 5)
  let given := 4 + (← number 4)
  let orders ← (lengthOrder.take given).mapM fun place => do pure (place, ← number 3)
  let code := PrefixCode.ofLengths
    ((List.range lengthOrder.length).map fun place => (orders.lookup place).getD 0)
  let lengths ← wordLengths code (lengthCount + distanceCount) (lengthCount + distanceCount + 1) []
  pure (.ofLengths (lengths.take lengthCount), .ofLengths (lengths.drop lengthCount))

/-- Reads plain bytes. -/
def plainBytes : Nat → ByteArray → BitReader ByteArray
  | 0, written => pure written
  | count + 1, written => do plainBytes count (written.push (← number 8).toUInt8)

/-- Reads blocks up to the last one, at most `steps`; every block takes a bit. -/
def blocks : Nat → ByteArray → BitReader ByteArray
  | 0, _ => failure
  | steps + 1, written => do
    let isLast ← bit
    let size := 8 * (← get).bytes.size
    let written ← match ← number 2 with
      | 0 => do
        align
        let count ← number 16
        let _ ← number 16
        plainBytes count written
      | 1 => symbols fixedLengths fixedDistances size written
      | 2 => do
        let (lengths, distances) ← ownCodes
        symbols lengths distances size written
      | _ => failure
    if isLast = 1 then pure written else blocks steps written

/-- What deflated data stands for. -/
def decompress? (bytes : ByteArray) : Option ByteArray :=
  ((blocks (8 * bytes.size) .empty).run ⟨bytes, 0⟩).map (·.1)

end Linkage.Inflate
