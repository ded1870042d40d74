import AmountProofs.Bytes

/-!
The Keccak sponge with a 136-byte rate: the extendable-output function SHAKE256 and the fixed
256-bit hash SHA3-256.

The state is 25 lanes of 64 bits; lane `x + 5 * y` stands in column `x` of row `y`.
`shake256` gives any number of bytes and `sha3` gives one 32-byte word; both are functions of the
whole message, so a caller that feeds a message in parts keeps the concatenation.
-/

namespace AmountProofs.Keccak

/-- The 25 lanes of the permuted state. -/
abbrev Lanes := Vector UInt64 25

/-- The bytes that one block contributes to the state. -/
def rate : Nat := 136

/-- The lane in column `x` of row `y`, both counted modulo 5. -/
@[inline] def Lanes.lane (a : Lanes) (x y : Nat) : UInt64 :=
  a.get ⟨x % 5 + 5 * (y % 5), by omega⟩

/-- Cyclic shift towards the high bits. -/
@[inline] def rotateLeft (w : UInt64) (n : Nat) : UInt64 :=
  if n = 0 then w else w <<< UInt64.ofNat n ||| w >>> UInt64.ofNat (64 - n)

/-- How far the lane at each position is rotated. -/
def rotations : Vector Nat 25 :=
  #v[0, 1, 62, 28, 27,
     36, 44, 6, 55, 20,
     3, 10, 43, 25, 39,
     41, 45, 15, 21, 8,
     18, 2, 61, 56, 14]

/-- The constants that tell the 24 rounds apart. -/
def roundConstants : List UInt64 :=
  [0x0000000000000001, 0x0000000000008082, 0x800000000000808A, 0x8000000080008000,
   0x000000000000808B, 0x0000000080000001, 0x8000000080008081, 0x8000000000008009,
   0x000000000000008A, 0x0000000000000088, 0x0000000080008009, 0x000000008000000A,
   0x000000008000808B, 0x800000000000008B, 0x8000000000008089, 0x8000000000008003,
   0x8000000000008002, 0x8000000000000080, 0x000000000000800A, 0x800000008000000A,
   0x8000000080008081, 0x8000000000008080, 0x0000000080000001, 0x8000000080008008]

/-- Adds to every lane the parities of two neighbouring columns. -/
def mixColumns (a : Lanes) : Lanes :=
  let parity : Vector UInt64 5 := Vector.ofFn fun x =>
    a.lane x 0 ^^^ a.lane x 1 ^^^ a.lane x 2 ^^^ a.lane x 3 ^^^ a.lane x 4
  let effect : Vector UInt64 5 := Vector.ofFn fun x =>
    parity[(x.val + 4) % 5] ^^^ rotateLeft parity[(x.val + 1) % 5] 1
  Vector.ofFn fun i => a[i] ^^^ effect[i.val % 5]

/-- Rotates every lane by its own amount and moves it to its new place. -/
def scatter (a : Lanes) : Lanes :=
  Vector.ofFn fun i =>
    let column := i.val % 5
    let row := i.val / 5
    let source := (column + 3 * row) % 5 + 5 * column
    have inside : source < 25 := by have := i.isLt; omega
    rotateLeft a[source] rotations[source]

/-- The only nonlinear step: each lane is changed by the next two of its row. -/
def mixRows (a : Lanes) : Lanes :=
  Vector.ofFn fun i =>
    let column := i.val % 5
    let row := i.val / 5
    a[i] ^^^ (~~~ a.lane (column + 1) row &&& a.lane (column + 2) row)

def round (a : Lanes) (constant : UInt64) : Lanes :=
  let mixed := mixRows (scatter (mixColumns a))
  mixed.set 0 (mixed[0] ^^^ constant)

def permute (a : Lanes) : Lanes := roundConstants.foldl round a

/-- Adds a block to the state, eight bytes a lane. -/
def addBlock (a : Lanes) (block : Bytes) : Lanes :=
  let bytes := block.toArray
  Vector.ofFn fun i =>
    a[i] ^^^ UInt64.ofNat (Bytes.toNat (bytes.extract (8 * i.val) (8 * i.val + 8)).toList)

/-- A message with its closing bits: a byte that names the function, zeros, and a last bit. -/
def padded (suffix : UInt8) (message : Bytes) : Bytes :=
  let missing := rate - message.length % rate
  if missing = 1 then message ++ [suffix ||| 0x80]
  else message ++ suffix :: (List.replicate (missing - 2) 0 ++ [0x80])

/-- Feeds a padded message to the state block by block. -/
def absorb (a : Lanes) (message : Bytes) : Lanes :=
  if message.isEmpty then a
  else absorb (permute (addBlock a (message.take rate))) (message.drop rate)
termination_by message.length
decreasing_by
  have nonempty : 0 < message.length := by
    cases message with
    | nil => simp_all
    | cons => simp
  simp only [List.length_drop, rate]
  omega

/-- The bytes of the state, eight a lane. -/
def stateBytes (a : Lanes) : Bytes := a.toList.flatMap fun w => Bytes.ofNat 8 w.toNat

theorem length_stateBytes (a : Lanes) : (stateBytes a).length = 200 := by
  have eights : (fun w : UInt64 => (Bytes.ofNat 8 w.toNat).length) = fun _ => 8 := by
    funext w
    exact Bytes.length_ofNat 8 w.toNat
  rw [stateBytes, List.length_flatMap, eights, List.map_const', List.sum_replicate_nat]
  simp

/-- Reads `n` bytes off the state, permuting after each block. -/
def squeeze (a : Lanes) (n : Nat) : Bytes :=
  if n ≤ rate then (stateBytes a).take n
  else (stateBytes a).take rate ++ squeeze (permute a) (n - rate)
termination_by n
decreasing_by simp only [rate] at *; omega

theorem length_squeeze (a : Lanes) (n : Nat) : (squeeze a n).length = n := by
  fun_induction squeeze a n with
  | case1 a n h =>
    have := length_stateBytes a
    simp only [rate] at h
    simp only [List.length_take]
    omega
  | case2 a n h ih =>
    have := length_stateBytes a
    simp only [rate] at h ih ⊢
    simp only [List.length_append, List.length_take, ih]
    omega

/-- The sponge: absorb the padded message, then read `n` bytes. -/
def sponge (suffix : UInt8) (message : Bytes) (n : Nat) : Vector UInt8 n :=
  ⟨(squeeze (absorb (Vector.replicate 25 0) (padded suffix message)) n).toArray, by
    simp only [List.size_toArray, length_squeeze]⟩

/-- The extendable-output function SHAKE256. -/
def shake256 (message : Bytes) (n : Nat) : Vector UInt8 n := sponge 0x1F message n

/-- The hash SHA3-256, as a 32-byte word. -/
def sha3 (message : Bytes) : Word := Word.ofBytes (sponge 0x06 message 32).toList

end AmountProofs.Keccak
