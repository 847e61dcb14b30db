import AddressBook.Bytes

namespace AddressBook.Blake2b

/-- The eight words carried from block to block. -/
abbrev Chain := Vector UInt64 8

abbrev Words := Vector UInt64 16

def initial : Chain :=
  #v[0x6a09e667f3bcc908, 0xbb67ae8584caa73b, 0x3c6ef372fe94f82b, 0xa54ff53a5f1d36f1,
    0x510e527fade682d1, 0x9b05688c2b3e6c1f, 0x1f83d9abfb41bd6b, 0x5be0cd19137e2179]

/-- In which order each of the first ten rounds takes the words of the block. -/
def schedules : List (Vector (Fin 16) 16) :=
  [#v[0, 1, 2, 3, 4, 5, 6, 7, 8, 9, 10, 11, 12, 13, 14, 15],
   #v[14, 10, 4, 8, 9, 15, 13, 6, 1, 12, 0, 2, 11, 7, 5, 3],
   #v[11, 8, 12, 0, 5, 2, 15, 13, 10, 14, 3, 6, 7, 1, 9, 4],
   #v[7, 9, 3, 1, 13, 12, 11, 14, 2, 6, 5, 10, 4, 0, 15, 8],
   #v[9, 0, 5, 7, 2, 4, 10, 15, 14, 1, 11, 12, 6, 8, 3, 13],
   #v[2, 12, 6, 10, 0, 11, 8, 3, 4, 13, 7, 5, 15, 14, 1, 9],
   #v[12, 5, 1, 15, 14, 13, 4, 10, 0, 7, 6, 3, 9, 2, 8, 11],
   #v[13, 11, 7, 14, 12, 1, 3, 9, 5, 0, 15, 4, 8, 6, 2, 10],
   #v[6, 15, 14, 9, 11, 3, 0, 8, 12, 2, 13, 7, 1, 4, 10, 5],
   #v[10, 2, 8, 4, 7, 6, 1, 5, 15, 11, 9, 14, 3, 12, 13, 0]]

/-- Twelve rounds: the ten schedules, then the first two again. -/
def rounds : List (Vector (Fin 16) 16) := schedules ++ schedules.take 2

def rotateRight (word : UInt64) (amount : UInt64) : UInt64 :=
  (word >>> amount) ||| (word <<< (64 - amount))

def mix (x y : UInt64) (a b c d : Fin 16) (state : Words) : Words :=
  let va := state[a] + state[b] + x
  let vd := rotateRight (state[d] ^^^ va) 32
  let vc := state[c] + vd
  let vb := rotateRight (state[b] ^^^ vc) 24
  let va := va + vb + y
  let vd := rotateRight (vd ^^^ va) 16
  let vc := vc + vd
  let vb := rotateRight (vb ^^^ vc) 63
  (((state.set a va).set b vb).set c vc).set d vd

def round (block state : Words) (order : Vector (Fin 16) 16) : Words :=
  let word (i : Fin 16) := block[order[i]]
  state
    |> mix (word 0) (word 1) 0 4 8 12
    |> mix (word 2) (word 3) 1 5 9 13
    |> mix (word 4) (word 5) 2 6 10 14
    |> mix (word 6) (word 7) 3 7 11 15
    |> mix (word 8) (word 9) 0 5 10 15
    |> mix (word 10) (word 11) 1 6 11 12
    |> mix (word 12) (word 13) 2 7 8 13
    |> mix (word 14) (word 15) 3 4 9 14

/-- Absorbs one block, `taken` bytes of the message having been taken with it. -/
def compress (chain : Chain) (block : Words) (taken : Nat) (last : Bool) : Chain :=
  let start := chain ++ initial
  let start := start.set 12 (start[12] ^^^ UInt64.ofNat taken)
  let start := start.set 13 (start[13] ^^^ UInt64.ofNat (taken / 0x10000000000000000))
  let start := if last then start.set 14 (start[14] ^^^ 0xffffffffffffffff) else start
  let mixed := rounds.foldl (round block) start
  Vector.ofFn fun i : Fin 8 => chain[i] ^^^ mixed[i.val] ^^^ mixed[i.val + 8]

def blockWords (bytes : Bytes) : Words :=
  Vector.ofFn fun i : Fin 16 => UInt64.ofNat (Bytes.littleEndian ((bytes.drop (8 * i)).take 8))

def absorb (chain : Chain) (taken : Nat) (bytes : Bytes) : Chain :=
  if bytes.length ≤ 128 then
    compress chain (blockWords bytes) (taken + bytes.length) true
  else
    absorb (compress chain (blockWords (bytes.take 128)) (taken + 128) false) (taken + 128)
      (bytes.drop 128)
termination_by bytes.length
decreasing_by simp only [List.length_drop]; omega

theorem absorb_of_length_le (chain : Chain) (taken : Nat) {bytes : Bytes}
    (short : bytes.length ≤ 128) :
    absorb chain taken bytes = compress chain (blockWords bytes) (taken + bytes.length) true := by
  rw [absorb, if_pos short]

/-- The 64-byte digest of a message. The first word carries the digest length and the tree shape. -/
def digest (message : Bytes) : Bytes :=
  let chain := absorb (initial.set 0 (initial[0] ^^^ 0x01010040)) 0 message
  chain.toList.flatMap fun word => Bytes.ofLittleEndian 8 word.toNat

theorem length_digest (message : Bytes) : (digest message).length = 64 := by
  simp [digest, List.length_flatMap, Bytes.length_ofLittleEndian, List.map_const']

end AddressBook.Blake2b
