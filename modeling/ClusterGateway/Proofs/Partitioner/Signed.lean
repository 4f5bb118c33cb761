import Mathlib.Algebra.Group.Nat.Defs
import ClusterGateway.Partitioner

/-!
# Partitions in signed arithmetic

Clients without unsigned numbers hash a key in signed words of 32 bits: they walk over the
blocks of four bytes by their index, add up the bytes of a block, and mix up to three left
over bytes in from the last to the first. Word by word both hashes have the same bits, so a
key has the same partition for all clients. Main statement: `choose_signed`; it also says that
the partitions for a divisor of a count are those for the count, modulo the divisor.
-/

namespace ClusterGateway.Partitioner

namespace Signed

/-- The seed, as a signed word. -/
def seed : Int32 := -1756908916

/-- The multiplier, as a signed word. -/
def multiplier : Int32 := 0x5bd1e995

/-- A signed byte widened to a word; the mask takes the sign away that widening spreads. -/
def octet (byte : Int8) : Int32 := byte.toInt32 &&& 0xff

/-- The byte at an index, widened. -/
def byteAt (bytes : List Int8) (index : Nat) : Int32 := octet (bytes.getD index 0)

/-- A shift to the right that fills up with zeros, whatever the sign. -/
def shiftRight (value : Int32) (distance : UInt32) : Int32 := (value.toUInt32 >>> distance).toInt32

/-- The block of four bytes from an index on, the least byte first. -/
def block (bytes : List Int8) (start : Nat) : Int32 :=
  byteAt bytes start + (byteAt bytes (start + 1) <<< 8) + (byteAt bytes (start + 2) <<< 16) +
    (byteAt bytes (start + 3) <<< 24)

/-- A block enters the hash. -/
def mix (hash value : Int32) : Int32 :=
  let scaled := value * multiplier
  (hash * multiplier) ^^^ ((scaled ^^^ shiftRight scaled 24) * multiplier)

/-- The hash after all whole blocks. -/
def blocks (bytes : List Int8) (hash : Int32) : Int32 :=
  (List.range (bytes.length / 4)).foldl (fun hash index => mix hash (block bytes (4 * index))) hash

/-- The hash after the bytes left over, from the third to the first. -/
def remainder (bytes : List Int8) (hash : Int32) : Int32 :=
  let start := 4 * (bytes.length / 4)
  let left := bytes.length % 4
  let hash := if 3 ≤ left then hash ^^^ (byteAt bytes (start + 2) <<< 16) else hash
  let hash := if 2 ≤ left then hash ^^^ (byteAt bytes (start + 1) <<< 8) else hash
  if 1 ≤ left then (hash ^^^ byteAt bytes start) * multiplier else hash

/-- The murmur2 hash of a key of signed bytes. -/
def hash (bytes : List Int8) : Int32 :=
  let mixed := remainder bytes (blocks bytes (seed ^^^ Int32.ofNat bytes.length))
  let folded := (mixed ^^^ shiftRight mixed 13) * multiplier
  folded ^^^ shiftRight folded 15

/-- A number without its sign bit. -/
def toPositive (number : Int32) : Int32 := number &&& 0x7fffffff

/-- The partition of a key; the remainder has the sign of the hash, which has none. -/
def partition (bytes : List Int8) (count : Int32) : Int32 := toPositive (hash bytes) % count

end Signed

variable {low : UInt32} {key : List UInt8} {count : Int32}

/-- Words that have no bit in common have the same union and exclusive union. -/
theorem or_eq_xor {first second : UInt32} (apart : first &&& second = 0) :
    first ||| second = first ^^^ second := by
  apply UInt32.toBitVec_inj.mp
  have apart : first.toBitVec &&& second.toBitVec = 0#32 := congrArg UInt32.toBitVec apart
  rw [UInt32.toBitVec_or, UInt32.toBitVec_xor]
  apply BitVec.eq_of_getLsbD_eq
  intro index _
  have off := congrArg (fun bits => bits.getLsbD index) apart
  simp only [BitVec.getLsbD_and, BitVec.getLsbD_zero] at off
  rw [BitVec.getLsbD_or, BitVec.getLsbD_xor]
  cases left : first.toBitVec.getLsbD index <;> cases right : second.toBitVec.getLsbD index <;>
    simp_all

/-- A byte has no bit in common with what is below the place that it is shifted to. -/
theorem and_lane (distance : UInt32) (byte : UInt8) (inside : distance.toNat < 32)
    (below : low.toNat < 2 ^ distance.toNat) : low &&& (byte.toUInt32 <<< distance) = 0 := by
  apply UInt32.toBitVec_inj.mp
  have place : (distance.toBitVec % 32).toNat = distance.toNat := Nat.mod_eq_of_lt inside
  rw [UInt32.toBitVec_and, UInt32.toBitVec_shiftLeft, BitVec.shiftLeft_eq', place]
  apply BitVec.eq_of_getLsbD_eq
  intro index _
  rw [BitVec.getLsbD_and, BitVec.getLsbD_shiftLeft]
  by_cases early : index < distance.toNat
  · simp [early]
  · have power : 2 ^ distance.toNat ≤ 2 ^ index := Nat.pow_le_pow_right (by decide) (by omega)
    have off : low.toBitVec.getLsbD index = false :=
      Nat.testBit_lt_two_pow (Nat.lt_of_lt_of_le below power)
    simp [off]

/-- A byte that joins a word above its bits is added to it. -/
theorem or_lane_eq_add (distance : UInt32) (byte : UInt8) (inside : distance.toNat < 32)
    (below : low.toNat < 2 ^ distance.toNat) :
    low ||| (byte.toUInt32 <<< distance) = low + (byte.toUInt32 <<< distance) := by
  apply UInt32.toBitVec_inj.mp
  have apart := congrArg UInt32.toBitVec (and_lane distance byte inside below)
  rw [UInt32.toBitVec_or, UInt32.toBitVec_add]
  exact (BitVec.add_eq_or_of_and_eq_zero _ _ apart).symm

/-- A byte that joins a word above its bits keeps the word below the next place. -/
theorem or_lane_lt (distance : UInt32) (byte : UInt8) (inside : distance.toNat ≤ 24)
    (below : low.toNat < 2 ^ distance.toNat) :
    (low ||| (byte.toUInt32 <<< distance)).toNat < 2 ^ (distance.toNat + 8) := by
  have small := byte.toNat_lt
  have shifted : byte.toNat <<< distance.toNat < 2 ^ (distance.toNat + 8) := by
    rw [Nat.shiftLeft_eq, Nat.add_comm, Nat.pow_add]
    exact Nat.mul_lt_mul_of_pos_right small (Nat.two_pow_pos _)
  have place : distance.toNat % 32 = distance.toNat := Nat.mod_eq_of_lt (by omega)
  rw [UInt32.toNat_or, UInt32.toNat_shiftLeft, UInt8.toNat_toUInt32, place]
  refine Nat.or_lt_two_pow ?_ ?_
  · exact Nat.lt_of_lt_of_le below (Nat.pow_le_pow_right (by decide) (by omega))
  · exact Nat.lt_of_le_of_lt (Nat.mod_le _ _) shifted

/-- What is below the second, the third and the fourth byte of a word. -/
theorem word_bounds (a b c : UInt8) : a.toUInt32.toNat < 2 ^ 8 ∧
    (a.toUInt32 ||| (b.toUInt32 <<< 8)).toNat < 2 ^ 16 ∧
      (a.toUInt32 ||| (b.toUInt32 <<< 8) ||| (c.toUInt32 <<< 16)).toNat < 2 ^ 24 := by
  have first : a.toUInt32.toNat < 2 ^ 8 := a.toNat_lt
  have second := or_lane_lt 8 b (by decide) first
  exact ⟨first, second, or_lane_lt 16 c (by decide) second⟩

/-- The bytes of a word may be added up. -/
theorem word_eq_add (a b c d : UInt8) : word a b c d =
    a.toUInt32 + (b.toUInt32 <<< 8) + (c.toUInt32 <<< 16) + (d.toUInt32 <<< 24) := by
  obtain ⟨first, second, third⟩ := word_bounds a b c
  rw [word, or_lane_eq_add 24 d (by decide) third,
    or_lane_eq_add 16 c (by decide) second,
    or_lane_eq_add 8 b (by decide) first]

/-- The bytes of a word may be mixed in one by one, the last one first. -/
theorem xor_word (hash : UInt32) (a b c : UInt8) : hash ^^^ word a b c 0 =
    hash ^^^ (c.toUInt32 <<< 16) ^^^ (b.toUInt32 <<< 8) ^^^ a.toUInt32 := by
  obtain ⟨first, second, -⟩ := word_bounds a b c
  have nothing : (0 : UInt8).toUInt32 <<< (24 : UInt32) = 0 := by decide
  rw [word, nothing, UInt32.or_zero,
    or_eq_xor (and_lane 16 c (by decide) second),
    or_eq_xor (and_lane 8 b (by decide) first),
    UInt32.xor_comm (_ ^^^ _) (c.toUInt32 <<< 16), UInt32.xor_comm a.toUInt32, ← UInt32.xor_assoc,
    ← UInt32.xor_assoc]

namespace Signed

/-- A byte is the same number whether it was signed or not. -/
theorem octet_toInt8 (byte : UInt8) : octet byte.toInt8 = byte.toUInt32.toInt32 := by
  have all : ∀ bits : BitVec 8, bits.signExtend 32 &&& 0xff#32 = bits.setWidth 32 := by
    decide +kernel
  apply Int32.toBitVec_inj.mp
  simpa [octet] using all byte.toBitVec

/-- The shift that fills up with zeros is that of the unsigned word. -/
theorem shiftRight_toInt32 (value distance : UInt32) :
    shiftRight value.toInt32 distance = (value >>> distance).toInt32 := by
  rw [shiftRight, UInt32.toUInt32_toInt32]

/-- A block is the word of its bytes. -/
theorem block_toInt8 (a b c d : UInt8) (rest : List UInt8) :
    block ((a :: b :: c :: d :: rest).map UInt8.toInt8) 0 = (word a b c d).toInt32 := by
  have shift (byte : UInt8) : (byte.toUInt32 <<< 8).toInt32 = byte.toUInt32.toInt32 <<< 8 ∧
      (byte.toUInt32 <<< 16).toInt32 = byte.toUInt32.toInt32 <<< 16 ∧
        (byte.toUInt32 <<< 24).toInt32 = byte.toUInt32.toInt32 <<< 24 := ⟨rfl, rfl, rfl⟩
  rw [word_eq_add]
  simp only [UInt32.toInt32_add, shift, ← octet_toInt8]
  rfl

/-- A word enters both hashes alike. -/
theorem mix_toInt32 (hash value : UInt32) : mix hash.toInt32 value.toInt32 =
    ((hash * Partitioner.multiplier) ^^^ spread value).toInt32 := by
  have same : multiplier = Partitioner.multiplier.toInt32 := by decide
  simp only [mix, spread, same, ← UInt32.toInt32_mul, shiftRight_toInt32, ← UInt32.toInt32_xor]

/-- The first block enters the hash, and then those of the rest. -/
theorem blocks_cons (a b c d : Int8) (rest : List Int8) (hash : Int32) :
    blocks (a :: b :: c :: d :: rest) hash =
      blocks rest (mix hash (block (a :: b :: c :: d :: rest) 0)) := by
  have more : (a :: b :: c :: d :: rest).length / 4 = rest.length / 4 + 1 :=
    Nat.add_div_right rest.length (by decide : 0 < 4)
  rw [blocks, more, List.range_succ_eq_map, List.foldl_cons, List.foldl_map]
  -- a block after the first one is a block of the rest, byte for byte
  rfl

/-- What is left over of a key is left over of its rest. -/
theorem remainder_cons (a b c d : Int8) (rest : List Int8) (hash : Int32) :
    remainder (a :: b :: c :: d :: rest) hash = remainder rest hash := by
  have more : (a :: b :: c :: d :: rest).length / 4 = rest.length / 4 + 1 :=
    Nat.add_div_right rest.length (by decide : 0 < 4)
  have same : (a :: b :: c :: d :: rest).length % 4 = rest.length % 4 :=
    Nat.add_mod_right rest.length 4
  have start : 4 * (rest.length / 4 + 1) = 4 * (rest.length / 4) + 4 := rfl
  simp only [remainder, more, same, start]
  rfl

/-- Both hashes go through a key alike. -/
theorem remainder_blocks (hash : UInt32) (key : List UInt8) :
    remainder (key.map UInt8.toInt8) (blocks (key.map UInt8.toInt8) hash.toInt32) =
      (absorb hash key).toInt32 := by
  have same : multiplier = Partitioner.multiplier.toInt32 := by decide
  fun_induction absorb hash key with
  | case1 hash a b c d rest ih =>
    have first := block_toInt8 a b c d rest
    rw [List.map_cons, List.map_cons, List.map_cons, List.map_cons] at first ⊢
    rw [remainder_cons, blocks_cons, first, mix_toInt32, ih]
  | case2 hash a b c =>
    have left : remainder [a.toInt8, b.toInt8, c.toInt8] (blocks [a.toInt8, b.toInt8, c.toInt8]
        hash.toInt32) = (hash.toInt32 ^^^ (octet c.toInt8 <<< 16) ^^^ (octet b.toInt8 <<< 8) ^^^
          octet a.toInt8) * multiplier := by
      simp [remainder, blocks, byteAt]
    rw [List.map_cons, List.map_cons, List.map_cons, List.map_nil, left, xor_word, same,
      UInt32.toInt32_mul, UInt32.toInt32_xor, UInt32.toInt32_xor, UInt32.toInt32_xor, octet_toInt8,
      octet_toInt8, octet_toInt8]
    rfl
  | case3 hash a b =>
    have nothing : hash ^^^ ((0 : UInt8).toUInt32 <<< 16) = hash := by simp
    have left : remainder [a.toInt8, b.toInt8] (blocks [a.toInt8, b.toInt8] hash.toInt32) =
        (hash.toInt32 ^^^ (octet b.toInt8 <<< 8) ^^^ octet a.toInt8) * multiplier := by
      simp [remainder, blocks, byteAt]
    rw [List.map_cons, List.map_cons, List.map_nil, left, xor_word, nothing, same,
      UInt32.toInt32_mul, UInt32.toInt32_xor, UInt32.toInt32_xor, octet_toInt8, octet_toInt8]
    rfl
  | case4 hash a =>
    have nothing : hash ^^^ ((0 : UInt8).toUInt32 <<< 16) ^^^ ((0 : UInt8).toUInt32 <<< 8) =
        hash := by
      simp
    have left : remainder [a.toInt8] (blocks [a.toInt8] hash.toInt32) =
        (hash.toInt32 ^^^ octet a.toInt8) * multiplier := by
      simp [remainder, blocks, byteAt]
    rw [List.map_cons, List.map_nil, left, xor_word, nothing, same, UInt32.toInt32_mul,
      UInt32.toInt32_xor, octet_toInt8]
  | case5 hash => rfl

/-- Both hashes have the same bits. -/
theorem hash_toInt8 (key : List UInt8) :
    hash (key.map UInt8.toInt8) = (Partitioner.hash key).toInt32 := by
  have same : multiplier = Partitioner.multiplier.toInt32 := by decide
  have start : seed ^^^ Int32.ofNat (key.map UInt8.toInt8).length =
      (Partitioner.seed ^^^ UInt32.ofNat key.length).toInt32 := by
    rw [List.length_map, UInt32.toInt32_xor, UInt32.toInt32_ofNat']
    rfl
  simp only [hash, Partitioner.hash, finish, start, remainder_blocks, same, shiftRight_toInt32,
    ← UInt32.toInt32_xor, ← UInt32.toInt32_mul]

example : hash [50, 49] = -973932308 := by decide +kernel

/-- Without its sign bit the hash is the same number in both. -/
theorem toInt_toPositive (key : List UInt8) :
    (toPositive (hash (key.map UInt8.toInt8))).toInt = positiveHash key := by
  have small : positiveHash key < 2 ^ 31 := by
    rw [positiveHash, UInt32.toNat_and]
    exact Nat.lt_of_le_of_lt Nat.and_le_right (by decide)
  have same : toPositive (Partitioner.hash key).toInt32 = Int32.ofNat (positiveHash key) := by
    rw [← UInt32.toInt32_ofNat', positiveHash, UInt32.ofNat_toNat, UInt32.toInt32_and]
    rfl
  rw [hash_toInt8, same, Int32.toInt_ofNat_of_lt small]

end Signed

/-- The partition of a key is the remainder of its positive hash, as whole numbers. -/
theorem choose_eq_some (key : List UInt8) (positive : 0 < count) : ∃ partition,
    choose (some key) count = some partition ∧
      partition.toInt = (positiveHash key : Int) % count.toInt := by
  have above : 0 < count.toInt := Int32.lt_iff_toInt_lt.mp positive
  have below : count.toInt < 2 ^ 31 := Int32.toInt_lt count
  have counted : (count.toInt.toNat : Int) = count.toInt := Int.toNat_of_nonneg (Int.le_of_lt above)
  have less : positiveHash key % count.toInt.toNat < count.toInt.toNat :=
    Nat.mod_lt _ (by omega)
  refine ⟨Int32.ofNat (positiveHash key % count.toInt.toNat), ?_, ?_⟩
  · rw [choose, if_neg (Int32.not_le.mpr positive)]
  · rw [Int32.toInt_ofNat_of_lt (by omega), Int.natCast_emod, counted]

/-- The partition of a key lies among the partitions and is the one that clients find who hash
in signed words, and the partition for a divisor of the count is its remainder. No step leaves
the range of the words: as a whole number it is the remainder of the positive hash. -/
theorem choose_signed (key : List UInt8) (positive : 0 < count) : ∃ partition,
    choose (some key) count = some partition ∧ 0 ≤ partition ∧ partition < count ∧
      partition.toInt = (positiveHash key : Int) % count.toInt ∧
      partition = Signed.partition (key.map UInt8.toInt8) count ∧
      ∀ fewer : Int32, 0 < fewer → fewer.toInt ∣ count.toInt →
        choose (some key) fewer = some (partition % fewer) := by
  obtain ⟨partition, chosen, exactly⟩ := choose_eq_some key positive
  have above : 0 < count.toInt := Int32.lt_iff_toInt_lt.mp positive
  have low : 0 ≤ partition.toInt := exactly ▸ Int.emod_nonneg _ (Int.ne_of_gt above)
  refine ⟨partition, chosen, Int32.le_iff_toInt_le.mpr low, ?_, exactly, ?_, ?_⟩
  · rw [Int32.lt_iff_toInt_lt, exactly]
    exact Int.emod_lt_of_pos _ above
  · apply Int32.toInt_inj.mp
    rw [exactly, Signed.partition, Int32.toInt_mod, Signed.toInt_toPositive]
    exact (Int.tmod_eq_emod_of_nonneg (Int.natCast_nonneg _)).symm
  · intro fewer some_ divides
    obtain ⟨other, found, also⟩ := choose_eq_some key some_
    rw [found]
    congr 1
    apply Int32.toInt_inj.mp
    rw [Int32.toInt_mod, Int.tmod_eq_emod_of_nonneg low, exactly, also,
      Int.emod_emod_of_dvd _ divides]

/-- A key of seven bytes, most of them above 127, with a hash of more than 31 bits: of twelve
partitions it gets the one that signed words lead to, and of four the remainder of that. -/
theorem choose_signed_sevenBytes : (0 : Int32) < 12 ∧
    choose (some [200, 129, 7, 255, 133, 9, 254]) 12 = some 7 ∧
      Signed.partition [-56, -127, 7, -1, -123, 9, -2] 12 = 7 ∧
        choose (some [200, 129, 7, 255, 133, 9, 254]) 4 = some 3 := by
  obtain ⟨partition, chosen, -, -, -, signed, divisor⟩ :=
    choose_signed [200, 129, 7, 255, 133, 9, 254] (show (0 : Int32) < 12 by decide)
  have seventh : choose (some [200, 129, 7, 255, 133, 9, 254]) 12 = some 7 := by decide +kernel
  obtain rfl := Option.some.inj (seventh.symm.trans chosen)
  exact ⟨by decide, seventh, signed.symm, divisor 4 (by decide) (by decide)⟩

end ClusterGateway.Partitioner
