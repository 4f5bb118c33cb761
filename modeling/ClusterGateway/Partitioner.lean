/-!
# Choosing a partition

A keyed message goes to the partition that the murmur2 hash of its key selects: the hash
without its sign bit, modulo the number of partitions. The hash works on words of 32
bits: four bytes at a time, least byte first, then up to three left over.
-/

namespace ClusterGateway.Partitioner

/-- The seed that clients of the broker agree on. -/
def seed : UInt32 := 0x9747b28c

/-- The multiplier of the hash. -/
def multiplier : UInt32 := 0x5bd1e995

/-- A word of four bytes, least byte first. -/
def word (a b c d : UInt8) : UInt32 :=
  a.toUInt32 ||| (b.toUInt32 <<< 8) ||| (c.toUInt32 <<< 16) ||| (d.toUInt32 <<< 24)

/-- Spreads the bits of a word before it enters the hash. -/
def spread (value : UInt32) : UInt32 :=
  let scaled := value * multiplier
  (scaled ^^^ (scaled >>> 24)) * multiplier

/-- The hash after all whole words and the bytes left over. -/
def absorb (hash : UInt32) : List UInt8 → UInt32
  | a :: b :: c :: d :: rest => absorb ((hash * multiplier) ^^^ spread (word a b c d)) rest
  | [a, b, c] => (hash ^^^ word a b c 0) * multiplier
  | [a, b] => (hash ^^^ word a b 0 0) * multiplier
  | [a] => (hash ^^^ word a 0 0 0) * multiplier
  | [] => hash

/-- The last mixing of the hash. -/
def finish (hash : UInt32) : UInt32 :=
  let folded := (hash ^^^ (hash >>> 13)) * multiplier
  folded ^^^ (folded >>> 15)

/-- The murmur2 hash of a key. -/
def hash (key : List UInt8) : UInt32 :=
  finish (absorb (seed ^^^ UInt32.ofNat key.length) key)

/-- The hash without its sign bit. -/
def positiveHash (key : List UInt8) : Nat := (hash key &&& 0x7fffffff).toNat

/-- The partition of a key among a positive number of partitions. A message without a key
may go anywhere; here it goes to the first one. None when there is no partition. -/
def choose (key : Option (List UInt8)) (count : Int32) : Option Int32 :=
  if count ≤ 0 then none
  else
    match key with
    | some bytes => some (Int32.ofNat (positiveHash bytes % count.toInt.toNat))
    | none => some 0

/-- The text shown when there is no partition to choose from. -/
def noPartitionMessage : String := "partition_count must be positive"

end ClusterGateway.Partitioner
