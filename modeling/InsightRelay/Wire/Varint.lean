/-! Variable-length numbers: seven bits a byte from the low end, all bytes but the last marked. -/

namespace InsightRelay.Wire

/-- Bytes as they are sent. -/
abbrev Bytes := List UInt8

/-- The bytes of a number. -/
def writeVarint (value : Nat) : Bytes :=
  if value < 128 then [UInt8.ofNat value]
  else UInt8.ofNat (value % 128 + 128) :: writeVarint (value / 128)

/-- The number of bytes that a number takes. -/
def varintSize (value : Nat) : Nat :=
  if value < 128 then 1 else 1 + varintSize (value / 128)

/-- The number at the head of some bytes, when at most `count` bytes may be taken for it.

The last byte that may be taken holds a single bit. -/
def readVarintWithin : (count : Nat) → Bytes → Option (Nat × Bytes)
  | 0, _ => none
  | _ + 1, [] => none
  | count + 1, byte :: rest =>
    if byte.toNat < 128 then
      if count = 0 ∧ 2 ≤ byte.toNat then none else some (byte.toNat, rest)
    else do
      let (high, rest) ← readVarintWithin count rest
      some (byte.toNat - 128 + 128 * high, rest)

/-- The number of sixty-four bits at the head of some bytes. -/
def readVarint (bytes : Bytes) : Option (Nat × Bytes) :=
  readVarintWithin 10 bytes

/-- The size of a number is the number of bytes written for it. -/
theorem length_writeVarint (value : Nat) : (writeVarint value).length = varintSize value := by
  -- Both take one byte for every seven bits.
  fun_induction writeVarint value with
  | case1 value small => rw [varintSize, if_pos small]; rfl
  | case2 value large ih =>
    rw [varintSize, if_neg large, List.length_cons, ih]
    omega

end InsightRelay.Wire
