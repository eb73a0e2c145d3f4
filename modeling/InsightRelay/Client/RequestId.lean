/-! Request numbers: random universally unique identifiers, of version four. -/

namespace InsightRelay

/-- One hundred and twenty-eight bits that name a request. -/
structure RequestId where
  high : UInt64
  low : UInt64
deriving DecidableEq, Repr

namespace RequestId

/-- The number made of random bits: six of them give way to the version and the variant. -/
def ofRandom (high low : UInt64) : RequestId where
  high := (high &&& 0xFFFFFFFFFFFF0FFF) ||| 0x4000
  low := (low &&& 0x3FFFFFFFFFFFFFFF) ||| 0x8000000000000000

/-- The lowest hexadecimal digits of a value, of a given count. -/
def hexDigits (value : Nat) : (count : Nat) → List Char
  | 0 => []
  | count + 1 => hexDigits (value / 16) count ++ [Nat.digitChar (value % 16)]

/-- The number as text, in groups of hexadecimal digits. -/
def text (id : RequestId) : String :=
  let high := hexDigits id.high.toNat 16
  let low := hexDigits id.low.toNat 16
  String.ofList (high.take 8 ++ '-' :: (high.drop 8).take 4 ++ '-' :: high.drop 12 ++
    '-' :: low.take 4 ++ '-' :: low.drop 4)

end RequestId

/-- The version is the first digit of the third group, and the variant is in that of the fourth. -/
example : (RequestId.ofRandom 0 0).text = "00000000-0000-4000-8000-000000000000" ∧
    (RequestId.ofRandom 0x0123456789ABCDEF 0xFEDCBA9876543210).text =
      "01234567-89ab-4def-bedc-ba9876543210" := by decide +kernel

end InsightRelay
