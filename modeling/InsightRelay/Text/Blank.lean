/-! Blank text: the characters that Unicode calls white space, and the texts that hold nothing else. -/

namespace InsightRelay

/-- The code points with the Unicode property White_Space, as closed ranges in ascending order. -/
def blankRanges : List (Nat × Nat) :=
  [(0x09, 0x0D), (0x20, 0x20), (0x85, 0x85), (0xA0, 0xA0), (0x1680, 0x1680), (0x2000, 0x200A),
    (0x2028, 0x2029), (0x202F, 0x202F), (0x205F, 0x205F), (0x3000, 0x3000)]

/-- Whether a code point lies in one of the given closed ranges. -/
def inRanges (ranges : List (Nat × Nat)) (point : Nat) : Bool :=
  ranges.any fun range => range.1 ≤ point && point ≤ range.2

/-- Whether a character is white space. -/
def isBlankChar (char : Char) : Bool :=
  inRanges blankRanges char.toNat

/-- Whether a text is empty once the white space around it is taken away. -/
def isBlankText (text : String) : Bool :=
  text.toList.all isBlankChar

/-- Twenty-five characters are white space. -/
example : (blankRanges.map fun range => range.2 + 1 - range.1).sum = 25 := by decide

end InsightRelay
