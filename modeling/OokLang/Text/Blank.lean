namespace OokLang.Text

/-- Whether a character lies in one of the ranges, given by their first and last code points. -/
def inRanges (ranges : List (Nat × Nat)) (c : Char) : Bool :=
  ranges.any fun range => decide (range.1 ≤ c.toNat ∧ c.toNat ≤ range.2)

/-- The code points with the Unicode property White_Space. -/
def blankRanges : List (Nat × Nat) :=
  [(0x20, 0x20), (0x9, 0xd), (0x85, 0x85), (0xa0, 0xa0), (0x1680, 0x1680), (0x2000, 0x200a),
    (0x2028, 0x2029), (0x202f, 0x202f), (0x205f, 0x205f), (0x3000, 0x3000)]

/-- White space, which may stand before, between and after tokens. -/
def isBlank (c : Char) : Bool :=
  inRanges blankRanges c

end OokLang.Text
