/-!
# Blank text

White space is what the Unicode property `White_Space` says, so a text is blank exactly when it
has no visible and no invisible character outside that property: a zero-width space, a byte order
mark or a control such as U+001C makes a text non-blank.
-/

namespace FilterGateway.Text

/-- The code points with the property `White_Space`. -/
def isSpaceChar (c : Char) : Bool :=
  let n := c.toNat
  (0x9 ≤ n && n ≤ 0xd) || n == 0x20 || n == 0x85 || n == 0xa0 || n == 0x1680 ||
    (0x2000 ≤ n && n ≤ 0x200a) || n == 0x2028 || n == 0x2029 || n == 0x202f || n == 0x205f ||
    n == 0x3000

/-- Whether every character of `s` is white space. -/
def isBlank (s : String) : Bool :=
  s.toList.all isSpaceChar

theorem isBlank_iff (s : String) : isBlank s = true ↔ ∀ c ∈ s.toList, isSpaceChar c = true := by
  simp [isBlank]

end FilterGateway.Text
