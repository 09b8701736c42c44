/-!
White space in the sense of the Unicode property `White_Space`, and texts that hold nothing else.
-/
namespace StatusBoard.Text

/-- The twenty-five characters of the property `White_Space`. -/
def isBlank (c : Char) : Bool :=
  let n := c.toNat
  (0x9 ≤ n && n ≤ 0xd) || n == 0x20 || n == 0x85 || n == 0xa0 || n == 0x1680 ||
    (0x2000 ≤ n && n ≤ 0x200a) || n == 0x2028 || n == 0x2029 || n == 0x202f ||
    n == 0x205f || n == 0x3000

/-- Whether a text is empty or holds white space only. -/
def isBlankText (s : String) : Bool :=
  s.toList.all isBlank

end StatusBoard.Text
