/-!
# Blank characters

Two sets of characters count as blank. `isWhiteSpace` is the Unicode property
`White_Space`; `isBlank` adds the four information separators. `trim` cuts the
characters of such a set off both ends of a text.

## Main definitions

* `Text.isWhiteSpace`, `Text.isBlank`: the two sets.
* `Text.trimBoth`, `Text.trim`, `Text.trimBlank`: a text without the blanks around it.
-/

namespace ChatRecords
namespace Text

def isWhiteSpace (c : Char) : Bool :=
  let n := c.toNat
  (0x09 ≤ n && n ≤ 0x0D) || n == 0x20 || n == 0x85 || n == 0xA0 || n == 0x1680 ||
    (0x2000 ≤ n && n ≤ 0x200A) || n == 0x2028 || n == 0x2029 || n == 0x202F ||
    n == 0x205F || n == 0x3000

/-- White space, or one of the information separators U+001C to U+001F. -/
def isBlank (c : Char) : Bool :=
  isWhiteSpace c || (0x1C ≤ c.toNat && c.toNat ≤ 0x1F)

theorem isBlank_of_isWhiteSpace {c : Char} (h : isWhiteSpace c = true) : isBlank c = true := by
  simp [isBlank, h]

/-- The text without its leading and trailing characters in `p`. -/
def trimBoth (p : Char → Bool) (cs : List Char) : List Char :=
  ((cs.dropWhile p).reverse.dropWhile p).reverse

/-- The text without the white space around it. -/
def trim (cs : List Char) : List Char := trimBoth isWhiteSpace cs

def trimBlank (cs : List Char) : List Char := trimBoth isBlank cs

end Text
end ChatRecords
