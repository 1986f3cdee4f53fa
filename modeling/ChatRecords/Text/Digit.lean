/-!
# Decimal digits and numbers written in them

The ASCII digits, the decimal digits of all scripts (Unicode general category
`Nd`), and the value of a run of digits.

## Main definitions

* `Text.asciiDigit?`, `Text.decimalDigit?`: the value of one digit.
* `Text.ofDigits`: the number a run of digit values denotes.
* `Text.digitLimit`: how many digits a decimal number may be read from.
-/

namespace ChatRecords
namespace Text

def asciiDigit? (c : Char) : Option Nat :=
  if '0' ≤ c ∧ c ≤ '9' then some (c.toNat - '0'.toNat) else none

/-- Whether `c` is one of the ten ASCII digits. -/
def isAsciiDigit (c : Char) : Bool := (asciiDigit? c).isSome

/-- The zeros of all scripts that have decimal digits. The nine code points after each zero
are the digits one to nine of its script. -/
def scriptZeros : List Nat :=
  [0x30, 0x660, 0x6F0, 0x7C0, 0x966, 0x9E6, 0xA66, 0xAE6, 0xB66, 0xBE6, 0xC66, 0xCE6, 0xD66,
   0xDE6, 0xE50, 0xED0, 0xF20, 0x1040, 0x1090, 0x17E0, 0x1810, 0x1946, 0x19D0, 0x1A80, 0x1A90,
   0x1B50, 0x1BB0, 0x1C40, 0x1C50, 0xA620, 0xA8D0, 0xA900, 0xA9D0, 0xA9F0, 0xAA50, 0xABF0, 0xFF10,
   0x104A0, 0x10D30, 0x11066, 0x110F0, 0x11136, 0x111D0, 0x112F0, 0x11450, 0x114D0, 0x11650,
   0x116C0, 0x11730, 0x118E0, 0x11950, 0x11C50, 0x11D50, 0x11DA0, 0x16A60, 0x16AC0, 0x16B50,
   0x1D7CE, 0x1D7D8, 0x1D7E2, 0x1D7EC, 0x1D7F6, 0x1E140, 0x1E2F0, 0x1E950, 0x1FBF0]

/-- The value of a decimal digit of any script. -/
def decimalDigit? (c : Char) : Option Nat :=
  (scriptZeros.find? fun z => z ≤ c.toNat && c.toNat < z + 10).map (c.toNat - ·)

/-- The number whose decimal digits, most significant first, are `ds`. -/
def ofDigits (ds : List Nat) : Nat := ds.foldl (fun n d => 10 * n + d) 0

/-- The most digits a decimal number may be read from. -/
def digitLimit : Nat := 4300

/-- The number that a text of ASCII digits denotes; other characters count as zero. -/
def natOfDigits (cs : List Char) : Nat := ofDigits (cs.map fun c => (asciiDigit? c).getD 0)

/-- The decimal digits of `n`, without leading zeros. -/
def digits (n : Nat) : List Char := Nat.toDigits 10 n

end Text
end ChatRecords
