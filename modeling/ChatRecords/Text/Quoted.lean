import ChatRecords.Text.Printable

/-!
# Quoted text

Text and bytes in quotes, with escapes for everything that is not printable. The quote is
the single one, unless the text holds single quotes and no double ones.

## Main definitions

* `Text.quote`: a text in quotes.
* `Text.quoteBytes`: a row of bytes in quotes, marked by the letter `b`.
-/

namespace ChatRecords
namespace Text

def quoteMark (cs : List Char) : Char :=
  if cs.contains '\'' && !cs.contains '"' then '"' else '\''

/-- A number in lower-case hexadecimal digits, with leading zeros up to a width. -/
def hexPadded (width n : Nat) : List Char :=
  let ds := Nat.toDigits 16 n
  List.replicate (width - ds.length) '0' ++ ds

/-- The escape that stands for a code point: two, four or eight hexadecimal digits. -/
def codePointEscape (n : Nat) : List Char :=
  if n < 0x100 then '\\' :: 'x' :: hexPadded 2 n
  else if n < 0x10000 then '\\' :: 'u' :: hexPadded 4 n
  else '\\' :: 'U' :: hexPadded 8 n

def quoteChar (mark c : Char) : List Char :=
  if c = mark ∨ c = '\\' then ['\\', c]
  else if c = '\n' then ['\\', 'n']
  else if c = '\r' then ['\\', 'r']
  else if c = '\t' then ['\\', 't']
  else if isPrintable c then [c]
  else codePointEscape c.toNat

def quoteChars (cs : List Char) : List Char :=
  let mark := quoteMark cs
  mark :: (cs.flatMap (quoteChar mark) ++ [mark])

def quote (s : String) : String := String.ofList (quoteChars s.toList)

def quoteByte (mark : Char) (b : UInt8) : List Char :=
  let c := Char.ofNat b.toNat
  if b < 0x80 ∧ (isPrintable c ∨ c = '\n' ∨ c = '\r' ∨ c = '\t') then quoteChar mark c
  else '\\' :: 'x' :: hexPadded 2 b.toNat

def quoteBytes (bytes : List UInt8) : String :=
  let mark := quoteMark (bytes.map fun b => Char.ofNat b.toNat)
  String.ofList ('b' :: mark :: (bytes.flatMap (quoteByte mark) ++ [mark]))

end Text
end ChatRecords
