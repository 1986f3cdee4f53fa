import ChatRecords.Double.Basic
import ChatRecords.Text.Blank
import ChatRecords.Text.Digit

/-!
# Numbers in texts

The lenient forms in which a text may give a number: white space around it is ignored, and
digits may be grouped by single underscores.

## Main definitions

* `Text.readWhole?`: an integer in the digits of any scripts.
* `Text.readInteger`: an integer, with leading zeros and a fraction of zeros allowed.
* `Text.readReal?`: a real number, with the words for infinity and "not a number" allowed.
-/

namespace ChatRecords
namespace Text

/-- Why a text is not an integer in ASCII digits. -/
inductive NumeralFault where
  | malformed
  | tooLong
deriving DecidableEq

/-- Whether two underscores are next to each other. -/
def hasDoubleUnderscore : List Char → Bool
  | '_' :: '_' :: _ => true
  | _ :: rest => hasDoubleUnderscore rest
  | [] => false

/-- The text without its underscores, if it has any, all single and none at an end. -/
def ungroup? (cs : List Char) : Option (List Char) :=
  if cs.head? = some '_' ∨ cs.getLast? = some '_' ∨ !cs.contains '_' ∨ hasDoubleUnderscore cs then
    none
  else some (cs.filter (· ≠ '_'))

/-- Whether a character may begin the digits that leading zeros stand before. -/
def isLeadingMark (c : Char) : Bool := c = '-' || (isAsciiDigit c && c ≠ '0')

/-- The text without the zeros at its front and the underscores among them; the last of them
stays if nothing or a point follows. -/
def dropLeadingZeros? : List Char → Option (List Char)
  | '0' :: rest =>
    let leading := '0' :: rest.takeWhile fun c => c = '0' || c = '_'
    match rest.dropWhile fun c => c = '0' || c = '_' with
    | [] => some (leading.drop (leading.length - 1))
    | '.' :: fraction => some (leading.drop (leading.length - 1) ++ '.' :: fraction)
    | c :: rest => if isLeadingMark c then some (c :: rest) else none
  | c :: rest => if isLeadingMark c then some (c :: rest) else none
  | [] => none

/-- The text without a fraction that is all zeros. -/
def dropZeroFraction (cs : List Char) : List Char :=
  match cs.dropWhile (· ≠ '.') with
  | _ :: '0' :: zeros => if zeros.all (· = '0') then cs.takeWhile (· ≠ '.') else cs
  | _ => cs

/-- The text after a plus sign at its front; no minus sign may follow the plus. -/
def dropPlus? : List Char → Option (List Char)
  | '+' :: '-' :: _ => none
  | '+' :: rest => some rest
  | cs => some cs

/-- A sign at the front of a text, and what follows it. -/
def splitSign : List Char → Bool × List Char
  | '+' :: rest => (false, rest)
  | '-' :: rest => (true, rest)
  | cs => (false, cs)

/-- A text without the blanks around it. In a text that is all ASCII, information separators are
not blank. -/
def trimWhole (cs : List Char) : List Char :=
  if cs.all fun c => c.toNat < 0x80 then trim cs else trimBlank cs

/-- The integer that a text of digits of any scripts gives. -/
def readWhole? (s : String) : Option Int :=
  let (negative, body) := splitSign (trimWhole s.toList)
  match ((ungroup? body).getD body).mapM decimalDigit? with
  | none | some [] => none
  | some ds =>
    if digitLimit < ds.length then none
    else
      let n : Int := ofDigits ds
      some (if negative then -n else n)

/-- The integer that a text gives: a minus sign or none, and digits that begin with a zero only
if that is all of them. Too many digits are noticed before whatever comes after them. -/
def readSignedDigits (cs : List Char) : Except NumeralFault Int :=
  let negative := cs.head? = some '-'
  let body := if negative then cs.tail else cs
  let ds := body.takeWhile isAsciiDigit
  if ds.isEmpty ∨ (ds.head? = some '0' ∧ body ≠ ['0']) then .error .malformed
  else if digitLimit < ds.length then .error .tooLong
  else if body.any fun c => !isAsciiDigit c then .error .malformed
  else
    let n : Int := natOfDigits ds
    .ok (if negative then -n else n)

/-- The digits that a text gives without the zeros at their front, a fraction of zeros and single
underscores. -/
def bareDigits? (cs : List Char) : Option (List Char) :=
  (dropLeadingZeros? cs).map fun cs =>
    let cs := dropZeroFraction cs
    (ungroup? cs).getD cs

/-- The text of an integer without what is not needed to tell it: white space around it, a plus
sign, and what the digits can do without. -/
def bareInteger? (s : String) : Option (List Char) :=
  match trim s.toList with
  | '-' :: cs => (bareDigits? cs).map ('-' :: ·)
  | cs => (dropPlus? cs).bind bareDigits?

/-- The integer that a text gives, as it stands or bare. Too many digits are told from other faults
only where they, after a minus sign or none, open the text as it stands. -/
def readInteger (s : String) : Except NumeralFault Int :=
  match readSignedDigits s.toList with
  | .ok n => .ok n
  | .error .tooLong => .error .tooLong
  | .error .malformed =>
    match (bareInteger? s).map readSignedDigits with
    | some (.ok n) => .ok n
    | _ => .error .malformed

/-- The exponent at the end of a real number: nothing, or the letter, a sign and digits. -/
def readExponent? : List Char → Option Int
  | [] => some 0
  | c :: rest =>
    if c = 'e' ∨ c = 'E' then
      let negative := rest.head? = some '-'
      let ds := if negative ∨ rest.head? = some '+' then rest.tail else rest
      if ds.isEmpty ∨ !ds.all isAsciiDigit then none
      else
        let n : Int := natOfDigits ds
        some (if negative then -n else n)
    else none

/-- The finite number that an unsigned decimal text gives: digits with an optional point before,
among or after them, and an optional exponent. -/
def readDecimal? (cs : List Char) : Option Decimal := do
  let whole := cs.takeWhile isAsciiDigit
  let rest := cs.dropWhile isAsciiDigit
  let (part, rest) := match rest with
    | '.' :: rest => (rest.takeWhile isAsciiDigit, rest.dropWhile isAsciiDigit)
    | rest => ([], rest)
  if whole.isEmpty && part.isEmpty then none
  else do
    let exponent ← readExponent? rest
    pure ⟨natOfDigits (whole ++ part), exponent - part.length⟩

/-- The real number that a text without white space and underscores gives. -/
def readPlainReal? (cs : List Char) : Option Double :=
  let negative := cs.head? = some '-'
  let body := if negative ∨ cs.head? = some '+' then cs.tail else cs
  let word := String.ofList (body.map Char.toLower)
  if word = "inf" ∨ word = "infinity" then some (.infinite negative)
  else if word = "nan" then some .nan
  else (readDecimal? body).map (Double.ofDecimal negative)

/-- The real number that a text gives. Around digits in groups no white space is allowed. -/
def readReal? (s : String) : Option Double :=
  match readPlainReal? (trim s.toList) with
  | some x => some x
  | none => (ungroup? s.toList).bind readPlainReal?

end Text
end ChatRecords
