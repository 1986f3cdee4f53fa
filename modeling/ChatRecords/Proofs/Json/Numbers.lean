import ChatRecords.Json.Reader
import ChatRecords.Json.Writer
import ChatRecords.Proofs.Double.Rounding
import ChatRecords.Proofs.Text.Decimal

/-!
# Numbers in JSON text

A number that was written reads back, as an integer or as the same double, whatever may follow a
value in JSON text.

## Main definitions

* `Json.Reader.Ends`: what may follow a value.

## Main results

* `Json.Reader.number_integer`: integers read back unless they have too many digits.
* `Json.Reader.number_real`: finite doubles read back.
-/

namespace ChatRecords
namespace Json
namespace Reader

open Text

/-- What may follow a value in text that was written: nothing, or the end of the value's line, its
item or its container. -/
def Ends (rest : List Char) : Prop :=
  ∀ c ∈ rest.head?, c = ',' ∨ c = ']' ∨ c = '}' ∨ c = '\n'

theorem noDigit_point (rest : List Char) : NoDigit ('.' :: rest) := noDigit_cons (by decide)

theorem noDigit_exponent (rest : List Char) : NoDigit ('e' :: rest) := noDigit_cons (by decide)

theorem ends_nil : Ends [] := by simp [Ends]

theorem Ends.noDigit {rest : List Char} (h : Ends rest) : NoDigit rest := by
  intro c hc
  rcases h c hc with rfl | rfl | rfl | rfl <;> decide

theorem digits_append {ds rest : List Char} (hds : AllDigits ds) (hrest : NoDigit rest) :
    digits (ds ++ rest) = (ds, rest) := by
  rw [digits, takeWhile_digits hds hrest, dropWhile_digits hds hrest]

/-! ## The parts of a number -/

/-- A whole part does not begin with a zero unless that is all of it. -/
def IsWhole (ds : List Char) : Prop :=
  AllDigits ds ∧ ds ≠ [] ∧ (ds.head? = some '0' → ds = ['0'])

theorem isWhole_toDigits (n : Nat) : IsWhole (Nat.toDigits 10 n) := by
  refine ⟨allDigits_toDigits n, Nat.toDigits_ne_nil, ?_⟩
  intro hzero
  rw [eq_zero_of_head?_toDigits hzero, Nat.toDigits_zero]

theorem wholePart_append {ds rest : List Char} (hds : IsWhole ds) (hrest : NoDigit rest) :
    wholePart (ds ++ rest) = some (ds, rest) := by
  obtain ⟨hall, hne, hzero⟩ := hds
  rw [wholePart, digits_append hall hrest]
  cases ds with
  | nil => exact absurd rfl hne
  | cons c ds =>
    by_cases hc : c = '0'
    · subst hc
      rw [hzero rfl]
      rfl
    · split <;> simp_all

theorem fraction_of_head? {rest : List Char} (h : rest.head? ≠ some '.') :
    fraction rest = some (none, rest) := by
  cases rest with
  | nil => rfl
  | cons c rest =>
    unfold fraction
    split <;> simp_all

theorem fraction_point {ds rest : List Char} (hds : AllDigits ds) (hne : ds ≠ [])
    (hrest : NoDigit rest) : fraction ('.' :: (ds ++ rest)) = some (some ds, rest) := by
  cases ds with
  | nil => exact absurd rfl hne
  | cons c ds => rw [fraction, digits_append hds hrest]

theorem Ends.fraction_eq {rest : List Char} (h : Ends rest) : fraction rest = some (none, rest) := by
  apply fraction_of_head?
  intro hc
  rcases h '.' hc with hc | hc | hc | hc <;> revert hc <;> decide

theorem Ends.exponent_eq {rest : List Char} (h : Ends rest) : exponent rest = some (none, rest) := by
  cases rest with
  | nil => rfl
  | cons c rest =>
    have hc : ¬(c = 'e' ∨ c = 'E') := by
      rcases h c (by simp) with rfl | rfl | rfl | rfl <;> decide
    simp [exponent, hc]

theorem exponentDigits_append (n : Nat) {rest : List Char} (hrest : NoDigit rest) :
    exponentDigits (Nat.toDigits 10 n ++ rest) = some (n, rest) := by
  rw [exponentDigits, digits_append (allDigits_toDigits n) hrest]
  split
  · next heq => exact absurd (Prod.mk.inj heq).1 Nat.toDigits_ne_nil
  · next ds rest' hne heq =>
    obtain ⟨rfl, rfl⟩ := Prod.mk.inj heq
    rw [natOfDigits_toDigits]

theorem exponent_exponentText (order : Int) {rest : List Char} (hrest : NoDigit rest) :
    exponent ('e' :: (realLayout.exponentText order ++ rest)) = some (some order, rest) := by
  have hwidth : 1 - (Nat.toDigits 10 order.natAbs).length = 0 := by
    have := Nat.length_toDigits_pos (b := 10) (n := order.natAbs)
    omega
  simp only [RealLayout.exponentText, realLayout, hwidth, List.replicate_zero, List.nil_append]
  split
  · simp only [exponent, List.cons_append, true_or, if_true, exponentDigits_append _ hrest,
      Option.map_some]
    congr
    omega
  · simp only [exponent, List.cons_append, true_or, if_true, exponentDigits_append _ hrest,
      Option.map_some]
    congr
    omega

/-! ## Integers -/

theorem unsigned_integer (negative : Bool) (n : Nat) {rest : List Char} (hrest : Ends rest) :
    unsigned negative (Nat.toDigits 10 n ++ rest) =
      if (Nat.toDigits 10 n).length ≤ digitLimit then
        some (.integer (if negative then -(n : Int) else n), rest)
      else none := by
  simp only [unsigned, wholePart_append (isWhole_toDigits n) hrest.noDigit, hrest.fraction_eq,
    hrest.exponent_eq, natOfDigits_toDigits, Option.bind_eq_bind, Option.bind_some]
  by_cases hlimit : (Nat.toDigits 10 n).length ≤ digitLimit
  · rw [if_neg (by omega), if_pos hlimit]
    rfl
  · rw [if_pos (by omega), if_neg hlimit]

/-- A text that begins with a digit. -/
def StartsDigit (cs : List Char) : Prop := ∃ c ∈ cs.head?, isAsciiDigit c = true

theorem startsDigit_append {ds : List Char} (hall : AllDigits ds) (hne : ds ≠ [])
    (rest : List Char) : StartsDigit (ds ++ rest) := by
  cases ds with
  | nil => exact absurd rfl hne
  | cons d ds => exact ⟨d, rfl, hall d (by simp)⟩

theorem StartsDigit.head?_ne {cs : List Char} (h : StartsDigit cs) {c : Char}
    (hc : isAsciiDigit c = false) : cs.head? ≠ some c := by
  rintro heq
  obtain ⟨d, hd, hdigit⟩ := h
  rw [Option.mem_def, heq] at hd
  rw [← Option.some.inj hd, hc] at hdigit
  simp at hdigit

/-- Only a text that begins with a digit is read as a number. -/
theorem startsDigit_of_unsigned {negative : Bool} {cs : List Char} {r : Json × List Char}
    (h : unsigned negative cs = some r) : StartsDigit cs := by
  by_contra hdigit
  have hnone : cs.takeWhile isAsciiDigit = [] := by
    cases cs with
    | nil => rfl
    | cons c cs =>
      rw [List.takeWhile_cons_of_neg]
      exact fun hc => hdigit ⟨c, rfl, hc⟩
  simp [unsigned, wholePart, digits, hnone] at h

theorem number_unsigned {cs : List Char} (h : StartsDigit cs) : number cs = unsigned false cs := by
  have hhead := h.head?_ne (c := '-') (by decide)
  unfold number
  split <;> simp_all

/-- A text that begins otherwise does not begin with a word. -/
theorem word?_eq_none {word : String} {c : Char} {cs rest : List Char}
    (hword : word.toList = c :: cs) (h : rest.head? ≠ some c) : word? word rest = none := by
  rw [word?, hword, if_neg]
  cases rest with
  | nil => simp
  | cons d rest =>
    have hne : (c == d) = false := by
      rw [beq_eq_false_iff_ne]
      rintro rfl
      exact h rfl
    simp [List.isPrefixOf, hne]

theorem number_minus {cs : List Char} (h : StartsDigit cs) :
    number ('-' :: cs) = unsigned true cs := by
  have hword : word? "Infinity" cs = none :=
    word?_eq_none rfl (h.head?_ne (c := 'I') (by decide))
  rw [number, hword]

/-- An integer reads back unless it has too many digits. -/
theorem number_integer (n : Int) {rest : List Char} (hrest : Ends rest) :
    number ((toString n).toList ++ rest) =
      if (Nat.toDigits 10 n.natAbs).length ≤ digitLimit then some (.integer n, rest) else none := by
  rw [toList_toString_int]
  split
  · next hneg =>
    have habs : -(n.natAbs : Int) = n := by omega
    rw [List.cons_append, number_minus (startsDigit_append (allDigits_toDigits _) Nat.toDigits_ne_nil _),
      unsigned_integer true _ hrest, if_pos rfl, habs]
  · next hneg =>
    have habs : (n.natAbs : Int) = n := by omega
    rw [number_unsigned (startsDigit_append (allDigits_toDigits _) Nat.toDigits_ne_nil _),
      unsigned_integer false _ hrest, if_neg Bool.false_ne_true, habs]

/-! ## Doubles -/

/-- A whole part of bounded length and a part after a point are the digits of a decimal. -/
theorem unsigned_point (negative : Bool) {whole part rest : List Char} (hwhole : IsWhole whole)
    (hlimit : whole.length ≤ digitLimit) (hpart : AllDigits part) (hne : part ≠ [])
    (hrest : Ends rest) : unsigned negative (whole ++ '.' :: (part ++ rest)) =
      some (.real (Double.ofDecimal negative ⟨natOfDigits (whole ++ part), -part.length⟩),
        rest) := by
  have hlimit : ¬digitLimit < whole.length := by omega
  simp [unsigned, wholePart_append hwhole (noDigit_point _), hlimit,
    fraction_point hpart hne hrest.noDigit, hrest.exponent_eq]

theorem unsigned_exponent (negative : Bool) {whole rest : List Char} (order : Int)
    (hwhole : IsWhole whole) (hlimit : whole.length ≤ digitLimit) (hrest : Ends rest) :
    unsigned negative (whole ++ 'e' :: (realLayout.exponentText order ++ rest)) =
      some (.real (Double.ofDecimal negative ⟨natOfDigits whole, order⟩), rest) := by
  have hlimit : ¬digitLimit < whole.length := by omega
  have hfraction (cs : List Char) : fraction ('e' :: cs) = some (none, 'e' :: cs) :=
    fraction_of_head? (by simp)
  simp [unsigned, wholePart_append hwhole (noDigit_exponent _), hlimit,
    hfraction, exponent_exponentText order hrest.noDigit]

/-- Digits with a point and an exponent are a decimal. -/
theorem unsigned_point_exponent (negative : Bool) {whole part rest : List Char} (order : Int)
    (hwhole : IsWhole whole) (hlimit : whole.length ≤ digitLimit) (hpart : AllDigits part)
    (hne : part ≠ []) (hrest : Ends rest) :
    unsigned negative
      (whole ++ '.' :: (part ++ 'e' :: (realLayout.exponentText order ++ rest))) =
      some (.real (Double.ofDecimal negative
        ⟨natOfDigits (whole ++ part), order - part.length⟩), rest) := by
  have hlimit : ¬digitLimit < whole.length := by omega
  simp [unsigned, wholePart_append hwhole (noDigit_point _), hlimit,
    fraction_point hpart hne (noDigit_exponent _),
    exponent_exponentText order hrest.noDigit]

/-! ## Layouts -/

theorem isWhole_zero : IsWhole ['0'] := isWhole_toDigits 0

/-- Digits of a number other than zero are a whole part, whatever digits follow them. -/
theorem IsWhole.of_head? {ds : List Char} (hall : AllDigits ds) (hne : ds ≠ [])
    (hhead : ds.head? ≠ some '0') : IsWhole ds :=
  ⟨hall, hne, fun h => absurd h hhead⟩

theorem head?_append_of_ne_nil {ds : List Char} (hne : ds ≠ []) (rest : List Char) :
    (ds ++ rest).head? = ds.head? := by
  cases ds with
  | nil => exact absurd rfl hne
  | cons d ds => rfl

/-- A number below one, written with zeros after the point. -/
theorem unsigned_positional_small (negative : Bool) (n : Nat) {order : Int} (horder : order < 0)
    {rest : List Char} (hrest : Ends rest) :
    unsigned negative (RealLayout.positional (Nat.toDigits 10 n) order ++ rest) =
      some (.real (Double.ofDecimal negative
        ⟨n, order + 1 - (Nat.toDigits 10 n).length⟩), rest) := by
  have hall := (allDigits_replicate (-order - 1).toNat).append (allDigits_toDigits n)
  have hne : List.replicate (-order - 1).toNat '0' ++ Nat.toDigits 10 n ≠ [] := by simp
  have hpoint := unsigned_point negative isWhole_zero (by decide) hall hne hrest
  have hvalue : natOfDigits (['0'] ++ (List.replicate (-order - 1).toNat '0' ++
      Nat.toDigits 10 n)) = n := by
    have hzeros := natOfDigits_zeros (n := 1) hall
    rw [natOfDigits_zeros (allDigits_toDigits n), natOfDigits_toDigits] at hzeros
    exact hzeros
  have hexponent : -((List.replicate (-order - 1).toNat '0' ++ Nat.toDigits 10 n).length : Int) =
      order + 1 - (Nat.toDigits 10 n).length := by
    rw [List.length_append, List.length_replicate]
    omega
  rw [hvalue, hexponent] at hpoint
  rw [RealLayout.positional, if_pos horder]
  simpa using hpoint

/-- An integer, written with zeros up to the point and one after it. -/
theorem unsigned_positional_whole (negative : Bool) (n zeros : Nat)
    (hzeros : n ≠ 0 ∨ zeros = 0) (hlimit : (Nat.toDigits 10 n).length + zeros ≤ digitLimit)
    {rest : List Char} (hrest : Ends rest) :
    unsigned negative (Nat.toDigits 10 n ++ List.replicate zeros '0' ++ ['.', '0'] ++ rest) =
      some (.real (Double.ofDecimal negative ⟨n, zeros⟩), rest) := by
  have hall := (allDigits_toDigits n).append (allDigits_replicate zeros)
  have hwhole : IsWhole (Nat.toDigits 10 n ++ List.replicate zeros '0') := by
    rcases hzeros with hn | rfl
    · refine .of_head? hall (by simp) ?_
      rw [head?_append_of_ne_nil Nat.toDigits_ne_nil]
      exact head?_toDigits_ne hn
    · simpa using isWhole_toDigits n
  have hlength : (Nat.toDigits 10 n ++ List.replicate zeros '0').length ≤ digitLimit := by
    rwa [List.length_append, List.length_replicate]
  have hpoint := unsigned_point negative hwhole hlength (allDigits_replicate 1) (by simp) hrest
  -- the zero after the point is read as a digit too, and the exponent takes it back
  have hvalue : natOfDigits (Nat.toDigits 10 n ++ List.replicate zeros '0' ++
      List.replicate 1 '0') = n * 10 ^ (zeros + 1) := by
    rw [natOfDigits_append hall (allDigits_replicate 1), natOfDigits_replicate,
      natOfDigits_append (allDigits_toDigits n) (allDigits_replicate zeros),
      natOfDigits_replicate, natOfDigits_toDigits, List.length_replicate, List.length_replicate]
    ring
  have hexponent : -((List.replicate 1 '0').length : Int) + (zeros + 1 : Nat) = zeros := by
    simp
  rw [hvalue, Double.ofDecimal_shift, hexponent] at hpoint
  simpa using hpoint

/-- A number with digits on both sides of the point. -/
theorem unsigned_positional_mixed (negative : Bool) (n whole : Nat) (hwhole : 0 < whole)
    (hlimit : whole ≤ digitLimit) (hlength : whole < (Nat.toDigits 10 n).length)
    {rest : List Char} (hrest : Ends rest) :
    unsigned negative ((Nat.toDigits 10 n).take whole ++ '.' :: (Nat.toDigits 10 n).drop whole ++
      rest) = some (.real (Double.ofDecimal negative
        ⟨n, whole - (Nat.toDigits 10 n).length⟩), rest) := by
  have hn : n ≠ 0 := by
    rintro rfl
    rw [Nat.toDigits_zero, List.length_singleton] at hlength
    omega
  have htake : IsWhole ((Nat.toDigits 10 n).take whole) := by
    refine .of_head? ((allDigits_toDigits n).take whole) ?_ ?_
    · rw [← List.length_pos_iff, List.length_take]
      omega
    · rw [List.head?_take, if_neg (by omega)]
      exact head?_toDigits_ne hn
  have htakeLength : ((Nat.toDigits 10 n).take whole).length ≤ digitLimit := by
    rw [List.length_take]
    omega
  have hdrop : (Nat.toDigits 10 n).drop whole ≠ [] := by
    rw [← List.length_pos_iff, List.length_drop]
    omega
  have hpoint := unsigned_point negative htake htakeLength ((allDigits_toDigits n).drop whole)
    hdrop hrest
  have hexponent : -(((Nat.toDigits 10 n).drop whole).length : Int) =
      whole - (Nat.toDigits 10 n).length := by
    rw [List.length_drop]
    omega
  rw [List.take_append_drop, natOfDigits_toDigits, hexponent] at hpoint
  simpa using hpoint

theorem unsigned_scientific (negative : Bool) (n : Nat) (order : Int) {rest : List Char}
    (hrest : Ends rest) :
    unsigned negative (realLayout.scientific (Nat.toDigits 10 n) order ++ rest) =
      some (.real (Double.ofDecimal negative
        ⟨n, order + 1 - (Nat.toDigits 10 n).length⟩), rest) := by
  have hwhole := isWhole_toDigits n
  have hvalue := natOfDigits_toDigits n
  generalize Nat.toDigits 10 n = ds at hwhole hvalue
  match ds, hwhole with
  | [], hwhole => exact absurd rfl hwhole.2.1
  | [d], hwhole =>
    have hexponent := unsigned_exponent negative order hwhole (by simp [digitLimit]) hrest
    rw [hvalue] at hexponent
    simpa [RealLayout.scientific] using hexponent
  | d :: d' :: part, hwhole =>
    have hfirst : IsWhole [d] := by
      refine ⟨fun c hc => hwhole.1 c (by simp at hc; simp [hc]), by simp, ?_⟩
      intro hd
      simpa using hd
    have hpart : AllDigits (d' :: part) := fun c hc => hwhole.1 c (List.mem_cons_of_mem _ hc)
    have hmixed := unsigned_point_exponent negative order hfirst (by simp [digitLimit]) hpart
      (by simp) hrest
    have hexponent : order - ((d' :: part).length : Int) =
        order + 1 - ((d :: d' :: part).length : Int) := by
      simp only [List.length_cons]
      omega
    have hdigits : natOfDigits ([d] ++ d' :: part) = n := hvalue
    rw [hexponent, hdigits] at hmixed
    simpa [RealLayout.scientific] using hmixed

theorem unsigned_magnitude (negative : Bool) (x : Magnitude) {rest : List Char}
    (hrest : Ends rest) : unsigned negative (realLayout.magnitude x ++ rest) =
      some (.real (.finite negative x), rest) := by
  have hread := Magnitude.ofDecimal_shortest negative x
  have hzero := Magnitude.shortest_eq_of_digits_eq_zero (x := x)
  unfold RealLayout.magnitude
  generalize x.shortest = d at hread hzero
  obtain ⟨n, e⟩ := d
  dsimp only
  have horder : e + (Nat.toDigits 10 n).length - 1 + 1 - (Nat.toDigits 10 n).length = e := by
    omega
  split
  · next hpositional =>
    simp only [realLayout] at hpositional
    by_cases hsmall : e + (Nat.toDigits 10 n).length - 1 < 0
    · rw [unsigned_positional_small negative n hsmall hrest, horder, hread]
    · rw [RealLayout.positional, if_neg hsmall]
      dsimp only
      split
      · next hlength =>
        have hzeros : (e + (Nat.toDigits 10 n).length - 1).toNat + 1 -
            (Nat.toDigits 10 n).length = e.toNat := by omega
        have he : (e.toNat : Int) = e := by omega
        -- zero has no zeros of its own after it, as its shortest decimal has exponent zero
        have hn : n ≠ 0 ∨ e.toNat = 0 := by
          by_cases hn : n = 0
          · have := Decimal.mk.inj (hzero hn)
            exact .inr (by omega)
          · exact .inl hn
        rw [hzeros, unsigned_positional_whole negative n _ hn (by simp [digitLimit]; omega) hrest,
          he, hread]
      · next hlength =>
        have hexponent : (((e + (Nat.toDigits 10 n).length - 1).toNat + 1 : Nat) : Int) -
            (Nat.toDigits 10 n).length = e := by omega
        rw [unsigned_positional_mixed negative n _ (by omega) (by simp [digitLimit]; omega)
          (by omega) hrest, hexponent, hread]
  · rw [unsigned_scientific negative n _ hrest, horder, hread]

theorem number_real (negative : Bool) (x : Magnitude) {rest : List Char} (hrest : Ends rest) :
    number (((Double.finite negative x).render realLayout).toList ++ rest) =
      some (.real (.finite negative x), rest) := by
  have hread := unsigned_magnitude negative x hrest
  have hdigit := startsDigit_of_unsigned hread
  cases negative with
  | false =>
    rw [← hread, ← number_unsigned hdigit]
    simp [Double.render]
  | true =>
    rw [← hread, ← number_minus hdigit]
    simp [Double.render]

end Reader
end Json
end ChatRecords
