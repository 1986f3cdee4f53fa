import ChatRecords.Double.Shortest
import Mathlib.Tactic.NormNum
import Mathlib.Tactic.Ring

/-!
# Decimal numbers as doubles

The double that a decimal number is read as depends on the number alone, not on how many zeros it
is written with; and the decimal that stands for a double is one that reads back as it.

## Main results

* `Double.round_units`: a double is not changed by rounding.
* `Double.ofDecimal_eq`: the shortcuts of the reader for very large and very small numbers agree
  with rounding.
* `Double.ofDecimal_shift`: zeros at the end of the digits do not matter.
* `Magnitude.ofDecimal_shortest`: the shortest decimal of a double reads back as it.
-/

namespace ChatRecords

/-! ## Rounding a ratio -/

theorem roundHalfEven_mul (num den : Nat) {k : Nat} (hk : 0 < k) :
    roundHalfEven (num * k) (den * k) = roundHalfEven num den := by
  have hlow : 2 * (num % den * k) < den * k ↔ 2 * (num % den) < den := by
    rw [← mul_assoc]
    exact Nat.mul_lt_mul_right hk
  have hhigh : den * k < 2 * (num % den * k) ↔ den < 2 * (num % den) := by
    rw [← mul_assoc]
    exact Nat.mul_lt_mul_right hk
  simp only [roundHalfEven, Nat.mul_mod_mul_right, Nat.mul_div_mul_right num den hk, hlow, hhigh]

theorem roundHalfEven_one (n : Nat) : roundHalfEven n 1 = n := by
  simp [roundHalfEven, Nat.mod_one]

theorem roundHalfEven_mul_self (n : Nat) {den : Nat} (h : 0 < den) :
    roundHalfEven (n * den) den = n := by
  have := roundHalfEven_mul n 1 h
  rwa [Nat.one_mul, roundHalfEven_one] at this

theorem roundHalfEven_eq_zero {num den : Nat} (h : 2 * num < den) : roundHalfEven num den = 0 := by
  have hlt : num < den := by omega
  simp [roundHalfEven, Nat.div_eq_of_lt hlt, Nat.mod_eq_of_lt hlt, h]

namespace Double

theorem round_mul (negative : Bool) (num den : Nat) {k : Nat} (hk : 0 < k) :
    round negative (num * k) (den * k) = round negative num den := by
  have hden (scale : Nat) : den * k * 2 ^ scale = den * 2 ^ scale * k := by ring
  simp only [round, Nat.mul_div_mul_right num den hk, hden, roundHalfEven_mul num _ hk]

/-- A double is not changed by rounding. -/
theorem round_units (negative : Bool) (x : Magnitude) :
    round negative x.units 1 = .finite negative x := by
  obtain ⟨significand, scale, hcanonical⟩ := x
  obtain ⟨hlt, hscale, hnormal⟩ := hcanonical
  -- rounding finds the scale again: a significand of 53 bits fills it, and a smaller one has scale 0
  have hlog : (significand * 2 ^ scale).log2 - 52 = scale := by
    rcases hnormal with rfl | hge
    · have : significand.log2 < 53 := by
        rcases Nat.eq_zero_or_pos significand with rfl | hpos
        · simp
        · exact (Nat.log2_lt (by omega)).2 hlt
      simp only [Nat.pow_zero, Nat.mul_one]
      omega
    · have hlog : (significand * 2 ^ scale).log2 = 52 + scale := by
        rw [Nat.log2_eq_iff (by positivity)]
        constructor
        · rw [Nat.pow_add]
          exact Nat.mul_le_mul_right _ hge
        · rw [show 52 + scale + 1 = 53 + scale by omega, Nat.pow_add]
          exact Nat.mul_lt_mul_of_pos_right hlt (by positivity)
      omega
  have hround : roundHalfEven (significand * 2 ^ scale) (1 * 2 ^ scale) = significand := by
    rw [Nat.one_mul]
    exact roundHalfEven_mul_self significand (by positivity)
  have hne : significand ≠ 2 ^ 53 := by omega
  simp only [round, Magnitude.units, Nat.div_one, hlog, hround, hne, if_false, pack]
  rw [dif_pos ⟨hlt, hscale, hnormal⟩]

theorem ofRatio_mul (negative : Bool) (num den : Nat) {k : Nat} (hk : 0 < k) :
    ofRatio negative (num * k) (den * k) = ofRatio negative num den := by
  have hnum : num * k * unitsPerOne = num * unitsPerOne * k := by ring
  rw [ofRatio, hnum, round_mul negative _ den hk, ofRatio]

theorem ofRatio_zero (negative : Bool) (den : Nat) :
    ofRatio negative 0 den = .finite negative .zero := by
  have hround (d : Nat) : roundHalfEven 0 d = 0 := by
    simp only [roundHalfEven, Nat.zero_div, Nat.zero_mod]
    split <;> simp_all
  simp [ofRatio, round, hround, pack, IsCanonical, Magnitude.zero]

/-- A magnitude is the ratio of its units to one. -/
theorem ofRatio_units (negative : Bool) (x : Magnitude) :
    ofRatio negative x.units unitsPerOne = .finite negative x := by
  have h := round_mul negative x.units 1 (k := unitsPerOne) (by decide +kernel)
  rw [Nat.one_mul] at h
  rw [ofRatio, h, round_units]

/-! ## Numbers out of range -/

/-- A ratio of at least `2 ^ 1033` is too large for the format. -/
theorem ofRatio_eq_infinite (negative : Bool) {num den : Nat} (hden : 0 < den)
    (h : 2 ^ 1033 * den ≤ num) : ofRatio negative num den = .infinite negative := by
  have hunits : 2 ^ 2107 ≤ num * unitsPerOne / den := by
    rw [Nat.le_div_iff_mul_le hden]
    calc 2 ^ 2107 * den = 2 ^ 1033 * den * unitsPerOne := by rw [unitsPerOne]; ring
      _ ≤ num * unitsPerOne := Nat.mul_le_mul_right _ h
  have hlog : 2107 ≤ (num * unitsPerOne / den).log2 :=
    (Nat.le_log2 (Nat.ne_of_gt (lt_of_lt_of_le (Nat.two_pow_pos 2107) hunits))).2 hunits
  -- the scale is past the largest one by so much that a carry makes no difference
  have hpack (significand scale : Nat) (hscale : 2055 ≤ scale) :
      pack negative significand scale = .infinite negative := by
    have hnot : ¬IsCanonical significand scale := fun hc => absurd hc.2.1 (by omega)
    rw [pack, dif_neg hnot]
  rw [ofRatio, round]
  split
  · exact hpack _ _ (by omega)
  · exact hpack _ _ (by omega)

/-- A ratio of less than half a unit is too small for the format. -/
theorem ofRatio_eq_zero (negative : Bool) {num den : Nat} (h : 2 * (num * unitsPerOne) < den) :
    ofRatio negative num den = .finite negative .zero := by
  have hdiv : num * unitsPerOne / den = 0 := Nat.div_eq_of_lt (by omega)
  simp [ofRatio, round, hdiv, roundHalfEven_eq_zero h, pack, IsCanonical, Magnitude.zero]

/-- A number has at most as many digits as a third of its bits, rounded up. -/
theorem lt_ten_pow (n : Nat) : n < 10 ^ (n.log2 / 3 + 1) := by
  calc n < 2 ^ (n.log2 + 1) := Nat.lt_log2_self
    _ ≤ 2 ^ (3 * (n.log2 / 3 + 1)) := Nat.pow_le_pow_right (by decide) (by omega)
    _ = 8 ^ (n.log2 / 3 + 1) := by rw [Nat.pow_mul]
    _ ≤ 10 ^ (n.log2 / 3 + 1) := Nat.pow_le_pow_left (by decide) _

/-- What the reader says about numbers out of range is what rounding gives. -/
theorem ofDecimal_eq (negative : Bool) (d : Decimal) : ofDecimal negative d =
    ofRatio negative (d.digits * 10 ^ d.exponent.toNat) (10 ^ (-d.exponent).toNat) := by
  obtain ⟨n, e⟩ := d
  simp only [ofDecimal]
  split
  · next hzero => rw [hzero, Nat.zero_mul, ofRatio_zero]
  · next hn =>
    split
    · next hlarge =>
      have hneg : (-e).toNat = 0 := by omega
      rw [hneg, Nat.pow_zero]
      refine (ofRatio_eq_infinite negative (by decide) ?_).symm
      calc 2 ^ 1033 * 1 ≤ 10 ^ 311 := by decide +kernel
        _ ≤ 10 ^ e.toNat := Nat.pow_le_pow_right (by decide) (by omega)
        _ ≤ n * 10 ^ e.toNat := Nat.le_mul_of_pos_left _ (by omega)
    · split
      · next hsmall =>
        have hpos : e.toNat = 0 := by omega
        rw [hpos, Nat.pow_zero, Nat.mul_one]
        refine (ofRatio_eq_zero negative ?_).symm
        have hexp : n.log2 / 3 + 1 + 331 ≤ (-e).toNat := by omega
        have hn := lt_ten_pow n
        calc 2 * (n * unitsPerOne) ≤ 2 * (10 ^ (n.log2 / 3 + 1) * unitsPerOne) :=
              Nat.mul_le_mul_left _ (Nat.mul_le_mul_right _ hn.le)
          _ = 10 ^ (n.log2 / 3 + 1) * (2 * unitsPerOne) := by ring
          _ < 10 ^ (n.log2 / 3 + 1) * 10 ^ 331 :=
              Nat.mul_lt_mul_of_pos_left (by decide +kernel) (by positivity)
          _ = 10 ^ (n.log2 / 3 + 1 + 331) := by rw [Nat.pow_add 10 (n.log2 / 3 + 1)]
          _ ≤ 10 ^ (-e).toNat := Nat.pow_le_pow_right (by decide) hexp
      · rfl

/-! ## Ways to write a decimal number -/

/-- Zeros at the end of the digits do not matter. -/
theorem ofDecimal_shift (negative : Bool) (digits : Nat) (exponent : Int) (zeros : Nat) :
    ofDecimal negative ⟨digits * 10 ^ zeros, exponent⟩ =
      ofDecimal negative ⟨digits, exponent + zeros⟩ := by
  rw [ofDecimal_eq, ofDecimal_eq]
  change ofRatio negative (digits * 10 ^ zeros * 10 ^ exponent.toNat) (10 ^ (-exponent).toNat) =
    ofRatio negative (digits * 10 ^ (exponent + zeros).toNat) (10 ^ (-(exponent + zeros)).toNat)
  -- both ratios over one denominator
  rw [← ofRatio_mul negative _ _ (k := 10 ^ (-(exponent + zeros)).toNat) (by positivity),
    ← ofRatio_mul negative (digits * _) _ (k := 10 ^ (-exponent).toNat) (by positivity)]
  congr 1
  · rw [mul_assoc digits, mul_assoc digits, mul_assoc digits, ← Nat.pow_add, ← Nat.pow_add,
      ← Nat.pow_add]
    congr 2
    omega
  · rw [mul_comm]

theorem ofDecimal_sign {d : Decimal} {x : Magnitude} (h : ofDecimal false d = .finite false x)
    (negative : Bool) : ofDecimal negative d = .finite negative x := by
  have hpack {significand scale : Nat} (h : pack false significand scale = .finite false x) :
      pack negative significand scale = .finite negative x := by
    unfold pack at h ⊢
    split at h
    · next hc =>
      rw [dif_pos hc, (Double.finite.inj h).2]
    · simp at h
  rw [ofDecimal_eq, ofRatio, round] at h ⊢
  split at h
  · next hs =>
    rw [if_pos hs]
    exact hpack h
  · next hs =>
    rw [if_neg hs]
    exact hpack h

theorem ofDecimal_dropZeros (negative : Bool) (fuel : Nat) (d : Decimal) :
    ofDecimal negative (d.dropZeros fuel) = ofDecimal negative d := by
  induction fuel generalizing d with
  | zero => rfl
  | succ fuel ih =>
    simp only [Decimal.dropZeros]
    split
    · next h =>
      have hdigits : d.digits / 10 * 10 ^ 1 = d.digits := by omega
      have hshift := ofDecimal_shift negative (d.digits / 10) d.exponent 1
      rw [hdigits] at hshift
      rw [ih]
      exact hshift.symm
    · rfl

end Double

/-! ## The shortest decimal -/

namespace Magnitude

/-- The first of two candidates that passes a test passes it. -/
theorem test_of_first {p : Decimal → Bool} {a b d : Decimal}
    (h : (if p a then some a else if p b then some b else none) = some d) : p d = true := by
  split at h
  · next ha => rwa [← Option.some.inj h]
  · split at h
    · next hb => rwa [← Option.some.inj h]
    · simp at h

theorem ofDecimal_neighbour {x : Magnitude} {exponent : Int} {d : Decimal}
    (h : x.neighbour? exponent = some d) : Double.ofDecimal false d = .finite false x := by
  simp only [neighbour?] at h
  have hread := test_of_first (p := x.readsBack) h
  simpa [readsBack] using hread

theorem ofDecimal_exactDecimal (x : Magnitude) :
    Double.ofDecimal false x.exactDecimal = .finite false x := by
  rw [Double.ofDecimal_eq]
  -- a unit is `2 ^ -1074`, which `10 ^ 1074` clears
  have hten : (10 : Nat) ^ 1074 = Double.unitsPerOne * 5 ^ 1074 := by
    decide +kernel
  have hexp : (-(-1074 : Int)).toNat = 1074 := rfl
  have hzero : (-1074 : Int).toNat = 0 := rfl
  simp only [exactDecimal, hexp, hzero, Nat.pow_zero, Nat.mul_one, hten]
  rw [Double.ofRatio_mul false _ _ (Nat.pow_pos (by decide)), Double.ofRatio_units]

/-- The shortest decimal of a double reads back as it. -/
theorem ofDecimal_shortest (negative : Bool) (x : Magnitude) :
    Double.ofDecimal negative x.shortest = .finite negative x := by
  apply Double.ofDecimal_sign
  unfold shortest
  split
  · next hzero =>
    obtain ⟨significand, scale, hcanonical⟩ := x
    obtain rfl : significand = 0 := hzero
    obtain rfl : scale = 0 := by
      have := hcanonical.2.2
      omega
    rfl
  · dsimp only
    split
    · next d hfound =>
      obtain ⟨n, -, hn⟩ := List.exists_of_findSome?_eq_some hfound
      rw [Double.ofDecimal_dropZeros]
      exact ofDecimal_neighbour hn
    · exact ofDecimal_exactDecimal x

theorem shortest_eq_of_digits_eq_zero {x : Magnitude} (h : x.shortest.digits = 0) :
    x.shortest = ⟨0, 0⟩ := by
  have hread := ofDecimal_shortest false x
  have hzero : Double.ofDecimal false x.shortest = .finite false zero := by
    simp [Double.ofDecimal, h]
  have hx : x = zero := by
    rw [hread] at hzero
    exact (Double.finite.inj hzero).2
  simp [shortest, hx, zero]

end Magnitude
end ChatRecords
