import ChatRecords.Flags.Basic

/-!
# Going through a flag set

The members of a flag set are found one after another: the lowest bit of the mask is a member, and
is taken off before the next is looked for.

## Main definitions

* `lowestBit`: the lowest bit of a mask.
* `singleBits`: the bits of a mask, one after another.
* `FlagSet.iterate`: the members of a flag set, one after another.
* `bitCount`: how many bits a mask has.

## Main statements

* `exists_lowestBit`: the lowest bit is one of the mask, and there is less without it.
-/

namespace ChatRecords

/-- The bits that a mask and its negative share. The negative is the complement to a power of two
beyond the mask; what it has from there on meets no bit of the mask. -/
def lowestBit (mask : Nat) : Nat := mask &&& (2 ^ FlagClass.bitLength mask - mask)

theorem lt_two_pow_bitLength (mask : Nat) : mask < 2 ^ FlagClass.bitLength mask := by
  rw [FlagClass.bitLength]
  split
  · omega
  · exact Nat.lt_log2_self

/-- A number that is not zero is odd but for a power of two. -/
theorem exists_odd_part {n : Nat} (h : n ≠ 0) : ∃ i q, n = 2 ^ (i + 1) * q + 2 ^ i := by
  induction n using Nat.strongRecOn with
  | ind n ih =>
    rcases Nat.mod_two_eq_zero_or_one n with heven | hodd
    · obtain ⟨i, q, hhalf⟩ := ih (n / 2) (by omega) (by omega)
      refine ⟨i + 1, q, ?_⟩
      have hdouble : n = 2 * (n / 2) := by omega
      rw [hdouble, hhalf, Nat.mul_add, ← Nat.mul_assoc, ← Nat.pow_succ', ← Nat.pow_succ']
    · exact ⟨0, n / 2, by omega⟩

/-- A bit is one of the lowest if it is one of the mask and none of the number before it. -/
theorem testBit_lowestBit {mask : Nat} (h : mask ≠ 0) (i : Nat) :
    (lowestBit mask).testBit i = (mask.testBit i && !(mask - 1).testBit i) := by
  have hlt := lt_two_pow_bitLength mask
  have hnegative : 2 ^ FlagClass.bitLength mask - mask =
      2 ^ FlagClass.bitLength mask - (mask - 1 + 1) := by
    rw [Nat.sub_add_cancel (Nat.pos_of_ne_zero h)]
  rw [lowestBit, Nat.testBit_and, hnegative,
    Nat.testBit_two_pow_sub_succ (Nat.lt_of_le_of_lt (Nat.sub_le _ _) hlt)]
  cases hbit : mask.testBit i with
  | false => rfl
  | true =>
    have hi : i < FlagClass.bitLength mask :=
      (Nat.pow_lt_pow_iff_right (by decide)).1
        (Nat.lt_of_le_of_lt (Nat.ge_two_pow_of_testBit hbit) hlt)
    rw [decide_eq_true hi, Bool.true_and]

/-- The lowest bit of an odd multiple of a power of two is the power. -/
theorem lowestBit_eq (i q : Nat) : lowestBit (2 ^ (i + 1) * q + 2 ^ i) = 2 ^ i := by
  have hpos := Nat.two_pow_pos i
  have hlt : 2 ^ i < 2 ^ (i + 1) := Nat.pow_lt_pow_right (by decide) (Nat.lt_succ_self i)
  have hbefore : 2 ^ (i + 1) * q + 2 ^ i - 1 = 2 ^ (i + 1) * q + (2 ^ i - 1) :=
    Nat.add_sub_assoc hpos _
  apply Nat.eq_of_testBit_eq
  intro j
  rw [testBit_lowestBit (by omega), hbefore, Nat.testBit_two_pow_mul_add _ hlt,
    Nat.testBit_two_pow_mul_add _ (Nat.lt_of_le_of_lt (Nat.sub_le _ _) hlt)]
  split
  · rw [Nat.testBit_two_pow, Nat.testBit_two_pow_sub_one]
    by_cases hij : i = j
    · simp [hij]
    · simp [hij]
  · next hj =>
    -- above the lowest bit, the mask and the number before it are the same
    rw [Bool.and_not_self, Nat.testBit_two_pow, eq_comm, decide_eq_false_iff_not]
    omega

theorem xor_two_pow (i q : Nat) : (2 ^ (i + 1) * q + 2 ^ i) ^^^ 2 ^ i = 2 ^ (i + 1) * q := by
  have hlt : 2 ^ i < 2 ^ (i + 1) := Nat.pow_lt_pow_right (by decide) (Nat.lt_succ_self i)
  apply Nat.eq_of_testBit_eq
  intro j
  rw [Nat.testBit_xor, Nat.testBit_two_pow_mul_add _ hlt, Nat.testBit_two_pow_mul]
  split
  · next hj => simp [Nat.not_le.2 hj]
  · next hj =>
    have hij : i ≠ j := by omega
    simp [Nat.not_lt.1 hj, hij]

/-- A mask is its lowest bit and a multiple of twice that bit, which is left when the bit is taken
off. -/
theorem exists_lowestBit {mask : Nat} (h : mask ≠ 0) : ∃ i q, mask = 2 ^ (i + 1) * q + 2 ^ i ∧
    lowestBit mask = 2 ^ i ∧ mask ^^^ lowestBit mask = 2 ^ (i + 1) * q := by
  obtain ⟨i, q, rfl⟩ := exists_odd_part h
  exact ⟨i, q, rfl, lowestBit_eq i q, by rw [lowestBit_eq, xor_two_pow]⟩

theorem xor_lowestBit_lt {mask : Nat} (h : mask ≠ 0) : mask ^^^ lowestBit mask < mask := by
  obtain ⟨i, q, hmask, -, hrest⟩ := exists_lowestBit h
  have hpos := Nat.two_pow_pos i
  omega

/-- The bits of a mask, each as a mask: the lowest one first, and then those of what is left. -/
def singleBits (mask : Nat) : List Nat :=
  if mask = 0 then [] else lowestBit mask :: singleBits (mask ^^^ lowestBit mask)
termination_by mask
decreasing_by exact xor_lowestBit_lt ‹_›

/-- How many bits a mask has: the ones in its binary form. -/
def bitCount (mask : Nat) : Nat := (Nat.toDigits 2 mask).count '1'

namespace FlagClass

/-- The name of a flag that is a single bit. -/
def flagName? (c : FlagClass) (flag : Nat) : Option String :=
  (c.members.find? fun m => decide (2 ^ m.2 = flag)).map Prod.fst

end FlagClass

namespace FlagSet

/-- The members, one after another, each as a name, if it has one, and a mask. -/
def iterate (s : FlagSet) : List (Option String × Nat) :=
  (singleBits s.mask).map fun flag => (s.flagClass.flagName? flag, flag)

/-- How many members there are. -/
def bitCount (s : FlagSet) : Nat := ChatRecords.bitCount s.mask

end FlagSet
end ChatRecords
