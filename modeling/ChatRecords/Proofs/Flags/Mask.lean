import ChatRecords.Flags.Catalog
import Mathlib.Data.List.Basic
import Mathlib.Data.Nat.Bitwise

/-!
# Flag sets and their masks

A flag set and its wire form determine each other, as long as unknown bits are kept.

## Main definitions

* `FlagSet.Sound`: the members have names, the unknown bits do not, and all fit in a word.
* `FlagSet.knownPart`: the named bits of a wire form, as a wire form.

## Main results

* `FlagSet.ofMask_toMask`: a set reads back from its wire form.
* `FlagSet.toMask_of_ofMask`: the wire form of what was read from a wire form is the same.
-/

namespace ChatRecords

/-! ## Masks -/

theorem testBit_maskDiff (a b i : Nat) :
    (maskDiff a b).testBit i = (a.testBit i && !b.testBit i) := by
  rw [maskDiff, Nat.testBit_xor, Nat.testBit_and]
  cases a.testBit i <;> cases b.testBit i <;> rfl

/-- A mask is its part within another and its part outside. -/
theorem and_or_maskDiff (a b : Nat) : a &&& b ||| maskDiff a b = a := by
  apply Nat.eq_of_testBit_eq
  intro i
  rw [Nat.testBit_or, Nat.testBit_and, testBit_maskDiff]
  cases a.testBit i <;> cases b.testBit i <;> rfl

theorem maskDiff_and (a b : Nat) : maskDiff a b &&& b = 0 := by
  apply Nat.eq_of_testBit_eq
  intro i
  rw [Nat.testBit_and, testBit_maskDiff, Nat.zero_testBit]
  cases a.testBit i <;> cases b.testBit i <;> rfl

theorem maskDiff_lt {a n : Nat} (h : a < 2 ^ n) (b : Nat) : maskDiff a b < 2 ^ n :=
  Nat.xor_lt_two_pow h (Nat.lt_of_le_of_lt Nat.and_le_left h)

theorem maskDiff_ne_zero_iff {a b : Nat} :
    (maskDiff a b != 0) = true ↔ ∃ i, a.testBit i = true ∧ b.testBit i = false := by
  have hbit (i : Nat) :
      (maskDiff a b).testBit i = true ↔ a.testBit i = true ∧ b.testBit i = false := by
    rw [testBit_maskDiff, Bool.and_eq_true, Bool.not_eq_true']
  rw [bne_iff_ne]
  constructor
  · intro h
    obtain ⟨i, hi⟩ := Nat.exists_testBit_of_ne_zero h
    exact ⟨i, (hbit i).1 hi⟩
  · rintro ⟨i, hi⟩ hzero
    have hi' := (hbit i).2 hi
    rw [hzero, Nat.zero_testBit] at hi'
    cases hi'

theorem FlagClass.testBit_foldl_members (members : List (String × Nat)) (mask i : Nat) :
    (members.foldl (fun mask m => mask ||| 2 ^ m.2) mask).testBit i = true ↔
      mask.testBit i = true ∨ ∃ m ∈ members, m.2 = i := by
  induction members generalizing mask with
  | nil => simp
  | cons m rest ih =>
    rw [List.foldl_cons, ih, Nat.testBit_or, Nat.testBit_two_pow, Bool.or_eq_true, decide_eq_true_iff,
      List.exists_mem_cons_iff, or_assoc]

/-- The mask of all named bits has the bits at the positions of the members. -/
theorem FlagClass.testBit_knownMask {c : FlagClass} {i : Nat} :
    c.knownMask.testBit i = true ↔ ∃ m ∈ c.members, m.2 = i := by
  rw [knownMask, testBit_foldl_members, Nat.zero_testBit]
  simp

namespace FlagSet

/-- An integer fits in a word with a sign. -/
def FitsWord (mask : Int) : Prop := -(2 ^ 63 : Int) ≤ mask ∧ mask < (2 ^ 63 : Int)

/-- The bits of an integer as a word. -/
def word (mask : Int) : Nat := (mask % (wordSize : Int)).toNat

/-- The integer with a sign that a word stands for. -/
def signed (word : Nat) : Int := if 2 ^ 63 ≤ word then (word : Int) - wordSize else word

/-- The named bits of a wire form, as a wire form. -/
def knownPart (c : FlagClass) (mask : Int) : Int := signed (word mask &&& c.knownMask)

theorem word_lt (mask : Int) : word mask < 2 ^ 64 := by
  unfold word wordSize
  omega

theorem signed_word {mask : Int} (h : FitsWord mask) : signed (word mask) = mask := by
  unfold FitsWord at h
  unfold signed word wordSize
  split <;> omega

theorem word_signed {w : Nat} (h : w < 2 ^ 64) : word (signed w) = w := by
  unfold signed word wordSize
  split <;> omega

theorem fitsWord_signed {w : Nat} (h : w < 2 ^ 64) : FitsWord (signed w) := by
  unfold signed FitsWord wordSize
  split <;> omega

/-- The members have names, the unknown bits do not, and all fit in a word. -/
structure Sound (s : FlagSet) : Prop where
  mask_and : s.mask &&& s.flagClass.knownMask = s.mask
  unknown_and : s.unknown &&& s.flagClass.knownMask = 0
  mask_lt : s.mask < 2 ^ 64
  /-- The unknown bits fit in a word. -/
  unknown_lt : s.unknown < 2 ^ 64

theorem ofMask_eq {c : FlagClass} {mask : Int} (h : FitsWord mask) : ofMask c mask true =
    .ok (⟨c, word mask &&& c.knownMask, maskDiff (word mask) c.knownMask⟩,
      maskDiff (word mask) c.knownMask != 0) := by
  have hrange : ¬(mask < -(2 ^ 63 : Int) ∨ (2 ^ 63 : Int) ≤ mask) := by
    unfold FitsWord at h
    omega
  rw [ofMask, if_neg hrange]
  rfl

/-- Without keeping the bits that have no name, a mask is read as the set without them. -/
theorem ofMask_false (c : FlagClass) (mask : Int) :
    ofMask c mask false = (ofMask c mask true).map fun r => (r.1.dropUnknown, r.2) := by
  unfold ofMask
  split <;> rfl

theorem fitsWord_of_ofMask {c : FlagClass} {mask : Int} {keep : Bool} {r : FlagSet × Bool}
    (h : ofMask c mask keep = .ok r) : FitsWord mask := by
  unfold ofMask at h
  split at h
  · simp at h
  · next hrange =>
    unfold FitsWord
    omega

theorem not_fitsWord_of_ofMask {c : FlagClass} {mask : Int} {keep : Bool} {refusal : MaskRefusal}
    (h : ofMask c mask keep = .error refusal) : ¬FitsWord mask := by
  unfold ofMask at h
  split at h
  · unfold FitsWord
    omega
  · cases h

theorem sound_of_ofMask {c : FlagClass} {mask : Int} {r : FlagSet × Bool}
    (h : ofMask c mask true = .ok r) : r.1.flagClass = c ∧ r.1.Sound := by
  rw [ofMask_eq (fitsWord_of_ofMask h)] at h
  rw [← Except.ok.inj h]
  refine ⟨rfl, ?_, maskDiff_and _ _, Nat.lt_of_le_of_lt Nat.and_le_left (word_lt mask),
    maskDiff_lt (word_lt mask) _⟩
  rw [Nat.and_assoc, Nat.and_self]

theorem ofMask_of_not_fitsWord (c : FlagClass) {mask : Int} (keep : Bool) (h : ¬FitsWord mask) :
    ofMask c mask keep = .error (.outOfRange mask) := by
  rw [ofMask, if_pos]
  unfold FitsWord at h
  omega

/-- The wire form of what was read from a wire form is the same. -/
theorem toMask_of_ofMask {c : FlagClass} {mask : Int} {r : FlagSet × Bool}
    (h : ofMask c mask true = .ok r) : r.1.toMask = mask := by
  have hfits := fitsWord_of_ofMask h
  rw [ofMask_eq hfits] at h
  rw [← Except.ok.inj h]
  change signed (word mask &&& c.knownMask ||| maskDiff (word mask) c.knownMask) = mask
  rw [and_or_maskDiff, signed_word hfits]

theorem toMask_dropUnknown_of_ofMask {c : FlagClass} {mask : Int} {r : FlagSet × Bool}
    (h : ofMask c mask true = .ok r) : r.1.dropUnknown.toMask = knownPart c mask := by
  rw [ofMask_eq (fitsWord_of_ofMask h)] at h
  rw [← Except.ok.inj h]
  change signed (word mask &&& c.knownMask ||| 0) = knownPart c mask
  rw [Nat.or_zero, knownPart]

/-- What is read from an integer that fits in a word with a sign. -/
theorem ofMask_of_fitsWord (c : FlagClass) {mask : Int} (keep : Bool) (h : FitsWord mask) :
    ∃ s lossy, ofMask c mask keep = .ok (s, lossy) ∧ s.flagClass = c ∧
      s.mask = word mask &&& c.knownMask ∧
      (lossy = true ↔ ∃ i, (word mask).testBit i = true ∧ c.knownMask.testBit i = false) ∧
      s.toMask = if keep then mask else signed (word mask &&& c.knownMask) := by
  have hkept := ofMask_eq (c := c) h
  cases keep with
  | true => exact ⟨_, _, hkept, rfl, rfl, maskDiff_ne_zero_iff, toMask_of_ofMask hkept⟩
  | false =>
    rw [ofMask_false, hkept]
    exact ⟨_, _, rfl, rfl, rfl, maskDiff_ne_zero_iff, toMask_dropUnknown_of_ofMask hkept⟩

theorem sound_empty (c : FlagClass) : (empty c).Sound :=
  ⟨Nat.zero_and _, Nat.zero_and _, Nat.two_pow_pos 64, Nat.two_pow_pos 64⟩

theorem Sound.dropUnknown {s : FlagSet} (h : s.Sound) : s.dropUnknown.Sound :=
  ⟨h.mask_and, Nat.zero_and _, h.mask_lt, Nat.two_pow_pos 64⟩

/-- A set reads back from its wire form. -/
theorem ofMask_toMask {s : FlagSet} (h : s.Sound) :
    ofMask s.flagClass s.toMask true = .ok (s, s.unknown != 0) := by
  obtain ⟨c, mask, unknown⟩ := s
  obtain ⟨hmask, hunknown, hmaskLt, hunknownLt⟩ := h
  have hlt : mask ||| unknown < 2 ^ 64 := Nat.or_lt_two_pow hmaskLt hunknownLt
  have hmembers : (mask ||| unknown) &&& c.knownMask = mask := by
    rw [Nat.and_or_distrib_right]
    simp only at hmask hunknown
    rw [hmask, hunknown, Nat.or_zero]
  have hrest : maskDiff (mask ||| unknown) c.knownMask = unknown := by
    apply Nat.eq_of_testBit_eq
    intro i
    have hm := congrArg (Nat.testBit · i) hmask
    have hu := congrArg (Nat.testBit · i) hunknown
    simp only [Nat.testBit_and, Nat.zero_testBit] at hm hu
    rw [testBit_maskDiff, Nat.testBit_or]
    revert hm hu
    cases mask.testBit i <;> cases unknown.testBit i <;> cases c.knownMask.testBit i <;> simp
  change ofMask c (signed (mask ||| unknown)) true = _
  rw [ofMask_eq (fitsWord_signed hlt), word_signed hlt, hmembers, hrest]

end FlagSet
end ChatRecords
