import ChatRecords.Proofs.Flags.Mask
import Mathlib.Data.Finset.Card
import Mathlib.Data.Nat.BitIndices

/-!
# Flag sets as sets of positions

A mask is a finite set of positions. A flag set is two of them, its members and the bits that it
keeps, and each operation on flag sets is one on finite sets.

## Main definitions

* `maskBits`: the positions of the bits of a mask.
* `FlagClass.named`: the positions that have a name.
* `FlagClass.Combines`: an integer is a combination of named flags.
* `FlagView`: a flag set as sets of positions, with its operations.
* `FlagSet.view`, `FlagSet.members`: what a flag set is in this sense.

## Main results

* `FlagSet.view_inj`: nothing else tells two flag sets apart.
* `FlagSet.contains_iff`, `FlagSet.contains_two_pow_iff`: which members a flag set has.
* `FlagSet.view_add`, `FlagSet.view_union` and others: one law for each operation.
* `FlagSet.Sound.add`, `FlagSet.Sound.union` and others: each operation keeps a set sound.
-/

namespace ChatRecords

/-! ## Masks -/

/-- The positions of the bits of a mask. -/
def maskBits (mask : Nat) : Finset Nat := mask.bitIndices.toFinset

@[simp] theorem mem_maskBits {mask i : Nat} : i ∈ maskBits mask ↔ mask.testBit i = true := by
  rw [maskBits, List.mem_toFinset, Nat.mem_bitIndices]

theorem maskBits_inj {a b : Nat} : maskBits a = maskBits b ↔ a = b := by
  refine ⟨fun h => Nat.eq_of_testBit_eq fun i => ?_, congrArg maskBits⟩
  rw [Bool.eq_iff_iff, ← mem_maskBits, ← mem_maskBits, h]

@[simp] theorem maskBits_zero : maskBits 0 = ∅ := by
  simp [maskBits]

@[simp] theorem maskBits_two_pow (i : Nat) : maskBits (2 ^ i) = {i} := by
  ext j
  rw [mem_maskBits, Nat.testBit_two_pow, decide_eq_true_iff, Finset.mem_singleton, eq_comm]

theorem maskBits_or (a b : Nat) : maskBits (a ||| b) = maskBits a ∪ maskBits b := by
  ext i
  simp

theorem maskBits_and (a b : Nat) : maskBits (a &&& b) = maskBits a ∩ maskBits b := by
  ext i
  simp

theorem maskBits_maskDiff (a b : Nat) : maskBits (maskDiff a b) = maskBits a \ maskBits b := by
  ext i
  simp [testBit_maskDiff]

theorem and_eq_left_iff_maskBits {a b : Nat} : a &&& b = a ↔ maskBits a ⊆ maskBits b := by
  rw [← maskBits_inj, maskBits_and, Finset.inter_eq_left]

theorem and_eq_zero_iff_maskBits {a b : Nat} :
    a &&& b = 0 ↔ Disjoint (maskBits a) (maskBits b) := by
  rw [← maskBits_inj, maskBits_and, maskBits_zero, Finset.disjoint_iff_inter_eq_empty]

/-- A mask fits in a word of some width if all its bits lie in the word. -/
theorem lt_two_pow_iff_maskBits {mask n : Nat} : mask < 2 ^ n ↔ ∀ i ∈ maskBits mask, i < n := by
  constructor
  · intro h i hi
    rw [mem_maskBits] at hi
    exact (Nat.pow_lt_pow_iff_right (by decide)).1 (Nat.lt_of_le_of_lt (Nat.ge_two_pow_of_testBit hi) h)
  · intro h
    refine Nat.lt_pow_two_of_testBit mask fun i hi => ?_
    by_contra hbit
    exact Nat.not_lt.2 hi (h i (mem_maskBits.2 (by simpa using hbit)))

namespace FlagClass

variable {c : FlagClass}

/-- The positions that have a name. -/
def named (c : FlagClass) : Finset Nat := (c.members.map Prod.snd).toFinset

/-- All bits that have a name lie in a word of 64 bits. -/
def InWord (c : FlagClass) : Prop := ∀ m ∈ c.members, m.2 < 64

/-- An integer is a combination of named flags. -/
def Combines (c : FlagClass) (flag : Int) : Prop :=
  ∃ mask : Nat, flag = mask ∧ maskBits mask ⊆ c.named

@[simp] theorem mem_named {i : Nat} : i ∈ c.named ↔ ∃ m ∈ c.members, m.2 = i := by
  simp [named]

theorem maskBits_knownMask (c : FlagClass) : maskBits c.knownMask = c.named := by
  ext i
  rw [mem_maskBits, testBit_knownMask, mem_named]

theorem InWord.lt (h : c.InWord) {i : Nat} (hi : i ∈ c.named) : i < 64 := by
  obtain ⟨m, hm, rfl⟩ := mem_named.1 hi
  exact h m hm

theorem bitsOf_of_nonneg {flag : Int} (h : 0 ≤ flag) : c.bitsOf flag = flag.toNat := if_pos h

@[simp] theorem bitsOf_natCast (mask : Nat) : c.bitsOf mask = mask := by
  rw [bitsOf_of_nonneg (Int.natCast_nonneg mask), Int.toNat_natCast]

theorem Combines.nonneg {flag : Int} (h : c.Combines flag) : 0 ≤ flag := by
  obtain ⟨mask, rfl, -⟩ := h
  exact Int.natCast_nonneg mask

theorem Combines.maskBits_subset {flag : Int} (h : c.Combines flag) :
    maskBits (c.bitsOf flag) ⊆ c.named := by
  obtain ⟨mask, rfl, hmask⟩ := h
  rwa [bitsOf_natCast]

end FlagClass

/-! ## Views -/

/-- A flag set as sets of positions. -/
structure FlagView where
  flagClass : FlagClass
  members : Finset Nat
  /-- The positions of the bits without a name that are kept. -/
  kept : Finset Nat

namespace FlagView

-- A derived instance casts along equations of finite sets, which do not reduce.
instance : DecidableEq FlagView := fun a b =>
  decidable_of_iff (a.flagClass = b.flagClass ∧ a.members = b.members ∧ a.kept = b.kept) (by
    rw [FlagView.mk.injEq])

/-- The flags that some integers stand for, and the bits of a word without a name. -/
def ofFlags (c : FlagClass) (flags : List Int) (unknown : Int) : FlagView :=
  ⟨c, flags.foldl (fun members flag => members ∪ maskBits flag.toNat) ∅,
    maskBits (FlagSet.word unknown) \ c.named⟩

/-- The named bits of a word, and on request the others. -/
def ofMask (c : FlagClass) (mask : Int) (keepUnknown : Bool) : FlagView :=
  ⟨c, maskBits (FlagSet.word mask) ∩ c.named,
    if keepUnknown then maskBits (FlagSet.word mask) \ c.named else ∅⟩

def insert (flag : Int) (v : FlagView) : FlagView :=
  { v with members := v.members ∪ maskBits flag.toNat }

def erase (flag : Int) (v : FlagView) : FlagView :=
  { v with members := v.members \ maskBits flag.toNat }

def forget (v : FlagView) : FlagView := { v with kept := ∅ }

def union (a b : FlagView) : FlagView := ⟨a.flagClass, a.members ∪ b.members, ∅⟩

def difference (a b : FlagView) : FlagView := ⟨a.flagClass, a.members \ b.members, ∅⟩

end FlagView

namespace FlagSet

variable {s a b : FlagSet} {c : FlagClass}

def members (s : FlagSet) : Finset Nat := maskBits s.mask

/-- A flag set as sets of positions. -/
def view (s : FlagSet) : FlagView := ⟨s.flagClass, s.members, maskBits s.unknown⟩

/-- Two flag sets with the same class, members and kept bits are the same. -/
theorem view_inj : a.view = b.view ↔ a = b := by
  refine ⟨fun h => ?_, congrArg view⟩
  obtain ⟨hclass, hmask, hunknown⟩ := FlagView.mk.inj h
  obtain ⟨c, mask, unknown⟩ := a
  obtain rfl : c = b.flagClass := hclass
  obtain rfl : mask = b.mask := maskBits_inj.1 hmask
  obtain rfl : unknown = b.unknown := maskBits_inj.1 hunknown
  rfl

/-! ### What can be asked -/

theorem contains_iff {flag : Int} :
    s.contains flag = true ↔ maskBits (s.flagClass.bitsOf flag) ⊆ s.members := by
  rw [contains, beq_iff_eq, and_eq_left_iff_maskBits, members]

/-- A single flag is contained if its position is one of the members. -/
theorem contains_two_pow_iff {i : Nat} : s.contains (2 ^ i : Nat) = true ↔ i ∈ s.members := by
  rw [contains_iff, FlagClass.bitsOf_natCast, maskBits_two_pow, Finset.singleton_subset_iff]

theorem mem_positions {i : Nat} : i ∈ s.positions ↔ i ∈ s.members := by
  rw [positions, List.mem_filter, List.mem_range, members, mem_maskBits, and_iff_right_iff_imp]
  intro h
  have hmask : s.mask ≠ 0 := by
    intro hzero
    simp [hzero] at h
  rw [FlagClass.bitLength, if_neg hmask, Nat.lt_succ_iff, Nat.le_log2 hmask]
  exact Nat.ge_two_pow_of_testBit h

/-! ### What the operations do -/

theorem view_empty (c : FlagClass) : (empty c).view = ⟨c, ∅, ∅⟩ := by
  simp [view, members, empty]

theorem foldl_maskBits {flags : List Int} (h : ∀ flag ∈ flags, 0 ≤ flag) (mask : Nat) :
    maskBits (flags.foldl (fun mask flag => mask ||| c.bitsOf flag) mask) =
      flags.foldl (fun members flag => members ∪ maskBits flag.toNat) (maskBits mask) := by
  induction flags generalizing mask with
  | nil => rfl
  | cons flag rest ih =>
    rw [List.forall_mem_cons] at h
    rw [List.foldl_cons, List.foldl_cons, ih h.2, maskBits_or, FlagClass.bitsOf_of_nonneg h.1]

theorem view_ofFlags {flags : List Int} (h : ∀ flag ∈ flags, 0 ≤ flag) (unknown : Int) :
    (ofFlags c flags unknown).view = .ofFlags c flags unknown := by
  rw [view, members, ofFlags, FlagView.ofFlags, foldl_maskBits h, maskBits_zero,
    maskBits_maskDiff, FlagClass.maskBits_knownMask, word]

theorem view_ofMask {mask : Int} {keep : Bool} {r : FlagSet × Bool}
    (h : ofMask c mask keep = .ok r) : r.1.view = .ofMask c mask keep := by
  unfold ofMask at h
  split at h
  · cases h
  · obtain rfl := Except.ok.inj h
    simp only [view, members, FlagView.ofMask, maskBits_and, FlagClass.maskBits_knownMask]
    cases keep
    · simp [word]
    · simp [word, maskBits_maskDiff, FlagClass.maskBits_knownMask]

theorem view_add {flag : Int} (h : 0 ≤ flag) : (s.add flag).view = s.view.insert flag := by
  simp only [view, members, add, FlagView.insert, maskBits_or, FlagClass.bitsOf_of_nonneg h]

theorem view_remove {flag : Int} (h : 0 ≤ flag) : (s.remove flag).view = s.view.erase flag := by
  simp only [view, members, remove, FlagView.erase, maskBits_maskDiff,
    FlagClass.bitsOf_of_nonneg h]

theorem view_dropUnknown (s : FlagSet) : s.dropUnknown.view = s.view.forget := by
  simp only [view, members, dropUnknown, FlagView.forget, maskBits_zero]

theorem view_union (a b : FlagSet) : (a.union b).view = a.view.union b.view := by
  simp only [view, members, union, FlagView.union, maskBits_or, maskBits_zero]

theorem view_difference (a b : FlagSet) : (a.difference b).view = a.view.difference b.view := by
  simp only [view, members, difference, FlagView.difference, maskBits_maskDiff, maskBits_zero]

/-! ### Sound sets -/

/-- The members of a sound set have names, and the bits that it keeps do not. -/
theorem sound_iff : s.Sound ↔ s.members ⊆ s.flagClass.named ∧
    Disjoint (maskBits s.unknown) s.flagClass.named ∧ s.mask < 2 ^ 64 ∧ s.unknown < 2 ^ 64 := by
  rw [← FlagClass.maskBits_knownMask, members, ← and_eq_left_iff_maskBits,
    ← and_eq_zero_iff_maskBits]
  exact ⟨fun h => ⟨h.1, h.2, h.3, h.4⟩, fun h => ⟨h.1, h.2.1, h.2.2.1, h.2.2.2⟩⟩

/-- Members with names fit in a word, if all names do. -/
theorem mask_lt_of_members (hclass : s.flagClass.InWord) (h : s.members ⊆ s.flagClass.named) :
    s.mask < 2 ^ 64 :=
  lt_two_pow_iff_maskBits.2 fun _ hi => hclass.lt (h hi)

theorem sound_ofFlags (hclass : c.InWord) {flags : List Int} (h : ∀ flag ∈ flags, c.Combines flag)
    (unknown : Int) : (ofFlags c flags unknown).Sound := by
  have hmembers : (ofFlags c flags unknown).members ⊆ c.named := by
    have hfold (mask : Nat) (hmask : maskBits mask ⊆ c.named) :
        maskBits (flags.foldl (fun mask flag => mask ||| c.bitsOf flag) mask) ⊆ c.named := by
      induction flags generalizing mask with
      | nil => exact hmask
      | cons flag rest ih =>
        rw [List.forall_mem_cons] at h
        refine ih h.2 _ ?_
        rw [maskBits_or]
        exact Finset.union_subset hmask h.1.maskBits_subset
    exact hfold 0 (by simp)
  refine sound_iff.2 ⟨hmembers, ?_, mask_lt_of_members hclass hmembers,
    maskDiff_lt (word_lt unknown) _⟩
  rw [ofFlags, maskBits_maskDiff, FlagClass.maskBits_knownMask]
  exact Finset.sdiff_disjoint

theorem sound_of_ofMask_ok {mask : Int} {keep : Bool} {r : FlagSet × Bool}
    (h : ofMask c mask keep = .ok r) : r.1.flagClass = c ∧ r.1.Sound := by
  cases keep with
  | true => exact sound_of_ofMask h
  | false =>
    have hkeep := ofMask_eq (c := c) (fitsWord_of_ofMask h)
    obtain ⟨hclass, hsound⟩ := sound_of_ofMask hkeep
    rw [ofMask_false, hkeep] at h
    rw [← Except.ok.inj h]
    exact ⟨hclass, hsound.dropUnknown⟩

theorem Sound.add (hs : s.Sound) (hclass : s.flagClass.InWord) {flag : Int}
    (h : s.flagClass.Combines flag) : (s.add flag).Sound := by
  obtain ⟨hmembers, hkept, -, hunknown⟩ := sound_iff.1 hs
  have hadded : (s.add flag).members ⊆ s.flagClass.named := by
    rw [members, FlagSet.add, maskBits_or]
    exact Finset.union_subset hmembers h.maskBits_subset
  exact sound_iff.2 ⟨hadded, hkept, mask_lt_of_members hclass hadded, hunknown⟩

theorem Sound.remove (hs : s.Sound) (flag : Int) : (s.remove flag).Sound := by
  obtain ⟨hmembers, hkept, hmask, hunknown⟩ := sound_iff.1 hs
  refine sound_iff.2 ⟨?_, hkept, maskDiff_lt hmask _, hunknown⟩
  rw [members, FlagSet.remove, maskBits_maskDiff]
  exact Finset.sdiff_subset.trans hmembers

theorem Sound.union (ha : a.Sound) (hb : b.Sound) (hclass : a.flagClass = b.flagClass) :
    (a.union b).Sound := by
  obtain ⟨hmembers, -, hmask, -⟩ := sound_iff.1 ha
  obtain ⟨hmembers', -, hmask', -⟩ := sound_iff.1 hb
  refine sound_iff.2 ⟨?_, by simp [FlagSet.union], Nat.or_lt_two_pow hmask hmask', Nat.two_pow_pos 64⟩
  rw [members, FlagSet.union, maskBits_or]
  rw [← hclass] at hmembers'
  exact Finset.union_subset hmembers hmembers'

theorem Sound.difference (ha : a.Sound) (b : FlagSet) : (a.difference b).Sound := by
  obtain ⟨hmembers, -, hmask, -⟩ := sound_iff.1 ha
  refine sound_iff.2 ⟨?_, by simp [FlagSet.difference], maskDiff_lt hmask _, Nat.two_pow_pos 64⟩
  rw [members, FlagSet.difference, maskBits_maskDiff]
  exact Finset.sdiff_subset.trans hmembers

/-- A copy of a set without unknown bits is equal to it. -/
theorem copy_eq_of_unknown (h : s.unknown = 0) : s.copy = s := by
  obtain ⟨c, mask, unknown⟩ := s
  obtain rfl : unknown = 0 := h
  simp [copy, ofFlags, maskDiff]

/-- A copy of a sound set is equal to it. -/
theorem Sound.copy_eq (hs : s.Sound) : s.copy = s := by
  have hword : ((s.unknown : Int) % (wordSize : Int)).toNat = s.unknown := by
    have hlt := hs.unknown_lt
    unfold wordSize
    omega
  have hunknown : maskDiff s.unknown s.flagClass.knownMask = s.unknown := by
    rw [← maskBits_inj, maskBits_maskDiff, FlagClass.maskBits_knownMask]
    exact Finset.sdiff_eq_self_of_disjoint (sound_iff.1 hs).2.1
  rw [copy, ofFlags, hword, hunknown]

/-- Two sound sets of a class are equal if they contain the same named flags and keep the same
bits. -/
theorem Sound.eq_iff (ha : a.Sound) (hb : b.Sound) : a = b ↔ a.flagClass = b.flagClass ∧
    (∀ m ∈ a.flagClass.members, a.contains (2 ^ m.2 : Nat) = b.contains (2 ^ m.2 : Nat)) ∧
    a.unknown = b.unknown := by
  constructor
  · rintro rfl
    exact ⟨rfl, fun _ _ => rfl, rfl⟩
  · rintro ⟨hclass, hcontains, hunknown⟩
    have hmembers : a.members = b.members := by
      have hnamed := (sound_iff.1 ha).1
      have hnamed' := (sound_iff.1 hb).1
      rw [← hclass] at hnamed'
      ext i
      by_cases hi : i ∈ a.flagClass.named
      · obtain ⟨m, hm, rfl⟩ := FlagClass.mem_named.1 hi
        rw [← contains_two_pow_iff, ← contains_two_pow_iff, hcontains m hm]
      · exact iff_of_false (fun h => hi (hnamed h)) fun h => hi (hnamed' h)
    rw [← view_inj, view, view, hclass, hmembers, hunknown]

end FlagSet
end ChatRecords
