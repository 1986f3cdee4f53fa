import ChatRecords.Flags.Iteration
import ChatRecords.Proofs.Flags.Members

/-!
# The members of a flag set, one after another

Taking the lowest bit off a mask until nothing is left meets every member once, from the lowest bit
on. The names of the members, joined by bars, tell the members, as no name has a bar in it.

## Main definitions

* `FlagClass.HasWords`: the names are distinct, not empty, and without bars.
* `FlagSet.names`: the names of the members, in the order of their bits.

## Main results

* `singleBits_eq`: the single bits of a mask are its powers of two.
* `FlagSet.iterate_eq_toList`: going through a flag set lists its members by their positions.
* `intercalate_bar_inj`: joined by bars, words without bars can be told apart.
* `FlagSet.iterate_of_named`: what is met in a flag set whose members have names.
-/

namespace ChatRecords

/-! ## Masks -/

theorem bitIndices_odd_part (i q : Nat) :
    (2 ^ (i + 1) * q + 2 ^ i).bitIndices = i :: (2 ^ (i + 1) * q).bitIndices := by
  have hodd : 2 ^ (i + 1) * q + 2 ^ i = 2 ^ i * (2 * q + 1) := by
    rw [Nat.pow_succ, Nat.mul_assoc, Nat.mul_add, Nat.mul_one]
  rw [hodd, Nat.bitIndices_two_pow_mul, Nat.bitIndices_two_mul_add_one, List.map_cons, List.map_map,
    Nat.bitIndices_two_pow_mul, Nat.zero_add]
  congr 2
  funext j
  simp only [Function.comp_apply]
  omega

/-- Taken off from the lowest on, the bits of a mask are those at its positions. -/
theorem singleBits_eq (mask : Nat) : singleBits mask = mask.bitIndices.map (2 ^ ·) := by
  induction mask using singleBits.induct with
  | case1 => simp [singleBits]
  | case2 mask h ih =>
    obtain ⟨i, q, hmask, hlowest, hrest⟩ := exists_lowestBit h
    rw [singleBits, if_neg h, ih, hrest, hlowest]
    conv_rhs => rw [hmask, bitIndices_odd_part, List.map_cons]

/-- In binary, a number has a one for each of its bits. -/
theorem bitCount_eq (mask : Nat) : bitCount mask = mask.bitIndices.length := by
  induction mask using Nat.strongRecOn with
  | ind mask ih =>
    by_cases hlt : mask < 2
    · obtain rfl | rfl : mask = 0 ∨ mask = 1 := by omega
      · rfl
      · rw [Nat.bitIndices_one]
        rfl
    · have hhalf := ih (mask / 2) (by omega)
      rw [bitCount] at hhalf ⊢
      rw [Nat.toDigits_of_base_le (by decide) (by omega), List.count_append, hhalf]
      rcases Nat.mod_two_eq_zero_or_one mask with heven | hodd
      · have hmask : mask = 2 * (mask / 2) := by omega
        conv_rhs => rw [hmask, Nat.bitIndices_two_mul, List.length_map]
        rw [heven]
        rfl
      · have hmask : mask = 2 * (mask / 2) + 1 := by omega
        conv_rhs => rw [hmask, Nat.bitIndices_two_mul_add_one, List.length_cons, List.length_map]
        rw [hodd]
        rfl

theorem testBit_foldl_or (bits : List Nat) (mask i : Nat) :
    (bits.foldl (· ||| ·) mask).testBit i = true ↔
      mask.testBit i = true ∨ ∃ bit ∈ bits, bit.testBit i = true := by
  induction bits generalizing mask with
  | nil => simp
  | cons bit rest ih =>
    rw [List.foldl_cons, ih, Nat.testBit_or, Bool.or_eq_true, List.exists_mem_cons_iff, or_assoc]

/-- The bits of a mask make it up. -/
theorem foldl_or_bitIndices (mask : Nat) :
    (mask.bitIndices.map (2 ^ ·)).foldl (· ||| ·) 0 = mask := by
  refine Nat.eq_of_testBit_eq fun i => ?_
  rw [Bool.eq_iff_iff, testBit_foldl_or, ← Nat.mem_bitIndices]
  simp [Nat.testBit_two_pow]

/-! ## Names -/

/-- A list of words that were joined by bars, read back. -/
def wordsOf (text : String) : List String :=
  if text = "" then [] else (text.toList.splitOn '|').map String.ofList

theorem wordsOf_intercalate {words : List String} (h : ∀ w ∈ words, w ≠ "" ∧ '|' ∉ w.toList) :
    wordsOf ("|".intercalate words) = words := by
  by_cases hwords : words = []
  · simp [hwords, wordsOf]
  · have hsplit : ("|".intercalate words).toList.splitOn '|' = words.map String.toList := by
      have hbar : "|".toList = ['|'] := rfl
      rw [String.toList_intercalate, hbar]
      refine List.splitOn_intercalate '|' ?_ (by simpa using hwords)
      rw [List.forall_mem_map]
      exact fun w hw => (h w hw).2
    have hne : "|".intercalate words ≠ "" := by
      intro hempty
      rw [hempty] at hsplit
      -- a text without characters would be a single empty word
      have hone : words.map String.toList = [[]] := hsplit.symm
      obtain ⟨w, rfl⟩ : ∃ w, words = [w] := List.length_eq_one_iff.1 (by
        rw [← List.length_map (f := String.toList), hone]
        rfl)
      exact (h w (List.mem_singleton_self w)).1 (by simpa using hone)
    rw [wordsOf, if_neg hne, hsplit, List.map_map]
    simp [Function.comp_def]

/-- Words that are not empty and have no bars can be told from their joined text. -/
theorem intercalate_bar_inj {words words' : List String}
    (h : ∀ w ∈ words, w ≠ "" ∧ '|' ∉ w.toList) (h' : ∀ w ∈ words', w ≠ "" ∧ '|' ∉ w.toList) :
    "|".intercalate words = "|".intercalate words' ↔ words = words' := by
  refine ⟨fun heq => ?_, congrArg _⟩
  rw [← wordsOf_intercalate h, heq, wordsOf_intercalate h']

namespace FlagClass

/-- The names of the bits are distinct, none is empty, and none has a bar in it. -/
structure HasWords (c : FlagClass) : Prop where
  nodup : (c.members.map Prod.fst).Nodup
  ne_empty : ∀ m ∈ c.members, m.1 ≠ ""
  /-- A bar stands between names only. -/
  no_bar : ∀ m ∈ c.members, '|' ∉ m.1.toList

variable {c : FlagClass} {i j : Nat} {name : String}

theorem flagName?_two_pow (c : FlagClass) (i : Nat) : c.flagName? (2 ^ i) = c.bitName? i := by
  simp only [flagName?, bitName?, Nat.pow_right_inj (Nat.lt_succ_self 1)]

theorem mem_of_bitName? (h : c.bitName? i = some name) : (name, i) ∈ c.members := by
  obtain ⟨m, hm, rfl⟩ := Option.map_eq_some_iff.1 h
  have hi : m.2 = i := by simpa using List.find?_some hm
  subst hi
  exact List.mem_of_find?_eq_some hm

theorem exists_bitName? (h : i ∈ c.named) : ∃ name, c.bitName? i = some name := by
  obtain ⟨m, hm, rfl⟩ := mem_named.1 h
  rw [← Option.isSome_iff_exists, bitName?, Option.isSome_map, List.find?_isSome]
  exact ⟨m, hm, decide_eq_true rfl⟩

/-- Where names are distinct, each is that of one bit. -/
theorem HasWords.eq_of_bitName? (hc : c.HasWords) (hi : c.bitName? i = some name)
    (hj : c.bitName? j = some name) : i = j :=
  congrArg Prod.snd (List.inj_on_of_nodup_map hc.nodup (mem_of_bitName? hi) (mem_of_bitName? hj) rfl)

end FlagClass

namespace FlagSet

variable {s a b : FlagSet} {c : FlagClass}

/-- The names of the members, from the lowest bit on. A member without a name has an empty one. -/
def names (s : FlagSet) : List String := s.iterate.map fun m => m.1.getD ""

theorem mem_members_iff {i : Nat} : i ∈ s.members ↔ i ∈ s.mask.bitIndices := by
  rw [members, mem_maskBits, Nat.mem_bitIndices]

theorem positions_eq (s : FlagSet) : s.positions = s.mask.bitIndices := by
  have hsorted : s.positions.Pairwise (· < ·) := List.pairwise_lt_range.filter _
  have hsorted' : s.mask.bitIndices.Pairwise (· < ·) := Nat.bitIndices_sorted.pairwise
  refine List.Perm.eq_of_pairwise (fun _ _ _ _ h h' => absurd h' (Nat.lt_asymm h)) hsorted hsorted' ?_
  refine (List.perm_ext_iff_of_nodup hsorted.nodup hsorted'.nodup).2 fun i => ?_
  rw [mem_positions, mem_members_iff]

/-- A flag set has as many members as its mask has bits. -/
theorem bitCount_eq_card (s : FlagSet) : s.bitCount = s.members.card := by
  have hnodup : s.positions.Nodup := List.nodup_range.filter _
  rw [bitCount, bitCount_eq, ← positions_eq, ← List.toFinset_card_of_nodup hnodup]
  congr 1
  ext i
  rw [List.mem_toFinset, mem_positions]

/-- Going through a flag set lists its members by their positions. -/
theorem iterate_eq_toList (s : FlagSet) : s.iterate = s.toList := by
  rw [iterate, toList, singleBits_eq, positions_eq, List.map_map]
  simp only [Function.comp_def, FlagClass.flagName?_two_pow]

theorem map_snd_iterate (s : FlagSet) :
    s.iterate.map Prod.snd = s.mask.bitIndices.map (2 ^ ·) := by
  rw [iterate_eq_toList, toList, positions_eq, List.map_map]
  rfl

theorem names_eq (s : FlagSet) :
    s.names = s.mask.bitIndices.map fun i => (s.flagClass.bitName? i).getD "" := by
  rw [names, iterate_eq_toList, toList, positions_eq, List.map_map]
  rfl

theorem render_eq (s : FlagSet) :
    s.render = "|".intercalate (s.names.mergeSort fun a b => decide (a ≤ b)) := by
  rw [names_eq, ← positions_eq]
  rfl

theorem length_iterate (s : FlagSet) : s.iterate.length = s.bitCount := by
  rw [bitCount, bitCount_eq, ← List.length_map (f := Prod.snd), map_snd_iterate, List.length_map]

/-- A set that is made of the members of another has its members, whatever is made of them first,
and however often. -/
theorem mask_ofFlags_of_mem_iff {flags : List Int}
    (h : ∀ flag, flag ∈ flags ↔ ∃ m ∈ s.iterate, flag = m.2) (unknown : Int) :
    (ofFlags c flags unknown).mask = s.mask := by
  have hfold (flags : List Int) (mask : Nat) :
      flags.foldl (fun mask flag => mask ||| c.bitsOf flag) mask =
        (flags.map c.bitsOf).foldl (· ||| ·) mask := by
    rw [List.foldl_map]
  have hbits (bit : Nat) : bit ∈ flags.map c.bitsOf ↔ bit ∈ s.iterate.map Prod.snd := by
    simp only [List.mem_map, h]
    constructor
    · rintro ⟨_, ⟨m, hm, rfl⟩, rfl⟩
      exact ⟨m, hm, (FlagClass.bitsOf_natCast m.2).symm⟩
    · rintro ⟨m, hm, rfl⟩
      exact ⟨m.2, ⟨m, hm, rfl⟩, FlagClass.bitsOf_natCast m.2⟩
  rw [ofFlags]
  refine Nat.eq_of_testBit_eq fun i => ?_
  conv_rhs => rw [← foldl_or_bitIndices s.mask, ← map_snd_iterate]
  rw [Bool.eq_iff_iff, hfold, testBit_foldl_or, testBit_foldl_or]
  simp only [hbits]

section Named

variable (hc : c.HasWords) (hs : s.flagClass = c) (hnamed : s.members ⊆ c.named)

include hs hnamed

theorem exists_of_mem_iterate {e : Option String × Nat} (he : e ∈ s.iterate) :
    ∃ m ∈ c.members, e = (some m.1, 2 ^ m.2) := by
  rw [iterate_eq_toList, toList, positions_eq] at he
  obtain ⟨i, hi, rfl⟩ := List.mem_map.1 he
  obtain ⟨name, hname⟩ := FlagClass.exists_bitName? (hnamed (mem_members_iff.2 hi))
  rw [hs, hname]
  exact ⟨(name, i), FlagClass.mem_of_bitName? hname, rfl⟩

theorem mem_names_iff {name : String} :
    name ∈ s.names ↔ ∃ i ∈ s.members, c.bitName? i = some name := by
  rw [names_eq, List.mem_map, hs]
  constructor
  · rintro ⟨i, hi, rfl⟩
    obtain ⟨name, hname⟩ := FlagClass.exists_bitName? (hnamed (mem_members_iff.2 hi))
    exact ⟨i, mem_members_iff.2 hi, by rw [hname, Option.getD_some]⟩
  · rintro ⟨i, hi, hname⟩
    exact ⟨i, mem_members_iff.1 hi, by rw [hname, Option.getD_some]⟩

include hc

theorem isWord_of_mem_names {name : String} (h : name ∈ s.names) :
    name ≠ "" ∧ '|' ∉ name.toList := by
  obtain ⟨i, -, hname⟩ := (mem_names_iff hs hnamed).1 h
  have hmem := FlagClass.mem_of_bitName? hname
  exact ⟨hc.ne_empty _ hmem, hc.no_bar _ hmem⟩

theorem nodup_names : s.names.Nodup := by
  rw [names_eq]
  refine Nat.bitIndices_nodup.map_on fun i hi j hj heq => ?_
  rw [hs] at heq
  obtain ⟨name, hname⟩ := FlagClass.exists_bitName? (hnamed (mem_members_iff.2 hi))
  obtain ⟨name', hname'⟩ := FlagClass.exists_bitName? (hnamed (mem_members_iff.2 hj))
  rw [hname, hname', Option.getD_some, Option.getD_some] at heq
  exact hc.eq_of_bitName? (heq ▸ hname) hname'

/-- The text of a flag set is its names in ascending order, joined by bars. -/
theorem exists_sorted_names : ∃ names, names.Perm s.names ∧ names.Pairwise (· < ·) ∧
    s.render = "|".intercalate names := by
  have hperm := List.mergeSort_perm s.names fun a b => decide (a ≤ b)
  have hsorted : (s.names.mergeSort fun a b => decide (a ≤ b)).Pairwise fun a b =>
      decide (a ≤ b) = true :=
    List.pairwise_mergeSort (fun a b c => by simpa using String.le_trans)
      (fun a b => by simpa using String.le_total a b) s.names
  have hnodup := hperm.nodup_iff.2 (nodup_names hc hs hnamed)
  refine ⟨_, hperm, (hsorted.and hnodup).imp fun ⟨hle, hne⟩ => ?_, s.render_eq⟩
  exact String.not_le.1 fun hge => hne (String.le_antisymm (of_decide_eq_true hle) hge)

/-- A named bit is a member if its name is one of the names. -/
theorem mem_members_iff_mem_names {i : Nat} {name : String} (h : c.bitName? i = some name) :
    i ∈ s.members ↔ name ∈ s.names := by
  rw [mem_names_iff hs hnamed]
  refine ⟨fun hi => ⟨i, hi, h⟩, ?_⟩
  rintro ⟨j, hj, hname⟩
  rwa [hc.eq_of_bitName? h hname]

end Named

/-- The text of a flag set tells its members. -/
theorem render_eq_render_iff (hc : c.HasWords) (ha : a.flagClass = c) (hb : b.flagClass = c)
    (hnamed : a.members ⊆ c.named) (hnamed' : b.members ⊆ c.named) :
    a.render = b.render ↔ a.members = b.members := by
  constructor
  · intro h
    obtain ⟨names, hperm, -, hrender⟩ := exists_sorted_names hc ha hnamed
    obtain ⟨names', hperm', -, hrender'⟩ := exists_sorted_names hc hb hnamed'
    rw [hrender, hrender', intercalate_bar_inj
      (fun w hw => isWord_of_mem_names hc ha hnamed (hperm.mem_iff.1 hw))
      (fun w hw => isWord_of_mem_names hc hb hnamed' (hperm'.mem_iff.1 hw))] at h
    subst h
    ext i
    by_cases hi : i ∈ c.named
    · obtain ⟨name, hname⟩ := FlagClass.exists_bitName? hi
      rw [mem_members_iff_mem_names hc ha hnamed hname, ← hperm.mem_iff, hperm'.mem_iff,
        ← mem_members_iff_mem_names hc hb hnamed' hname]
    · exact iff_of_false (fun h => hi (hnamed h)) fun h => hi (hnamed' h)
  · intro h
    rw [members, members, maskBits_inj] at h
    rw [render_eq, render_eq, names_eq, names_eq, h, ha, hb]

/-- Going through a flag set whose members have names meets each of them once, from the lowest bit
on, as a single named bit: together they are the mask, there are as many as the mask has bits, and a
single bit is met if and only if the set contains it. A set that is made of what was met, in any
order and with repetitions, has the same members. The text of a set is the names of its members in
ascending order, joined by bars, and two sets of a class have one text if and only if they have the
same members. -/
theorem iterate_of_named (hc : c.HasWords) :
    (∀ s : FlagSet, s.flagClass = c → s.members ⊆ c.named →
      (∀ e ∈ s.iterate, ∃ m ∈ c.members, e = (some m.1, 2 ^ m.2)) ∧
      (s.iterate.map Prod.snd).Pairwise (· < ·) ∧
      (s.iterate.map Prod.snd).foldl (· ||| ·) 0 = s.mask ∧
      s.iterate.length = s.bitCount ∧
      (∀ i, 2 ^ i ∈ s.iterate.map Prod.snd ↔ s.contains (2 ^ i : Nat) = true) ∧
      (∀ (flags : List Int) (unknown : Int),
        (∀ flag, flag ∈ flags ↔ ∃ m ∈ s.iterate, flag = m.2) →
        (ofFlags c flags unknown).mask = s.mask) ∧
      ∃ names, names.Perm s.names ∧ names.Pairwise (· < ·) ∧ s.render = "|".intercalate names) ∧
    ∀ a b : FlagSet, a.flagClass = c → b.flagClass = c → a.members ⊆ c.named →
      b.members ⊆ c.named → (a.render = b.render ↔ a.members = b.members) := by
  refine ⟨fun s hs hnamed => ⟨fun e => exists_of_mem_iterate hs hnamed, ?_, ?_, s.length_iterate,
    fun i => ?_, fun flags unknown h => mask_ofFlags_of_mem_iff h unknown,
    exists_sorted_names hc hs hnamed⟩, fun a b => render_eq_render_iff hc⟩
  · rw [map_snd_iterate]
    exact Nat.bitIndices_sorted.pairwise.map _ fun _ _ => Nat.pow_lt_pow_right (by decide)
  · rw [map_snd_iterate, foldl_or_bitIndices]
  · rw [contains_two_pow_iff, mem_members_iff, map_snd_iterate]
    exact List.mem_map_of_injective (Nat.pow_right_injective (le_refl 2))

/-- Three flags of messages, whose names stand in another order than their bits. -/
theorem iterate_of_named_of_message :
    let s : FlagSet := ⟨.messageFlag, 81, 0⟩
    FlagClass.messageFlag.HasWords ∧
      s.iterate = [(some "CROSSPOSTED", 1), (some "URGENT", 16), (some "EPHEMERAL", 64)] ∧
      s.render = "CROSSPOSTED|EPHEMERAL|URGENT" ∧
      (ofFlags .messageFlag [64, 1, 16, 1] 0).mask = 81 ∧
      ∀ t : FlagSet, t.flagClass = .messageFlag → t.members ⊆ FlagClass.messageFlag.named →
        t.render = "CROSSPOSTED|EPHEMERAL|URGENT" → t.members = s.members := by
  intro s
  have hc : FlagClass.messageFlag.HasWords := ⟨by decide, by decide, by decide⟩
  have hs : s.members ⊆ FlagClass.messageFlag.named := by decide
  have hiterate : s.iterate =
      [(some "CROSSPOSTED", 1), (some "URGENT", 16), (some "EPHEMERAL", 64)] := by
    rw [iterate_eq_toList]
    decide
  obtain ⟨hmembers, hrenders⟩ := iterate_of_named hc
  obtain ⟨-, -, -, -, -, hrebuilt, names, hperm, hsorted, hrender⟩ := hmembers s rfl hs
  obtain rfl : names = ["CROSSPOSTED", "EPHEMERAL", "URGENT"] := by
    have hnames : s.names = ["CROSSPOSTED", "URGENT", "EPHEMERAL"] := by
      rw [FlagSet.names, hiterate]
      rfl
    rw [hnames] at hperm
    exact (hperm.trans (.cons _ (.swap _ _ _))).eq_of_pairwise
      (fun _ _ _ _ h h' => absurd h' (String.lt_asymm h)) hsorted (by decide)
  have hrender : s.render = "CROSSPOSTED|EPHEMERAL|URGENT" := hrender
  refine ⟨hc, hiterate, hrender, hrebuilt _ 0 fun flag => ?_, fun t ht htnamed htrender => ?_⟩
  · simp [hiterate]
    tauto
  · exact (hrenders t s ht rfl htnamed hs).1 (htrender.trans hrender.symm)

end FlagSet
end ChatRecords
