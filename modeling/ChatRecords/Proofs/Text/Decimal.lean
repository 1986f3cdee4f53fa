import ChatRecords.Text.Numeral

/-!
# Decimal texts

Numbers written in decimal read back, whichever of the readers of texts reads them.

## Main results

* `Text.natOfDigits_toDigits`: the digits of a number denote it.
* `Text.exists_zeros_append_toDigits`: other digits that denote it have zeros before these.
* `Text.takeWhile_digits`, `Text.dropWhile_digits`: digits end where something else begins.
* `Text.readInteger_toString`: the text of an integer is one that the lenient reader takes as it
  stands.
-/

namespace ChatRecords
namespace Text

theorem asciiDigit?_eq_ite (c : Char) :
    asciiDigit? c = if c.isDigit then some (c.toNat - 48) else none := by
  simp only [asciiDigit?, Char.isDigit, Bool.and_eq_true, decide_eq_true_eq, Char.le_def,
    ge_iff_le]
  rfl

theorem isAsciiDigit_eq (c : Char) : isAsciiDigit c = c.isDigit := by
  simp only [isAsciiDigit, asciiDigit?_eq_ite]
  split <;> simp_all

theorem asciiDigit?_digitChar {n : Nat} (h : n < 10) : asciiDigit? n.digitChar = some n := by
  rw [asciiDigit?_eq_ite, if_pos (by simpa using h), Nat.toNat_digitChar_sub_48_of_lt_ten h]

/-! ## Runs of digits -/

/-- Every character is an ASCII digit. -/
def AllDigits (cs : List Char) : Prop := ∀ c ∈ cs, isAsciiDigit c = true

theorem allDigits_toDigits (n : Nat) : AllDigits (Nat.toDigits 10 n) := by
  intro c hc
  rw [isAsciiDigit_eq]
  exact Nat.isDigit_of_mem_toDigits (by decide) (by decide) hc

theorem allDigits_replicate (n : Nat) : AllDigits (List.replicate n '0') := by
  intro c hc
  rw [(List.mem_replicate.1 hc).2]
  decide

theorem AllDigits.append {cs ds : List Char} (hcs : AllDigits cs) (hds : AllDigits ds) :
    AllDigits (cs ++ ds) := by
  intro c hc
  rcases List.mem_append.1 hc with hc | hc
  · exact hcs c hc
  · exact hds c hc

theorem AllDigits.take {cs : List Char} (h : AllDigits cs) (n : Nat) : AllDigits (cs.take n) :=
  fun c hc => h c (List.mem_of_mem_take hc)

theorem AllDigits.drop {cs : List Char} (h : AllDigits cs) (n : Nat) : AllDigits (cs.drop n) :=
  fun c hc => h c (List.mem_of_mem_drop hc)

theorem AllDigits.all {cs : List Char} (h : AllDigits cs) : cs.all isAsciiDigit = true :=
  List.all_eq_true.2 h

/-- A text that does not go on with a digit. -/
def NoDigit (cs : List Char) : Prop := ∀ c ∈ cs.head?, isAsciiDigit c = false

theorem noDigit_nil : NoDigit [] := by simp [NoDigit]

theorem noDigit_cons {c : Char} {cs : List Char} (h : isAsciiDigit c = false) :
    NoDigit (c :: cs) := by simpa [NoDigit] using h

theorem takeWhile_digits {ds rest : List Char} (hds : AllDigits ds) (hrest : NoDigit rest) :
    (ds ++ rest).takeWhile isAsciiDigit = ds := by
  rw [List.takeWhile_append_of_pos hds]
  cases rest with
  | nil => simp
  | cons c rest => simp [hrest c (by simp)]

theorem dropWhile_digits {ds rest : List Char} (hds : AllDigits ds) (hrest : NoDigit rest) :
    (ds ++ rest).dropWhile isAsciiDigit = rest := by
  rw [List.dropWhile_append_of_pos hds]
  cases rest with
  | nil => rfl
  | cons c rest => simp [hrest c (by simp)]

/-! ## The numbers that digits denote -/

theorem natOfDigits_eq {cs : List Char} (h : AllDigits cs) :
    natOfDigits cs = Nat.ofDigitChars 10 cs 0 := by
  have hfold (n : Nat) : (cs.map fun c => (asciiDigit? c).getD 0).foldl (fun n d => 10 * n + d) n =
      Nat.ofDigitChars 10 cs n := by
    induction cs generalizing n with
    | nil => simp
    | cons c cs ih =>
      have hc : c.isDigit = true := by
        rw [← isAsciiDigit_eq]
        exact h c (by simp)
      rw [List.map_cons, List.foldl_cons, ih (fun c hc => h c (by simp [hc])),
        Nat.ofDigitChars_cons, asciiDigit?_eq_ite, if_pos hc]
      rfl
  exact hfold 0

/-- The number of a text is below the power of ten that its length is the exponent of. -/
theorem natOfDigits_lt (cs : List Char) : natOfDigits cs < 10 ^ cs.length := by
  have hfold (n : Nat) : (cs.map fun c => (asciiDigit? c).getD 0).foldl (fun n d => 10 * n + d) n <
      (n + 1) * 10 ^ cs.length := by
    induction cs generalizing n with
    | nil => simp
    | cons c cs ih =>
      have hdigit : (asciiDigit? c).getD 0 < 10 := by
        unfold asciiDigit?
        split
        · next hc =>
          have hle : c.toNat ≤ '9'.toNat := hc.2
          have hnine : '9'.toNat = '0'.toNat + 9 := rfl
          rw [Option.getD_some]
          omega
        · decide
      rw [List.map_cons, List.foldl_cons, List.length_cons, Nat.pow_succ', ← Nat.mul_assoc]
      refine Nat.lt_of_lt_of_le (ih _) (Nat.mul_le_mul_right _ ?_)
      omega
  simpa [natOfDigits, ofDigits] using hfold 0

/-- The digits of a number denote it. -/
theorem natOfDigits_toDigits (n : Nat) : natOfDigits (Nat.toDigits 10 n) = n := by
  rw [natOfDigits_eq (allDigits_toDigits n), Nat.ofDigitChars_ten_toDigits]

theorem natOfDigits_append {cs ds : List Char} (hcs : AllDigits cs) (hds : AllDigits ds) :
    natOfDigits (cs ++ ds) = 10 ^ ds.length * natOfDigits cs + natOfDigits ds := by
  rw [natOfDigits_eq (hcs.append hds), natOfDigits_eq hcs, natOfDigits_eq hds,
    Nat.ofDigitChars_append, Nat.ofDigitChars_eq_ofDigitChars_zero]

theorem natOfDigits_replicate (n : Nat) : natOfDigits (List.replicate n '0') = 0 := by
  rw [natOfDigits_eq (allDigits_replicate n), Nat.ofDigitChars_replicate_zero, Nat.mul_zero]

theorem natOfDigits_zeros {n : Nat} {ds : List Char} (h : AllDigits ds) :
    natOfDigits (List.replicate n '0' ++ ds) = natOfDigits ds := by
  rw [natOfDigits_append (allDigits_replicate n) h, natOfDigits_replicate, Nat.mul_zero,
    Nat.zero_add]

/-- A number other than zero is written without a zero at its front. -/
theorem head?_toDigits_ne {n : Nat} (h : n ≠ 0) : (Nat.toDigits 10 n).head? ≠ some '0' := by
  induction n using Nat.strongRecOn with
  | _ n ih =>
    rw [Nat.toDigits_eq_if (by decide)]
    split
    · simpa using h
    · have hhead := ih (n / 10) (by omega) (by omega)
      obtain ⟨c, cs, hcs⟩ := List.exists_cons_of_ne_nil (Nat.toDigits_ne_nil (n := n / 10) (b := 10))
      rw [hcs] at hhead ⊢
      simpa using hhead

/-- Digits that begin with a zero are those of zero. -/
theorem eq_zero_of_head?_toDigits {n : Nat} (h : (Nat.toDigits 10 n).head? = some '0') : n = 0 := by
  refine Decidable.byContradiction fun hn => ?_
  exact head?_toDigits_ne hn h

/-- A digit is written as itself. -/
theorem toDigits_of_isAsciiDigit {c : Char} (h : isAsciiDigit c = true) :
    c.toNat - 48 < 10 ∧ Nat.toDigits 10 (c.toNat - 48) = [c] := by
  rw [isAsciiDigit_eq, Char.isDigit, Bool.and_eq_true, decide_eq_true_eq, decide_eq_true_eq] at h
  have hlow : 48 ≤ c.toNat := h.1
  have hhigh : c.toNat ≤ 57 := h.2
  have hlt : c.toNat - 48 < 10 := by omega
  refine ⟨hlt, ?_⟩
  rw [Nat.toDigits_of_lt_base hlt]
  congr 1
  apply Char.toNat_inj.1
  rw [Nat.toNat_digitChar_of_lt_ten hlt]
  omega

/-- Digits after those of a number other than zero are digits of one number with them. -/
theorem toDigits_append {n : Nat} (hn : 0 < n) {cs : List Char} (h : AllDigits cs) :
    Nat.toDigits 10 n ++ cs = Nat.toDigits 10 (Nat.ofDigitChars 10 cs n) := by
  induction cs generalizing n with
  | nil => simp
  | cons c rest ih =>
    obtain ⟨hlt, hdigit⟩ := toDigits_of_isAsciiDigit (h c List.mem_cons_self)
    have hone : Nat.toDigits 10 n ++ [c] = Nat.toDigits 10 (10 * n + (c.toNat - 48)) := by
      rw [← hdigit, Nat.toDigits_append_toDigits (by decide) hn hlt]
    rw [Nat.ofDigitChars_cons, ← List.singleton_append, ← List.append_assoc, hone]
    exact ih (by omega) fun d hd => h d (List.mem_cons_of_mem _ hd)

/-- A text of digits is that of the number it denotes after some zeros. -/
theorem exists_zeros_append_toDigits {cs : List Char} (h : AllDigits cs) (hne : cs ≠ []) :
    ∃ n, cs = List.replicate n '0' ++ Nat.toDigits 10 (natOfDigits cs) := by
  induction cs with
  | nil => exact absurd rfl hne
  | cons c rest ih =>
    have hrest : AllDigits rest := fun d hd => h d (List.mem_cons_of_mem _ hd)
    by_cases hc : c = '0'
    · subst hc
      have hzero : natOfDigits ('0' :: rest) = natOfDigits rest := natOfDigits_zeros (n := 1) hrest
      rw [hzero]
      cases rest with
      | nil => exact ⟨0, rfl⟩
      | cons d rest =>
        obtain ⟨n, hn⟩ := ih hrest (List.cons_ne_nil _ _)
        exact ⟨n + 1, by rw [List.replicate_succ, List.cons_append, ← hn]⟩
    · obtain ⟨hlt, hdigit⟩ := toDigits_of_isAsciiDigit (h c List.mem_cons_self)
      have hpos : 0 < c.toNat - 48 := by
        refine Nat.pos_of_ne_zero fun hzero => hc ?_
        rw [hzero, Nat.toDigits_zero] at hdigit
        exact (List.singleton_inj.1 hdigit).symm
      have happend := toDigits_append hpos hrest
      rw [hdigit] at happend
      refine ⟨0, ?_⟩
      rw [natOfDigits_eq h, Nat.ofDigitChars_cons]
      simpa using happend

/-! ## Integers -/

theorem toList_toString_nat (n : Nat) : (toString n).toList = Nat.toDigits 10 n := by
  rw [Nat.toString_eq_repr, Nat.toList_repr]

/-- An integer is written with a minus sign, if it is negative, and the digits of its size. -/
theorem toList_toString_int (n : Int) :
    (toString n).toList = if n < 0 then '-' :: Nat.toDigits 10 n.natAbs
      else Nat.toDigits 10 n.natAbs := by
  rw [Int.toString_eq_repr, Int.repr_eq_if]
  split
  · next h =>
    rw [if_neg (by omega), Nat.toList_repr]
    congr 1
    omega
  · next h =>
    rw [if_pos (by omega), String.toList_append, Nat.toList_repr]
    have habs : (-n).toNat = n.natAbs := by omega
    rw [habs]
    rfl

theorem head?_toDigits_ne_minus (n : Nat) : (Nat.toDigits 10 n).head? ≠ some '-' := by
  intro h
  have hdigit := allDigits_toDigits n '-' (List.mem_of_mem_head? h)
  revert hdigit
  decide

/-- The digits of an integer, with its sign, read back. -/
theorem readSignedDigits_toString {n : Int} (h : (Nat.toDigits 10 n.natAbs).length ≤ digitLimit) :
    readSignedDigits (toString n).toList = .ok n := by
  have hds := allDigits_toDigits n.natAbs
  have htake : (Nat.toDigits 10 n.natAbs).takeWhile isAsciiDigit = Nat.toDigits 10 n.natAbs := by
    have := takeWhile_digits hds noDigit_nil
    rwa [List.append_nil] at this
  have hany : (Nat.toDigits 10 n.natAbs).any (fun c => !isAsciiDigit c) = false := by
    rw [List.any_eq_false]
    intro c hc
    simp [hds c hc]
  have hzero : ¬((Nat.toDigits 10 n.natAbs).head? = some '0' ∧ Nat.toDigits 10 n.natAbs ≠ ['0']) := by
    rintro ⟨hhead, hne⟩
    rw [eq_zero_of_head?_toDigits hhead] at hne
    exact hne (Nat.toDigits_zero 10)
  have hempty : (Nat.toDigits 10 n.natAbs).isEmpty = false := by simp
  have hlimit : ¬digitLimit < (Nat.toDigits 10 n.natAbs).length := by omega
  rw [toList_toString_int]
  split
  · next hneg =>
    simp only [readSignedDigits, List.head?_cons, List.tail_cons, if_true, htake,
      hempty, hzero, hany, hlimit, natOfDigits_toDigits, Bool.false_eq_true, or_self, if_false]
    congr 1
    omega
  · next hneg =>
    have hminus := head?_toDigits_ne_minus n.natAbs
    simp only [readSignedDigits, hminus, htake, hempty, hzero, hany, hlimit,
      natOfDigits_toDigits, Bool.false_eq_true, or_self, if_false]
    congr 1
    omega

/-- The text of an integer gives it. -/
theorem readInteger_toString {n : Int} (h : (Nat.toDigits 10 n.natAbs).length ≤ digitLimit) :
    readInteger (toString n) = .ok n := by
  simp only [readInteger, readSignedDigits_toString h]

theorem length_toDigits_le {n k : Nat} (hk : 0 < k) (h : n < 10 ^ k) :
    (Nat.toDigits 10 n).length ≤ k :=
  (Nat.length_toDigits_le_iff (by decide) hk).2 h

end Text
end ChatRecords
