import ChatRecords.Proofs.Record.Leaves
import ChatRecords.Proofs.Snowflake.Instants

/-!
# Identifiers in decimal

Which texts are identifiers, of which identifier, and how a text that is none is refused. A text of
digits is first read as a number, and that is done for a limited count of digits only. Zeros at the
front count as well, so that some decimal forms of an identifier are not read.

## Main definitions

* `Text.Denotes`: a text is the decimal form of a number, zeros at its front allowed.
* `Text.HasSpareZero`: a text begins with a zero that it can do without.
* `Snowflake.Reading`: what comes of reading a text.

## Main results

* `Snowflake.text_of_parse`: what comes of any text, and what identifiers are written as.
-/

namespace ChatRecords

namespace Text

/-- A text is the decimal form of a number: ASCII digits, at least one, that denote it. -/
def Denotes (t : String) (n : Nat) : Prop :=
  t.toList ≠ [] ∧ AllDigits t.toList ∧ Nat.ofDigitChars 10 t.toList 0 = n

/-- A text begins with a zero that it can do without. -/
def HasSpareZero (t : String) : Prop := t.toList.head? = some '0' ∧ t.toList ≠ ['0']

theorem denotes_iff {t : String} {n : Nat} :
    Denotes t n ↔ t.toList ≠ [] ∧ AllDigits t.toList ∧ natOfDigits t.toList = n := by
  refine and_congr_right fun _ => and_congr_right fun hdigits => ?_
  rw [natOfDigits_eq hdigits]

/-- The decimal form of a number is the shortest one with some zeros before it. -/
theorem Denotes.exists_zeros {t : String} {n : Nat} (h : Denotes t n) :
    ∃ count, t.toList = List.replicate count '0' ++ (toString n).toList := by
  obtain ⟨hne, hdigits, rfl⟩ := denotes_iff.1 h
  rw [toList_toString_nat]
  exact exists_zeros_append_toDigits hdigits hne

theorem not_hasSpareZero_toString (n : Nat) : ¬HasSpareZero (toString n) := by
  rintro ⟨hhead, hne⟩
  rw [toList_toString_nat] at hhead hne
  rw [eq_zero_of_head?_toDigits hhead] at hne
  exact hne (Nat.toDigits_zero 10)

/-- The shortest decimal form of a number is the one without a spare zero. -/
theorem Denotes.toString_eq_iff {t : String} {n : Nat} (h : Denotes t n) :
    toString n = t ↔ ¬HasSpareZero t := by
  constructor
  · rintro rfl
    exact not_hasSpareZero_toString n
  · intro hspare
    obtain ⟨count, hcount⟩ := h.exists_zeros
    cases count with
    | zero => exact String.toList_inj.1 hcount.symm
    | succ count =>
      refine absurd ⟨by rw [hcount]; rfl, fun hzero => ?_⟩ hspare
      -- the zero before the digits leaves none for the number itself
      rw [hcount, List.replicate_succ, List.cons_append] at hzero
      have hnil := (List.append_eq_nil_iff.1 (List.cons.inj hzero).2).2
      rw [toList_toString_nat] at hnil
      exact Nat.toDigits_ne_nil hnil

end Text

namespace Snowflake

open Text (AllDigits Denotes HasSpareZero digitLimit natOfDigits)

/-- What comes of reading a text as an identifier. -/
inductive Reading (t : String) : Except Refusal Snowflake → Prop
  | identifier {x : Snowflake} (h : Denotes t x.raw) (hlength : t.length ≤ digitLimit) :
      Reading t (.ok x)
  | notDecimal (h : ∀ n, ¬Denotes t n) : Reading t (.error .malformed)
  | tooLarge {n : Nat} (h : Denotes t n) (hlength : t.length ≤ digitLimit) (hn : 2 ^ 64 ≤ n) :
      Reading t (.error .malformed)
  /-- The number is not looked at, however small it is. -/
  | tooLong {n : Nat} (h : Denotes t n) (hlength : digitLimit < t.length) :
      Reading t (.error (.tooManyDigits t.length))

variable {t : String}

/-! ## Reading -/

/-- Digits that are few enough are read as the number that they denote. -/
theorem parse_of_denotes {n : Nat} (h : Denotes t n) (hlength : t.length ≤ digitLimit) :
    parse t = (ofInt? n).elim (.error .malformed) .ok := by
  obtain ⟨hne, hdigits, rfl⟩ := Text.denotes_iff.1 h
  have hempty : t.toList.isEmpty = false := List.isEmpty_eq_false_iff.2 hne
  have hlimit : ¬digitLimit < t.toList.length := by
    rw [String.length_toList]
    omega
  simp only [parse, hempty, hdigits.all, hlimit, Bool.not_true, Bool.false_eq_true, or_self,
    if_false]
  cases ofInt? (natOfDigits t.toList) <;> rfl

theorem parse_of_long {n : Nat} (h : Denotes t n) (hlength : digitLimit < t.length) :
    parse t = .error (.tooManyDigits t.length) := by
  obtain ⟨hne, hdigits, -⟩ := h
  have hempty : t.toList.isEmpty = false := List.isEmpty_eq_false_iff.2 hne
  simp only [parse, hempty, hdigits.all, String.length_toList, hlength, Bool.not_true,
    Bool.false_eq_true, or_self, if_false, if_true]

theorem parse_of_not_denotes (h : ∀ n, ¬Denotes t n) : parse t = .error .malformed := by
  have hbad : t.toList.isEmpty = true ∨ (!t.toList.all Text.isAsciiDigit) = true := by
    by_contra hgood
    obtain ⟨hne, hdigits⟩ := not_or.1 hgood
    rw [Bool.not_eq_true, Bool.not_eq_false'] at hdigits
    exact h _ ⟨mt List.isEmpty_iff.2 hne, List.all_eq_true.1 hdigits, rfl⟩
  unfold parse
  exact if_pos hbad

theorem reading_parse (t : String) : Reading t (parse t) := by
  by_cases hnumber : ∃ n, Denotes t n
  · obtain ⟨n, hn⟩ := hnumber
    rcases Nat.lt_or_ge digitLimit t.length with hlong | hshort
    · rw [parse_of_long hn hlong]
      exact .tooLong hn hlong
    · rw [parse_of_denotes hn hshort]
      cases hx : ofInt? (n : Int) with
      | some x =>
        obtain rfl := Int.natCast_inj.1 (ofInt?_eq_some_iff.1 hx)
        exact .identifier hn hshort
      | none =>
        have hlarge := ofInt?_eq_none_iff.1 hx
        exact .tooLarge hn hshort (by omega)
  · rw [not_exists] at hnumber
    rw [parse_of_not_denotes hnumber]
    exact .notDecimal hnumber

theorem Reading.parse_eq {r : Except Refusal Snowflake} (h : Reading t r) : parse t = r := by
  cases h with
  | identifier hx hshort =>
    rw [parse_of_denotes hx hshort, ofInt?_eq_some_iff.2 rfl, Option.elim_some]
  | notDecimal hnone => exact parse_of_not_denotes hnone
  | tooLarge hn hshort hlarge =>
    rw [parse_of_denotes hn hshort, ofInt?_eq_none_iff.2 (.inr (by omega)), Option.elim_none]
  | tooLong hn hlong => exact parse_of_long hn hlong

theorem parse_eq_iff {r : Except Refusal Snowflake} : parse t = r ↔ Reading t r :=
  ⟨fun h => h ▸ reading_parse t, Reading.parse_eq⟩

theorem Reading.denotes {x : Snowflake} (h : Reading t (.ok x)) : Denotes t x.raw := by
  cases h with
  | identifier hx => exact hx

/-- A text is refused as an identifier for the reason for which it is not read as one. -/
theorem id_text (t : String) : Conversion.id (.string t) = (parse t).mapError fun
    | .malformed => .malformedId (.string t)
    | .tooManyDigits count => .mismatch (.fewerDigits count) (.string t) := by
  rw [Conversion.id]
  rcases parse t with (_ | _) | _ <;> rfl

/-- A text is an identifier if and only if it consists of ASCII digits, at least one and at most as
many as a number may be read from, that denote a number of 64 bits. A text of too many digits is
refused for them, whatever number they denote, and any other text is malformed, which the refusal
tells with the text. An identifier is read from its decimal form, which is what is left of every
text that it is read from without the zeros at its front; so reading and writing undo each other on
texts without a spare zero, and on no other. -/
theorem text_of_parse (t : String) :
    (∀ r, parse t = r ↔ Reading t r) ∧
    (∀ x, Conversion.id (.string t) = .ok x ↔ Reading t (.ok x)) ∧
    (Conversion.id (.string t) = .error (.malformedId (.string t)) ↔
      Reading t (.error .malformed)) ∧
    (∀ count, Conversion.id (.string t) = .error (.mismatch (.fewerDigits count) (.string t)) ↔
      Reading t (.error (.tooManyDigits count))) ∧
    (∀ x, parse t = .ok x → (∃ count, t.toList = List.replicate count '0' ++ x.format.toList) ∧
      (x.format = t ↔ ¬HasSpareZero t)) ∧
    ∀ x : Snowflake, parse x.format = .ok x ∧ ¬HasSpareZero x.format := by
  refine ⟨fun _ => parse_eq_iff, fun x => ?_, ?_, fun count => ?_, fun x hx => ?_, fun x => ?_⟩
  · rw [← parse_eq_iff, id_text]
    rcases parse t with (_ | _) | _ <;> simp [Except.mapError]
  · rw [← parse_eq_iff, id_text]
    rcases parse t with (_ | _) | _ <;> simp [Except.mapError]
  · rw [← parse_eq_iff, id_text]
    rcases parse t with (_ | _) | _ <;> simp [Except.mapError]
  · have hdenotes := (parse_eq_iff.1 hx).denotes
    exact ⟨hdenotes.exists_zeros, hdenotes.toString_eq_iff⟩
  · exact ⟨parse_format x, Text.not_hasSpareZero_toString x.raw⟩

/-- Neither is a text of 4301 ones told to be malformed, though its number is beyond 64 bits, nor is
a text of 4300 zeros and a one read as the identifier one. -/
theorem text_of_parse_failed :
    let ones := String.ofList ('1' :: List.replicate 4300 '1')
    let padded := String.ofList (List.replicate 4300 '0' ++ ['1'])
    (∃ n, Denotes ones n ∧ 2 ^ 64 ≤ n) ∧
      Conversion.id (.string ones) = .error (.mismatch (.fewerDigits 4301) (.string ones)) ∧
      Denotes padded 1 ∧ parse padded = .error (.tooManyDigits 4301) := by
  intro ones padded
  have hlimit : digitLimit < 4301 := by decide
  have hone : AllDigits ['1'] := by
    intro c hc
    rw [List.mem_singleton.1 hc]
    decide
  have hrest (k : Nat) : AllDigits (List.replicate k '1') := by
    intro c hc
    rw [List.eq_of_mem_replicate hc]
    decide
  have hlarge (k : Nat) (hk : 20 ≤ k) : 2 ^ 64 ≤ natOfDigits ('1' :: List.replicate k '1') := by
    have hsplit := Text.natOfDigits_append hone (hrest k)
    have hvalue : natOfDigits ['1'] = 1 := rfl
    have hpow : 10 ^ 20 ≤ 10 ^ k := Nat.pow_le_pow_right (by decide) hk
    rw [List.singleton_append, List.length_replicate, hvalue] at hsplit
    omega
  have hones : Denotes ones (natOfDigits ('1' :: List.replicate 4300 '1')) := by
    rw [Text.denotes_iff, String.toList_ofList]
    exact ⟨List.cons_ne_nil _ _, hone.append (hrest 4300), rfl⟩
  have hpadded : Denotes padded 1 := by
    rw [Text.denotes_iff, String.toList_ofList]
    refine ⟨List.append_ne_nil_of_right_ne_nil _ (List.cons_ne_nil _ _), ?_, ?_⟩
    · exact (Text.allDigits_replicate _).append hone
    · exact Text.natOfDigits_zeros hone
  have hlength : ones.length = 4301 := by
    rw [← String.length_toList, String.toList_ofList, List.length_cons, List.length_replicate]
  have hlength' : padded.length = 4301 := by
    rw [← String.length_toList, String.toList_ofList, List.length_append, List.length_replicate]
    rfl
  refine ⟨⟨_, hones, hlarge 4300 (by decide)⟩, ?_, hpadded, ?_⟩
  · rw [id_text, parse_of_long hones (by omega), hlength]
    rfl
  · rw [parse_of_long hpadded (by omega), hlength']

end Snowflake
end ChatRecords
