import ChatRecords.Proofs.Json.Written

/-!
# Indentation

An indented text and the compact one differ only in white space outside strings.

## Main definitions

* `Json.withoutSpace`: a text without the white space outside its strings.

## Main results

* `Json.withoutSpace_write`: without that white space, an indented text is the compact one.
-/

namespace ChatRecords
namespace Json

open Reader (isSpace)

/-- The characters that are no white space or within a string, where the text begins within a string
or outside. A backslash keeps the character after it from ending the string. -/
def strip : (inString : Bool) → List Char → List Char
  | _, [] => []
  | false, c :: rest => if isSpace c then strip false rest else c :: strip (c = '"') rest
  | true, '\\' :: c :: rest => '\\' :: c :: strip true rest
  | true, c :: rest => c :: strip (c ≠ '"') rest

/-- A text without the white space outside its strings. -/
def withoutSpace (text : String) : String := String.ofList (strip false text.toList)

/-! ## Tokens -/

theorem strip_append {space : List Char} (h : ∀ c ∈ space, isSpace c = true) (t : List Char) :
    strip false (space ++ t) = strip false t := by
  induction space with
  | nil => rfl
  | cons c space ih =>
    rw [List.forall_mem_cons] at h
    rw [List.cons_append, strip, if_pos h.1, ih h.2]

/-- A character that is neither white space nor a quote. -/
def IsPlain (c : Char) : Prop := isSpace c = false ∧ c ≠ '"'

theorem strip_cons {c : Char} (h : IsPlain c) (t : List Char) :
    strip false (c :: t) = c :: strip false t := by
  rw [strip, h.1, if_neg Bool.false_ne_true, decide_eq_false h.2]

theorem strip_plain {text : List Char} (h : ∀ c ∈ text, IsPlain c) (t : List Char) :
    strip false (text ++ t) = text ++ strip false t := by
  induction text with
  | nil => rfl
  | cons c text ih =>
    rw [List.forall_mem_cons] at h
    rw [List.cons_append, strip_cons h.1, ih h.2, List.cons_append]

theorem strip_escape (c : Char) (t : List Char) :
    strip true ('\\' :: c :: t) = '\\' :: c :: strip true t := by
  rw [strip]

theorem strip_inString {c : Char} (hquote : c ≠ '"') (hbackslash : c ≠ '\\') (t : List Char) :
    strip true (c :: t) = c :: strip true t := by
  rw [strip]
  · simp [hquote]
  · rintro _ _ rfl
    exact absurd rfl hbackslash

theorem strip_hexDigit {n : Nat} (h : n < 16) (t : List Char) :
    strip true (hexDigit n :: t) = hexDigit n :: strip true t := by
  have hne : ∀ n < 16, hexDigit n ≠ '"' ∧ hexDigit n ≠ '\\' := by decide
  exact strip_inString (hne n h).1 (hne n h).2 t

/-- A character of a string is written with an escape of one letter or of four digits, or as it
is. -/
theorem writeChar_cases (c : Char) : (∃ e, writeChar c = ['\\', e]) ∨
    (∃ n m, n < 16 ∧ m < 16 ∧ writeChar c = ['\\', 'u', '0', '0', hexDigit n, hexDigit m]) ∨
    (writeChar c = [c] ∧ c ≠ '"' ∧ c ≠ '\\') := by
  unfold writeChar
  split_ifs with hquote hbackslash _ _ _ _ _ hcontrol
  iterate 7 exact .inl ⟨_, rfl⟩
  · have hc : c.toNat < 32 := hcontrol
    exact .inr (.inl ⟨c.toNat / 16, c.toNat % 16, by omega, by omega, rfl⟩)
  · exact .inr (.inr ⟨rfl, hquote, hbackslash⟩)

theorem strip_writeChar (c : Char) (t : List Char) :
    strip true (writeChar c ++ t) = writeChar c ++ strip true t := by
  rcases writeChar_cases c with ⟨e, hc⟩ | ⟨n, m, hn, hm, hc⟩ | ⟨hc, hquote, hbackslash⟩
  · rw [hc]
    exact strip_escape e t
  · have hzero (t : List Char) : strip true ('0' :: t) = '0' :: strip true t :=
      strip_inString (by decide) (by decide) t
    rw [hc]
    simp only [List.cons_append, List.nil_append, strip_escape, hzero, strip_hexDigit hn,
      strip_hexDigit hm]
  · rw [hc]
    exact strip_inString hquote hbackslash t

theorem strip_writeString (s : String) (t : List Char) :
    strip false (writeString s ++ t) = writeString s ++ strip false t := by
  have hbody (cs : List Char) : strip true (cs.flatMap writeChar ++ '"' :: t) =
      cs.flatMap writeChar ++ '"' :: strip false t := by
    induction cs with
    | nil => rfl
    | cons c cs ih => simp only [List.flatMap_cons, List.append_assoc, strip_writeChar, ih]
  have hopen : strip false ('"' :: (s.toList.flatMap writeChar ++ '"' :: t)) =
      '"' :: strip true (s.toList.flatMap writeChar ++ '"' :: t) := rfl
  simp only [writeString, List.cons_append, List.append_assoc, List.nil_append, hopen, hbody]

/-! ## Numbers -/

namespace Grammar

open Text

/-- A text goes on after some characters that are neither white space nor quotes. -/
def Plain (t r : List Char) : Prop := ∃ front, t = front ++ r ∧ ∀ c ∈ front, IsPlain c

theorem Plain.trans {t u r : List Char} (h : Plain t u) (h' : Plain u r) : Plain t r := by
  obtain ⟨front, rfl, hfront⟩ := h
  obtain ⟨front', rfl, hfront'⟩ := h'
  refine ⟨front ++ front', by simp, fun c hc => ?_⟩
  rcases List.mem_append.1 hc with hc | hc
  · exact hfront c hc
  · exact hfront' c hc

theorem plain_refl (t : List Char) : Plain t t := ⟨[], rfl, by simp⟩

theorem plain_cons {c : Char} (h : IsPlain c) (t : List Char) : Plain (c :: t) t :=
  ⟨[c], rfl, by simpa using h⟩

theorem plain_digits {ds : List Char} (h : AllDigits ds) (r : List Char) : Plain (ds ++ r) r :=
  ⟨ds, rfl, fun c hc => ⟨isSpace_of_digit (h c hc), ne_of_digit (h c hc) (by decide)⟩⟩

theorem Sign.plain {signs t u : List Char} {b : Bool} (hsigns : ∀ c ∈ signs, IsPlain c)
    (h : Sign signs t b u) : Plain t u := by
  cases h with
  | absent => exact plain_refl t
  | present hc => exact plain_cons (hsigns _ hc) u

theorem Fraction.plain {t p r : List Char} (h : Fraction t p r) : Plain t r := by
  cases h with
  | absent => exact plain_refl t
  | point hall => exact (plain_cons ⟨by decide, by decide⟩ _).trans (plain_digits hall r)

theorem Exponent.plain {t r : List Char} {e : Option Int} (h : Exponent t e r) : Plain t r := by
  cases h with
  | absent => exact plain_refl t
  | @present c _ _ _ _ hc hsign hall =>
    have hletter : IsPlain c := by rcases hc with rfl | rfl <;> exact ⟨by decide, by decide⟩
    have hfront := (plain_cons hletter _).trans (hsign.plain (by simp [IsPlain, isSpace]))
    exact hfront.trans (plain_digits hall r)

theorem Number.plain {t r : List Char} {v : Json} (h : Number t v r) : Plain t r := by
  obtain ⟨hsign, hwhole, hfraction, hexponent⟩ := h
  have hdigits := (hsign.plain (by simp [IsPlain, isSpace])).trans (plain_digits hwhole.1 _)
  exact (hdigits.trans hfraction.plain).trans hexponent.plain

end Grammar

/-! ## Values -/

/-- A text is another but for white space outside strings, wherever it stands. -/
def Strips (text compact : List Char) : Prop :=
  ∀ rest, strip false (text ++ rest) = compact ++ strip false rest

theorem strips_plain {text : List Char} (h : ∀ c ∈ text, IsPlain c) : Strips text text :=
  fun rest => strip_plain h rest

theorem strips_number {text : List Char} {v : Json} (h : Grammar.Number text v []) :
    Strips text text := by
  obtain ⟨front, rfl, hfront⟩ := h.plain
  rw [List.append_nil]
  exact strips_plain hfront

theorem strips_real (x : Double) :
    Strips (x.render realLayout).toList (x.render realLayout).toList := by
  have hnull : ∀ c ∈ "null".toList, IsPlain c := by simp [IsPlain, isSpace]
  cases x with
  | finite negative x =>
    have hnumber := Grammar.Number.of_finite negative x Reader.ends_nil
    rw [List.append_nil] at hnumber
    exact strips_number hnumber
  | infinite negative => cases negative <;> exact strips_plain hnull
  | nan => exact strips_plain hnull

theorem strip_lineBreak (indent : Option Nat) (level : Nat) (t : List Char) :
    strip false (lineBreak indent level ++ t) = strip false t :=
  strip_append (Reader.isSpace_lineBreak indent level) t

theorem strip_colon (indent : Option Nat) (t : List Char) :
    strip false (colon indent ++ t) = ':' :: strip false t := by
  obtain ⟨space, hcolon, hspace⟩ := Reader.colon_eq indent
  rw [hcolon, List.cons_append, strip_cons ⟨by decide, by decide⟩, strip_append hspace]

theorem Strips.entry {text compact : List Char} (h : Strips text compact) (indent : Option Nat)
    (k : String) : Strips (writeEntry indent k text) (writeEntry none k compact) := by
  intro rest
  have hcompact : colon none = [':'] := rfl
  simp only [writeEntry, List.append_assoc, strip_writeString, strip_colon, h rest, hcompact,
    List.cons_append, List.nil_append]

/-- The parts of a container after its first, with a comma before each. -/
theorem strip_parts {indent : Option Nat} {level : Nat} {texts compacts : List (List Char)}
    (h : List.Forall₂ Strips texts compacts) (t : List Char) :
    strip false ((texts.flatMap fun text => ',' :: (lineBreak indent level ++ text)) ++ t) =
      (compacts.flatMap fun text => ',' :: text) ++ strip false t := by
  induction h with
  | nil => rfl
  | cons hfirst _ ih =>
    simp only [List.flatMap_cons, List.cons_append, List.append_assoc,
      strip_cons (c := ',') ⟨by decide, by decide⟩, strip_lineBreak, hfirst _, ih]

theorem Strips.enclose {indent : Option Nat} {level level' : Nat} {first last : Char}
    (hfirst : IsPlain first) (hlast : IsPlain last) {texts compacts : List (List Char)}
    (h : List.Forall₂ Strips texts compacts) :
    Strips (enclose indent level first last texts) (enclose none level' first last compacts) := by
  intro rest
  cases h with
  | nil =>
    have hboth : ∀ c ∈ [first, last], IsPlain c := by simp [hfirst, hlast]
    exact strip_plain hboth rest
  | cons hpart hparts =>
    have hbreak (level : Nat) : lineBreak none level = [] := rfl
    simp only [Json.enclose, List.cons_append, List.append_assoc, strip_cons hfirst,
      strip_lineBreak, hpart _, strip_parts hparts, strip_cons hlast, hbreak, List.nil_append]

theorem strips_writeAt (indent : Option Nat) (level level' : Nat) (v : Json) :
    Strips (writeAt indent level v) (writeAt none level' v) := by
  induction v using Json.induction generalizing level level' with
  | null => exact strips_plain (by simp [writeAt, IsPlain, isSpace])
  | bool b => cases b <;> exact strips_plain (by simp [writeAt, IsPlain, isSpace])
  | integer n =>
    have hnumber := Grammar.Number.of_integer n []
    rw [List.append_nil] at hnumber
    exact strips_number hnumber
  | real x => exact strips_real x
  | string s => exact strip_writeString s
  | array items ih =>
    rw [writeAt_array, writeAt_array]
    exact .enclose ⟨by decide, by decide⟩ ⟨by decide, by decide⟩
      (forall₂_map_map fun v hv => ih v hv _ _)
  | object entries ih =>
    rw [writeAt_object, writeAt_object]
    exact .enclose ⟨by decide, by decide⟩ ⟨by decide, by decide⟩
      (forall₂_map_map fun e he => (ih e he _ _).entry indent e.1)

/-- Without the white space outside its strings, the text of a value is its compact text. -/
theorem withoutSpace_write (indent : Option Nat) (v : Json) :
    withoutSpace (write indent v) = write none v := by
  have hstrips := strips_writeAt indent 0 0 v []
  rw [List.append_nil, strip, List.append_nil] at hstrips
  rw [withoutSpace, write, String.toList_ofList, hstrips, write]

end Json
end ChatRecords
