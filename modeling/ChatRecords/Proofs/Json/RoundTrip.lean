import ChatRecords.Proofs.Json.Numbers

/-!
# Reading what was written

The text of a JSON value reads back as the value, compact or indented, unless the value lies
beyond the limits of the reader. All its doubles have to be finite, as the others have no text.

## Main definitions

* `Json.nesting`: how many containers that are not empty lie within one another.
* `Json.leaves`: the parts of a value that are not containers.
* `Json.isReadable`: whether a value lies within the limits of the reader.
* `Json.AllFinite`: all doubles of a value are finite.

## Main results

* `Json.readWithin_write`: what the reader makes of a text that was written.
-/

namespace ChatRecords
namespace Json

/-- Induction over JSON values. -/
@[elab_as_elim]
theorem induction {motive : Json → Prop} (null : motive .null) (bool : ∀ b, motive (.bool b))
    (integer : ∀ n, motive (.integer n)) (real : ∀ x, motive (.real x))
    (string : ∀ s, motive (.string s))
    (array : ∀ items, (∀ v ∈ items, motive v) → motive (.array items))
    (object : ∀ entries, (∀ e ∈ entries, motive e.2) → motive (.object entries)) (v : Json) :
    motive v := by
  refine @Json.rec motive (fun items => ∀ v ∈ items, motive v)
    (fun entries => ∀ e ∈ entries, motive e.2) (fun e => motive e.2) null bool integer real string
    array object ?_ ?_ ?_ ?_ ?_ v
  · simp
  · intro v items hv hitems
    simpa using ⟨hv, hitems⟩
  · simp
  · intro e entries he hentries
    simp only [List.mem_cons, forall_eq_or_imp]
    exact ⟨he, hentries⟩
  · intro k v hv
    exact hv

/-! ## Limits of the reader -/

mutual

/-- How many containers that are not empty lie within one another. -/
def nesting : Json → Nat
  | .array (v :: rest) => max (nesting v) (nestingOfItems rest) + 1
  | .object ((_, v) :: rest) => max (nesting v) (nestingOfEntries rest) + 1
  | _ => 0

/-- The most containers within an item. -/
def nestingOfItems : List Json → Nat
  | [] => 0
  | v :: rest => max (nesting v) (nestingOfItems rest)

/-- The most containers within the value of an entry. -/
def nestingOfEntries : List (String × Json) → Nat
  | [] => 0
  | (_, v) :: rest => max (nesting v) (nestingOfEntries rest)

end

mutual

/-- The parts of a value that are not containers. -/
def leaves : Json → List Json
  | .array items => leavesOfItems items
  | .object entries => leavesOfEntries entries
  | v => [v]

def leavesOfItems : List Json → List Json
  | [] => []
  | v :: rest => leaves v ++ leavesOfItems rest

/-- The leaves of the values of entries. -/
def leavesOfEntries : List (String × Json) → List Json
  | [] => []
  | (_, v) :: rest => leaves v ++ leavesOfEntries rest

end

/-- Whether a value is not an integer with too many digits. -/
def isShort : Json → Bool
  | .integer n => decide ((Nat.toDigits 10 n.natAbs).length ≤ Text.digitLimit)
  | _ => true

/-- Whether a value lies within the limits of the reader: at most `depth` containers that are not
empty lie around any part, and no integer has too many digits. -/
def isReadable (depth : Nat) (v : Json) : Bool :=
  decide (v.nesting ≤ depth) && v.leaves.all isShort

/-- All doubles of a value are finite. -/
def AllFinite (v : Json) : Prop := ∀ x, .real x ∈ v.leaves → x.isFinite = true

theorem nesting_le_of_isReadable {depth : Nat} {v : Json} (h : v.isReadable depth = true) :
    v.nesting ≤ depth := by
  rw [isReadable, Bool.and_eq_true] at h
  exact of_decide_eq_true h.1

theorem nestingOfItems_le_iff {items : List Json} {depth : Nat} :
    nestingOfItems items ≤ depth ↔ ∀ v ∈ items, v.nesting ≤ depth := by
  induction items with
  | nil => simp [nestingOfItems]
  | cons v rest ih => simp [nestingOfItems, ih]

theorem nestingOfEntries_le_iff {entries : List (String × Json)} {depth : Nat} :
    nestingOfEntries entries ≤ depth ↔ ∀ e ∈ entries, e.2.nesting ≤ depth := by
  induction entries with
  | nil => simp [nestingOfEntries]
  | cons e rest ih =>
    obtain ⟨k, v⟩ := e
    simp only [nestingOfEntries, max_le_iff, ih, List.mem_cons, forall_eq_or_imp]

theorem leavesOfItems_eq (items : List Json) : leavesOfItems items = items.flatMap leaves := by
  induction items with
  | nil => rfl
  | cons v rest ih => rw [leavesOfItems, ih, List.flatMap_cons]

theorem leavesOfEntries_eq (entries : List (String × Json)) :
    leavesOfEntries entries = entries.flatMap fun e => e.2.leaves := by
  induction entries with
  | nil => rfl
  | cons e rest ih =>
    obtain ⟨k, v⟩ := e
    rw [leavesOfEntries, ih, List.flatMap_cons]

theorem nesting_array_le_iff {v : Json} {rest : List Json} {depth : Nat} :
    nesting (.array (v :: rest)) ≤ depth ↔
      0 < depth ∧ ∀ w ∈ v :: rest, w.nesting ≤ depth - 1 := by
  rw [← nestingOfItems_le_iff]
  simp only [nesting, nestingOfItems]
  omega

theorem nesting_object_le_iff {e : String × Json} {rest : List (String × Json)} {depth : Nat} :
    nesting (.object (e :: rest)) ≤ depth ↔
      0 < depth ∧ ∀ e' ∈ e :: rest, e'.2.nesting ≤ depth - 1 := by
  rw [← nestingOfEntries_le_iff]
  simp only [nesting, nestingOfEntries]
  omega

theorem isReadable_array (depth : Nat) (v : Json) (rest : List Json) :
    isReadable depth (.array (v :: rest)) =
      (decide (0 < depth) && (v :: rest).all (isReadable (depth - 1))) := by
  rw [Bool.eq_iff_iff]
  simp only [isReadable, leaves, leavesOfItems_eq, Bool.and_eq_true, decide_eq_true_eq,
    nesting_array_le_iff, List.all_flatMap, List.all_eq_true]
  constructor
  · rintro ⟨⟨hpos, hnesting⟩, hleaves⟩
    exact ⟨hpos, fun w hw => ⟨hnesting w hw, hleaves w hw⟩⟩
  · rintro ⟨hpos, hall⟩
    exact ⟨⟨hpos, fun w hw => (hall w hw).1⟩, fun w hw => (hall w hw).2⟩

theorem isReadable_object (depth : Nat) (e : String × Json) (rest : List (String × Json)) :
    isReadable depth (.object (e :: rest)) =
      (decide (0 < depth) && (e :: rest).all fun e => isReadable (depth - 1) e.2) := by
  rw [Bool.eq_iff_iff]
  simp only [isReadable, leaves, leavesOfEntries_eq, Bool.and_eq_true, decide_eq_true_eq,
    nesting_object_le_iff, List.all_flatMap, List.all_eq_true]
  constructor
  · rintro ⟨⟨hpos, hnesting⟩, hleaves⟩
    exact ⟨hpos, fun e' he' => ⟨hnesting e' he', hleaves e' he'⟩⟩
  · rintro ⟨hpos, hall⟩
    exact ⟨⟨hpos, fun e' he' => (hall e' he').1⟩, fun e' he' => (hall e' he').2⟩

theorem allFinite_array_iff {items : List Json} :
    (Json.array items).AllFinite ↔ ∀ v ∈ items, v.AllFinite := by
  simp only [AllFinite, leaves, leavesOfItems_eq, List.mem_flatMap]
  exact ⟨fun h v hv x hx => h x ⟨v, hv, hx⟩, fun h x ⟨v, hv, hx⟩ => h v hv x hx⟩

theorem allFinite_object_iff {entries : List (String × Json)} :
    (Json.object entries).AllFinite ↔ ∀ e ∈ entries, e.2.AllFinite := by
  simp only [AllFinite, leaves, leavesOfEntries_eq, List.mem_flatMap]
  exact ⟨fun h e he x hx => h x ⟨e, he, hx⟩, fun h x ⟨e, he, hx⟩ => h e he x hx⟩

namespace Reader

open Text

/-! ## Strings -/

theorem hexDigit?_hexDigit {n : Nat} (h : n < 16) : hexDigit? (hexDigit n) = some n := by
  have hall : ∀ n < 16, hexDigit? (hexDigit n) = some n := by decide
  exact hall n h

theorem hex4?_control {c : Char} (h : c < ' ') :
    hex4? '0' '0' (hexDigit (c.toNat / 16)) (hexDigit (c.toNat % 16)) = some c.toNat := by
  have hc : c.toNat < 32 := h
  have hzero : hexDigit? '0' = some 0 := rfl
  simp only [hex4?, hzero, hexDigit?_hexDigit (show c.toNat / 16 < 16 by omega),
    hexDigit?_hexDigit (show c.toNat % 16 < 16 by omega), Option.bind_eq_bind, Option.bind_some,
    Option.pure_def, Option.some.injEq]
  omega

theorem stringBody_writeChar (c : Char) (rest : List Char) :
    stringBody (writeChar c ++ rest) = (stringBody rest).map fun r => (c :: r.1, r.2) := by
  by_cases hquote : c = '"'
  · subst hquote
    rfl
  by_cases hbackslash : c = '\\'
  · subst hbackslash
    rfl
  by_cases hcontrol : c < ' '
  · -- five control characters have an escape of one letter, the others one of four digits
    unfold writeChar
    rw [if_neg hquote, if_neg hbackslash]
    repeat' split
    · next hc => subst hc; rfl
    · next hc => subst hc; rfl
    · next hc => subst hc; rfl
    · next hc => subst hc; rfl
    · next hc => subst hc; rfl
    · have hsmall : c.toNat < 0xD800 := by
        have : c.toNat < 32 := hcontrol
        omega
      simp only [List.cons_append, List.nil_append]
      rw [stringBody, hex4?_control hcontrol]
      simp [hsmall]
  · have hwrite : writeChar c = [c] := by
      unfold writeChar
      repeat' split
      all_goals simp_all
    rw [hwrite, List.singleton_append, stringBody, if_neg hcontrol]
    · simpa using hquote
    -- no branch of the reader for escapes applies
    · intro a b c' d rest' hc
      exact absurd hc hbackslash
    · intro c' rest' hc
      exact absurd hc hbackslash

theorem stringBody_write (s : List Char) (rest : List Char) :
    stringBody (s.flatMap writeChar ++ '"' :: rest) = some (s, rest) := by
  induction s with
  | nil => rfl
  | cons c s ih => rw [List.flatMap_cons, List.append_assoc, stringBody_writeChar, ih]; rfl

/-! ## White space -/

theorem skip_append {space : List Char} (h : ∀ c ∈ space, isSpace c = true) (cs : List Char) :
    skip (space ++ cs) = skip cs := by
  rw [skip, skip, List.dropWhile_append_of_pos h]

theorem skip_cons {c : Char} (h : isSpace c = false) (cs : List Char) :
    skip (c :: cs) = c :: cs := by
  simp [skip, h]

theorem isSpace_lineBreak (indent : Option Nat) (level : Nat) :
    ∀ c ∈ lineBreak indent level, isSpace c = true := by
  intro c hc
  cases indent with
  | none => simp [lineBreak] at hc
  | some width =>
    rcases List.mem_cons.1 hc with rfl | hc
    · decide
    · rw [(List.mem_replicate.1 hc).2]
      decide

theorem colon_eq (indent : Option Nat) :
    ∃ space, colon indent = ':' :: space ∧ ∀ c ∈ space, isSpace c = true := by
  cases indent with
  | none => exact ⟨[], rfl, by simp⟩
  | some width => exact ⟨[' '], rfl, fun c hc => List.mem_singleton.1 hc ▸ rfl⟩

theorem value_append {space : List Char} (h : ∀ c ∈ space, isSpace c = true) (fuel depth : Nat)
    (cs : List Char) : value fuel depth (space ++ cs) = value fuel depth cs := by
  cases fuel with
  | zero => simp [value]
  | succ fuel => rw [value, value, skip_append h]

theorem items_append {space : List Char} (h : ∀ c ∈ space, isSpace c = true) (fuel depth : Nat)
    (cs : List Char) : items fuel depth (space ++ cs) = items fuel depth cs := by
  cases fuel with
  | zero => simp [items]
  | succ fuel => rw [items, items, value_append h]

theorem entries_append {space : List Char} (h : ∀ c ∈ space, isSpace c = true)
    (fuel depth : Nat) (cs : List Char) :
    entries fuel depth (space ++ cs) = entries fuel depth cs := by
  cases fuel with
  | zero => simp [entries]
  | succ fuel => rw [entries, entries, skip_append h]

/-- What follows a value is the next item, or the end of the line or of the container. -/
theorem ends_lineBreak (indent : Option Nat) (level : Nat) {close : Char}
    (hclose : close = ']' ∨ close = '}') (rest : List Char) :
    Ends (lineBreak indent level ++ close :: rest) := by
  cases indent with
  | none =>
    intro c hc
    obtain rfl : close = c := by simpa [lineBreak] using hc
    rcases hclose with rfl | rfl <;> simp
  | some width =>
    intro c hc
    obtain rfl : '\n' = c := by simpa [lineBreak] using hc
    simp

theorem ends_writeItems (indent : Option Nat) (level : Nat) (rest : List Json) {cs : List Char}
    (hcs : Ends cs) : Ends (writeItems indent level rest ++ cs) := by
  cases rest with
  | nil => exact hcs
  | cons v rest => simp [Ends, writeItems]

theorem ends_writeEntries (indent : Option Nat) (level : Nat) (rest : List (String × Json))
    {cs : List Char} (hcs : Ends cs) : Ends (writeEntries indent level rest ++ cs) := by
  cases rest with
  | nil => exact hcs
  | cons e rest => simp [Ends, writeEntries]

/-! ## Values without parts -/

/-- A text that begins as a number does. -/
def StartsNumber (cs : List Char) : Prop := StartsDigit cs ∨ cs.head? = some '-'

theorem StartsNumber.head?_ne {cs : List Char} (h : StartsNumber cs) {c : Char}
    (hdigit : isAsciiDigit c = false) (hminus : c ≠ '-') : cs.head? ≠ some c := by
  rcases h with h | h
  · exact h.head?_ne hdigit
  · rw [h]
    simpa using hminus.symm

theorem StartsNumber.append {cs : List Char} (h : StartsNumber cs) (rest : List Char) :
    StartsNumber (cs ++ rest) := by
  cases cs with
  | nil => simp [StartsNumber, StartsDigit] at h
  | cons c cs => simpa [StartsNumber, StartsDigit] using h

theorem startsNumber_integer (n : Int) : StartsNumber (toString n).toList := by
  rw [toList_toString_int]
  split
  · exact .inr rfl
  · have hdigit := startsDigit_append (allDigits_toDigits n.natAbs) Nat.toDigits_ne_nil []
    rw [List.append_nil] at hdigit
    exact .inl hdigit

theorem startsNumber_real (negative : Bool) (x : Magnitude) :
    StartsNumber ((Double.finite negative x).render realLayout).toList := by
  have hdigit := startsDigit_of_unsigned (unsigned_magnitude false x ends_nil)
  rw [List.append_nil] at hdigit
  cases negative with
  | false => exact .inl (by simpa [Double.render] using hdigit)
  | true => exact .inr (by simp [Double.render])

theorem atom_number {cs : List Char} (h : StartsNumber cs) : atom cs = number cs := by
  have hnull : word? "null" cs = none :=
    word?_eq_none rfl (h.head?_ne (c := 'n') (by decide) (by decide))
  have htrue : word? "true" cs = none :=
    word?_eq_none rfl (h.head?_ne (c := 't') (by decide) (by decide))
  have hfalse : word? "false" cs = none :=
    word?_eq_none rfl (h.head?_ne (c := 'f') (by decide) (by decide))
  have hnan : word? "NaN" cs = none :=
    word?_eq_none rfl (h.head?_ne (c := 'N') (by decide) (by decide))
  have hinfinity : word? "Infinity" cs = none :=
    word?_eq_none rfl (h.head?_ne (c := 'I') (by decide) (by decide))
  simp [atom, hnull, htrue, hfalse, hnan, hinfinity]

theorem value_number {cs : List Char} (h : StartsNumber cs) (fuel depth : Nat) :
    value (fuel + 1) depth cs = number cs := by
  have hskip : skip cs = cs := by
    cases cs with
    | nil => rfl
    | cons c cs =>
      apply skip_cons
      have hspace := h.head?_ne (c := ' ') (by decide) (by decide)
      have htab := h.head?_ne (c := '\t') (by decide) (by decide)
      have hline := h.head?_ne (c := '\n') (by decide) (by decide)
      have hreturn := h.head?_ne (c := '\r') (by decide) (by decide)
      simp_all [isSpace]
  have hquote := h.head?_ne (c := '"') (by decide) (by decide)
  have hbracket := h.head?_ne (c := '[') (by decide) (by decide)
  have hbrace := h.head?_ne (c := '{') (by decide) (by decide)
  rw [value, hskip, ← atom_number h]
  split <;> simp_all

/-! ## Containers -/

/-- A text that begins neither with white space nor with a closing bracket. -/
def StartsValue (cs : List Char) : Prop :=
  ∃ c ∈ cs.head?, isSpace c = false ∧ c ≠ ']'

theorem StartsNumber.startsValue {cs : List Char} (h : StartsNumber cs) : StartsValue cs := by
  rcases h with ⟨c, hc, hdigit⟩ | hminus
  · refine ⟨c, hc, ?_, ?_⟩
    · by_contra hspace
      simp only [isSpace, Bool.or_eq_true, decide_eq_true_eq, Bool.not_eq_false] at hspace
      rcases hspace with ((rfl | rfl) | rfl) | rfl <;> revert hdigit <;> decide
    · rintro rfl
      revert hdigit
      decide
  · exact ⟨'-', hminus, by decide, by decide⟩

/-- So does the text of a value, whatever follows it. -/
theorem startsValue_writeAt (indent : Option Nat) (level : Nat) {v : Json}
    (hfinite : v.AllFinite) (rest : List Char) : StartsValue (writeAt indent level v ++ rest) := by
  cases v with
  | null => exact ⟨'n', rfl, by decide, by decide⟩
  | bool b => cases b <;> exact ⟨_, rfl, by decide, by decide⟩
  | integer n => exact ((startsNumber_integer n).append rest).startsValue
  | real x =>
    cases x with
    | finite negative x => exact ((startsNumber_real negative x).append rest).startsValue
    | infinite negative =>
      simpa [Double.isFinite] using hfinite (.infinite negative) (by simp [leaves])
    | nan => simpa [Double.isFinite] using hfinite .nan (by simp [leaves])
  | string s => exact ⟨'"', rfl, by decide, by decide⟩
  | array items => cases items <;> exact ⟨'[', rfl, by decide, by decide⟩
  | object entries => cases entries <;> exact ⟨'{', rfl, by decide, by decide⟩

theorem StartsValue.skip {cs : List Char} (h : StartsValue cs) : skip cs = cs := by
  obtain ⟨c, hc, hspace, -⟩ := h
  cases cs with
  | nil => rfl
  | cons d cs =>
    obtain rfl : d = c := by simpa using hc
    exact skip_cons hspace cs

/-- The text of a value reads back, wherever it stands. -/
def Reads (indent : Option Nat) (v : Json) : Prop :=
  ∀ level fuel depth rest, 2 * (writeAt indent level v).length ≤ fuel → Ends rest →
    value fuel depth (writeAt indent level v ++ rest) =
      if v.isReadable depth then some (v, rest) else none

/-- The items of an array read back if each of them does. -/
theorem items_write {indent : Option Nat} {v : Json} {rest : List Json}
    (h : ∀ w ∈ v :: rest, Reads indent w) (level close fuel depth : Nat) (tail : List Char)
    (hfuel : 2 * ((writeAt indent level v).length + (writeItems indent level rest).length) + 1 ≤
      fuel) :
    items fuel depth (writeAt indent level v ++ (writeItems indent level rest ++
      (lineBreak indent close ++ ']' :: tail))) =
      if (v :: rest).all (isReadable depth) then some (v :: rest, tail) else none := by
  -- the reader takes one step of fuel for each item, after the fuel that the item itself needs
  induction rest generalizing v fuel with
  | nil =>
    cases fuel with
    | zero => omega
    | succ fuel =>
      have hv := h v (by simp) level fuel depth (lineBreak indent close ++ ']' :: tail) (by
        omega) (ends_lineBreak indent close (.inl rfl) tail)
      have hskip : skip (lineBreak indent close ++ ']' :: tail) = ']' :: tail := by
        rw [skip_append (isSpace_lineBreak indent close), skip_cons (by decide)]
      rw [writeItems, List.nil_append, items, hv]
      cases hreadable : v.isReadable depth <;> simp [hskip, hreadable]
  | cons w rest ih =>
    cases fuel with
    | zero => omega
    | succ fuel =>
      rw [writeItems, List.length_cons, List.length_append, List.length_append] at hfuel
      have hends := ends_writeItems indent level (w :: rest)
        (ends_lineBreak indent close (.inl rfl) tail)
      have hv := h v (by simp) level fuel depth _ (by omega) hends
      have hrest := ih (fun w' hw' => h w' (List.mem_cons_of_mem _ hw')) fuel (by omega)
      have htext : writeItems indent level (w :: rest) ++ (lineBreak indent close ++ ']' :: tail) =
          ',' :: (lineBreak indent level ++ (writeAt indent level w ++
            (writeItems indent level rest ++ (lineBreak indent close ++ ']' :: tail)))) := by
        simp [writeItems]
      rw [items, hv]
      -- an item beyond the limits ends the reading here
      cases hreadable : v.isReadable depth with
      | false => simp [hreadable]
      | true =>
        have hskip (cs : List Char) : skip (',' :: cs) = ',' :: cs :=
          skip_cons (by decide) cs
        rw [htext, List.all_cons, hreadable, Bool.true_and]
        simp only [if_true, hskip, items_append (isSpace_lineBreak indent level), hrest]
        cases (w :: rest).all (isReadable depth) <;> rfl

/-- A key and the colon after it are read off the front of an entry. -/
theorem entries_key (indent : Option Nat) (fuel depth : Nat) (k : String) (cs : List Char) :
    entries (fuel + 1) depth (writeString k ++ (colon indent ++ cs)) =
      match value fuel depth cs with
      | none => none
      | some (v, rest) =>
        match skip rest with
        | ',' :: rest => (entries fuel depth rest).map fun r => ((k, v) :: r.1, r.2)
        | '}' :: rest => some ([(k, v)], rest)
        | _ => none := by
  obtain ⟨space, hcolon, hspace⟩ := colon_eq indent
  have hquote (cs : List Char) : skip ('"' :: cs) = '"' :: cs := skip_cons (by decide) cs
  have hpoint (cs : List Char) : skip (':' :: cs) = ':' :: cs := skip_cons (by decide) cs
  rw [writeString, List.cons_append, List.append_assoc, List.singleton_append, entries, hquote]
  simp only [stringBody_write, hcolon, List.cons_append, hpoint, String.ofList_toList]
  exact value_append hspace fuel depth cs ▸ rfl

/-- The entries of an object read back if each of their values does. -/
theorem entries_write {indent : Option Nat} {e : String × Json} {rest : List (String × Json)}
    (h : ∀ e' ∈ e :: rest, Reads indent e'.2) (level close fuel depth : Nat) (tail : List Char)
    (hfuel : 2 * ((writeAt indent level e.2).length + (writeEntries indent level rest).length) + 1 ≤
      fuel) :
    entries fuel depth (writeString e.1 ++ (colon indent ++ (writeAt indent level e.2 ++
      (writeEntries indent level rest ++ (lineBreak indent close ++ '}' :: tail))))) =
      if (e :: rest).all (fun e => isReadable depth e.2) then some (e :: rest, tail) else none := by
  induction rest generalizing e fuel with
  | nil =>
    cases fuel with
    | zero => omega
    | succ fuel =>
      obtain ⟨k, v⟩ := e
      have hv := h (k, v) (by simp) level fuel depth (lineBreak indent close ++ '}' :: tail) (by
        omega) (ends_lineBreak indent close (.inr rfl) tail)
      have hskip : skip (lineBreak indent close ++ '}' :: tail) = '}' :: tail := by
        rw [skip_append (isSpace_lineBreak indent close), skip_cons (by decide)]
      rw [writeEntries, List.nil_append, entries_key, hv]
      cases hreadable : v.isReadable depth <;> simp [hskip, hreadable]
  | cons e' rest ih =>
    cases fuel with
    | zero => omega
    | succ fuel =>
      obtain ⟨k, v⟩ := e
      obtain ⟨k', w⟩ := e'
      rw [writeEntries, List.length_cons, List.length_append, List.length_append,
        List.length_append, List.length_append] at hfuel
      have hends := ends_writeEntries indent level ((k', w) :: rest)
        (ends_lineBreak indent close (.inr rfl) tail)
      have hv := h (k, v) (by simp) level fuel depth _ (by omega) hends
      have hrest := ih (fun e' he' => h e' (List.mem_cons_of_mem _ he')) fuel
        (by dsimp only; omega)
      have htext : writeEntries indent level ((k', w) :: rest) ++
          (lineBreak indent close ++ '}' :: tail) =
          ',' :: (lineBreak indent level ++ (writeString k' ++ (colon indent ++
            (writeAt indent level w ++ (writeEntries indent level rest ++
              (lineBreak indent close ++ '}' :: tail)))))) := by
        simp [writeEntries]
      rw [entries_key, hv]
      cases hreadable : v.isReadable depth with
      | false => simp [hreadable]
      | true =>
        have hskip (cs : List Char) : skip (',' :: cs) = ',' :: cs := skip_cons (by decide) cs
        rw [htext, List.all_cons, hreadable, Bool.true_and]
        simp only [if_true, hskip, entries_append (isSpace_lineBreak indent level), hrest]
        cases ((k', w) :: rest).all fun e => isReadable depth e.2 <;> rfl

/-! ## Whole values -/

theorem reads_number {indent : Option Nat} {v : Json} {text : List Char}
    (htext : ∀ level, writeAt indent level v = text) (hstart : StartsNumber text)
    (hread : ∀ depth rest, Ends rest →
      number (text ++ rest) = if v.isReadable depth then some (v, rest) else none) :
    Reads indent v := by
  intro level fuel depth rest hfuel hends
  rw [htext] at hfuel ⊢
  cases fuel with
  | zero =>
    obtain rfl : text = [] := by simpa using hfuel
    simp [StartsNumber, StartsDigit] at hstart
  | succ fuel => rw [value_number (hstart.append rest), hread depth rest hends]

theorem value_bracket {space : List Char} (hspace : ∀ c ∈ space, isSpace c = true)
    {cs : List Char} (hstart : StartsValue cs) (fuel depth : Nat) :
    value (fuel + 1) depth ('[' :: (space ++ cs)) =
      if 0 < depth then (items fuel (depth - 1) cs).map fun r => (.array r.1, r.2) else none := by
  have hskip (cs : List Char) : skip ('[' :: cs) = '[' :: cs := skip_cons (by decide) cs
  have hcs := hstart.skip
  obtain ⟨c, hc, -, hne⟩ := hstart
  cases cs with
  | nil => simp at hc
  | cons d cs =>
    obtain rfl : d = c := by simpa using hc
    cases depth with
    | zero => simp [value, hskip, skip_append hspace, hcs, hne]
    | succ depth => simp [value, hskip, skip_append hspace, hcs, hne]

theorem value_brace {space : List Char} (hspace : ∀ c ∈ space, isSpace c = true) (k : String)
    (cs : List Char) (fuel depth : Nat) :
    value (fuel + 1) depth ('{' :: (space ++ (writeString k ++ cs))) =
      if 0 < depth then
        (entries fuel (depth - 1) (writeString k ++ cs)).map fun r => (.object r.1, r.2)
      else none := by
  have hskip (cs : List Char) : skip ('{' :: cs) = '{' :: cs := skip_cons (by decide) cs
  have hquote (cs : List Char) : skip ('"' :: cs) = '"' :: cs := skip_cons (by decide) cs
  cases depth with
  | zero => simp [value, hskip, skip_append hspace, writeString, hquote]
  | succ depth => simp [value, hskip, skip_append hspace, writeString, hquote]

theorem reads_array {indent : Option Nat} {items : List Json}
    (hfinite : (Json.array items).AllFinite) (h : ∀ v ∈ items, Reads indent v) :
    Reads indent (.array items) := by
  intro level fuel depth rest hfuel hends
  cases items with
  | nil =>
    cases fuel with
    | zero => simp [writeAt] at hfuel
    | succ fuel =>
      have hskip (cs : List Char) : skip ('[' :: cs) = '[' :: cs := skip_cons (by decide) cs
      have hclose (cs : List Char) : skip (']' :: cs) = ']' :: cs := skip_cons (by decide) cs
      rw [writeAt, List.cons_append, value, hskip]
      simp [hclose, isReadable, nesting, leaves, leavesOfItems]
  | cons v items =>
    rw [writeAt, List.length_cons, List.length_append, List.length_append, List.length_append,
      List.length_append] at hfuel
    cases fuel with
    | zero => omega
    | succ fuel =>
      -- the text with its parts apart, as the lemma on items has them
      have htext : writeAt indent level (.array (v :: items)) ++ rest =
          '[' :: (lineBreak indent (level + 1) ++ (writeAt indent (level + 1) v ++
            (writeItems indent (level + 1) items ++ (lineBreak indent level ++ ']' :: rest)))) := by
        simp [writeAt]
      have hstart := startsValue_writeAt indent (level + 1)
          (allFinite_array_iff.1 hfinite v List.mem_cons_self)
        (writeItems indent (level + 1) items ++ (lineBreak indent level ++ ']' :: rest))
      rw [htext, value_bracket (isSpace_lineBreak indent (level + 1)) hstart,
        items_write h (level + 1) level fuel (depth - 1) rest (by omega), isReadable_array]
      cases (v :: items).all (isReadable (depth - 1)) <;> by_cases hdepth : 0 < depth <;>
        simp [hdepth]

theorem reads_object {indent : Option Nat} {entries : List (String × Json)}
    (h : ∀ e ∈ entries, Reads indent e.2) : Reads indent (.object entries) := by
  intro level fuel depth rest hfuel hends
  cases entries with
  | nil =>
    cases fuel with
    | zero => simp [writeAt] at hfuel
    | succ fuel =>
      have hskip (cs : List Char) : skip ('{' :: cs) = '{' :: cs := skip_cons (by decide) cs
      have hclose (cs : List Char) : skip ('}' :: cs) = '}' :: cs := skip_cons (by decide) cs
      rw [writeAt, List.cons_append, value, hskip]
      simp [hclose, isReadable, nesting, leaves, leavesOfEntries]
  | cons e entries =>
    obtain ⟨k, v⟩ := e
    rw [writeAt, List.length_cons, List.length_append, List.length_append, List.length_append,
      List.length_append, List.length_append, List.length_append] at hfuel
    cases fuel with
    | zero => omega
    | succ fuel =>
      have htext : writeAt indent level (.object ((k, v) :: entries)) ++ rest =
          '{' :: (lineBreak indent (level + 1) ++ (writeString k ++ (colon indent ++
            (writeAt indent (level + 1) v ++ (writeEntries indent (level + 1) entries ++
              (lineBreak indent level ++ '}' :: rest)))))) := by
        simp [writeAt]
      have hentries := entries_write h (level + 1) level fuel (depth - 1) rest
        (by dsimp only; omega)
      rw [htext, value_brace (isSpace_lineBreak indent (level + 1)), hentries, isReadable_object]
      cases ((k, v) :: entries).all (fun e => isReadable (depth - 1) e.2) <;>
        by_cases hdepth : 0 < depth <;> simp [hdepth]

/-- The text of a value with finite doubles reads back. -/
theorem reads_of_allFinite (indent : Option Nat) (v : Json) (hfinite : v.AllFinite) :
    Reads indent v := by
  induction v using Json.induction with
  | null =>
    intro level fuel depth rest hfuel hends
    cases fuel with
    | zero => simp [writeAt] at hfuel
    | succ fuel => rfl
  | bool b =>
    intro level fuel depth rest hfuel hends
    cases fuel with
    | zero => cases b <;> simp [writeAt] at hfuel
    | succ fuel => cases b <;> rfl
  | integer n =>
    refine reads_number (fun _ => by rw [writeAt]) (startsNumber_integer n) fun depth rest hends => ?_
    rw [number_integer n hends]
    simp [isReadable, nesting, leaves, isShort]
  | real x =>
    cases x with
    | finite negative x =>
      refine reads_number (fun _ => by rw [writeAt]) (startsNumber_real negative x)
        fun depth rest hends => ?_
      rw [number_real negative x hends]
      simp [isReadable, nesting, leaves, isShort]
    | infinite negative =>
      simpa [Double.isFinite] using hfinite (.infinite negative) (by simp [leaves])
    | nan => simpa [Double.isFinite] using hfinite .nan (by simp [leaves])
  | string s =>
    intro level fuel depth rest hfuel hends
    have hquote (cs : List Char) : skip ('"' :: cs) = '"' :: cs := skip_cons (by decide) cs
    cases fuel with
    | zero => simp [writeAt, writeString] at hfuel
    | succ fuel =>
      rw [writeAt, writeString, List.cons_append, List.append_assoc, List.singleton_append, value,
        hquote]
      simp [stringBody_write, isReadable, nesting, leaves, isShort]
  | array items ih =>
    exact reads_array hfinite fun v hv => ih v hv (allFinite_array_iff.1 hfinite v hv)
  | object entries ih =>
    exact reads_object fun e he => ih e he (allFinite_object_iff.1 hfinite e he)

end Reader

/-- The text of a value with finite doubles reads back as the value if it lies within the limits
of the reader, and is refused if it does not. -/
theorem readWithin_write (indent : Option Nat) (depth : Nat) {v : Json} (hfinite : v.AllFinite) :
    readWithin depth (write indent v).toList = if v.isReadable depth then some v else none := by
  have hread := Reader.reads_of_allFinite indent v hfinite 0
    (2 * (writeAt indent 0 v).length + 2) depth [] (by omega) Reader.ends_nil
  rw [List.append_nil] at hread
  rw [write, String.toList_ofList, readWithin, hread]
  cases v.isReadable depth <;> rfl

end Json
end ChatRecords
