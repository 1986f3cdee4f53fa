import ChatRecords.Proofs.Json.Grammar
import ChatRecords.Proofs.Json.Layout

/-!
# What a written text denotes

The text of a JSON value denotes the value and nothing else, compact or indented, however deep it
is and however many digits its integers have. Doubles that are not finite have no text, and `null`
stands for them.

## Main definitions

* `Json.shown`: the value with `null` for every double that is not finite.

## Main results

* `Json.denotes_write_iff`: what the text of a value denotes.
* `Json.readWithin_write_shown`: what the reader makes of the text of any value.
-/

namespace ChatRecords
namespace Json

mutual

/-- The value with `null` for every double that is not finite. -/
def shown : Json → Json
  | .real x => if x.isFinite then .real x else .null
  | .array items => .array (shownItems items)
  | .object entries => .object (shownEntries entries)
  | v => v

def shownItems : List Json → List Json
  | [] => []
  | v :: rest => shown v :: shownItems rest

def shownEntries : List (String × Json) → List (String × Json)
  | [] => []
  | (k, v) :: rest => (k, shown v) :: shownEntries rest

end

theorem shownItems_eq (items : List Json) : shownItems items = items.map shown := by
  induction items with
  | nil => rfl
  | cons v rest ih => rw [shownItems, ih, List.map_cons]

theorem shownEntries_eq (entries : List (String × Json)) :
    shownEntries entries = entries.map fun e => (e.1, e.2.shown) := by
  induction entries with
  | nil => rfl
  | cons e rest ih =>
    obtain ⟨k, v⟩ := e
    rw [shownEntries, ih, List.map_cons]

/-- A value with finite doubles is shown as it is. -/
theorem AllFinite.shown_eq {v : Json} (h : v.AllFinite) : v.shown = v := by
  induction v using Json.induction with
  | real x => rw [shown, if_pos (h x (by simp [leaves]))]
  | array items ih =>
    rw [allFinite_array_iff] at h
    rw [shown, shownItems_eq, List.map_congr_left fun v hv => ih v hv (h v hv), List.map_id']
  | object entries ih =>
    rw [allFinite_object_iff] at h
    have hentry : ∀ e ∈ entries, (e.1, e.2.shown) = e := fun e he => by rw [ih e he (h e he)]
    rw [shown, shownEntries_eq, List.map_congr_left hentry, List.map_id']
  | _ => rfl

/-- What is shown of a value has finite doubles. -/
theorem allFinite_shown (v : Json) : v.shown.AllFinite := by
  induction v using Json.induction with
  | real x =>
    rw [shown]
    split
    · next hfinite => simpa [AllFinite, leaves] using hfinite
    · simp [AllFinite, leaves]
  | array items ih =>
    rw [shown, shownItems_eq, allFinite_array_iff, List.forall_mem_map]
    exact ih
  | object entries ih =>
    rw [shown, shownEntries_eq, allFinite_object_iff, List.forall_mem_map]
    exact ih
  | _ => simp [shown, AllFinite, leaves]

/-- What is shown of a value has the text of the value. -/
theorem writeAt_shown (indent : Option Nat) (level : Nat) (v : Json) :
    writeAt indent level v.shown = writeAt indent level v := by
  induction v using Json.induction generalizing level with
  | real x =>
    cases x with
    | finite negative x => rfl
    | infinite negative => cases negative <;> rfl
    | nan => rfl
  | array items ih =>
    rw [shown, shownItems_eq, writeAt_array, writeAt_array, List.map_map]
    exact congrArg _ (List.map_congr_left fun v hv => ih v hv (level + 1))
  | object entries ih =>
    rw [shown, shownEntries_eq, writeAt_object, writeAt_object, List.map_map]
    refine congrArg _ (List.map_congr_left fun e he => ?_)
    rw [Function.comp_apply, ih e he]
  | _ => rfl

/-- What is shown of a value lies within the limits of the reader if the value does. -/
theorem isReadable_shown (depth : Nat) (v : Json) :
    v.shown.isReadable depth = v.isReadable depth := by
  induction v using Json.induction generalizing depth with
  | real x =>
    by_cases hfinite : x.isFinite <;>
      simp [shown, hfinite, isReadable, nesting, leaves, isShort]
  | array items ih =>
    cases items with
    | nil => rfl
    | cons v rest =>
      rw [shown, shownItems_eq, List.map_cons, isReadable_array, isReadable_array,
        ← List.map_cons (f := shown), List.all_map]
      refine congrArg _ (Bool.eq_iff_iff.2 ?_)
      simp only [List.all_eq_true]
      exact forall₂_congr fun v hv => by rw [Function.comp_apply, ih v hv]
  | object entries ih =>
    cases entries with
    | nil => rfl
    | cons e rest =>
      rw [shown, shownEntries_eq, List.map_cons, isReadable_object, isReadable_object,
        ← List.map_cons (f := fun e : String × Json => (e.1, e.2.shown)), List.all_map]
      refine congrArg _ (Bool.eq_iff_iff.2 ?_)
      simp only [List.all_eq_true]
      exact forall₂_congr fun e he => by rw [Function.comp_apply, ih e he]
  | _ => rfl

/-- The text of a value reads back as what is shown of it if the value lies within the limits of
the reader, and is refused if it does not. -/
theorem readWithin_write_shown (indent : Option Nat) (depth : Nat) (v : Json) :
    readWithin depth (write indent v).toList =
      if v.isReadable depth then some v.shown else none := by
  rw [← isReadable_shown, ← readWithin_write indent depth (allFinite_shown v), write, write,
    writeAt_shown]

namespace Grammar

open Text Reader

/-! ## Numbers -/

theorem sign_minus {signs : List Char} (h : '-' ∈ signs) (t : List Char) :
    Sign signs ('-' :: t) true t := .present h t

theorem digits_sound {cs ds rest : List Char} (h : digits cs = (ds, rest)) :
    AllDigits ds ∧ cs = ds ++ rest := by
  obtain ⟨rfl, rfl⟩ := Prod.mk.inj h
  exact ⟨List.all_eq_true.1 List.all_takeWhile, List.takeWhile_append_dropWhile.symm⟩

theorem wholePart_sound {cs ds rest : List Char} (h : wholePart cs = some (ds, rest)) :
    IsWhole ds ∧ cs = ds ++ rest := by
  unfold wholePart at h
  split at h
  · cases h
  · next hdigits =>
    cases h
    exact ⟨isWhole_zero, (digits_sound hdigits).2⟩
  · cases h
  · next hne hzero hleading =>
    have hdigits := Option.some.inj h
    obtain ⟨hall, heq⟩ := digits_sound hdigits
    refine ⟨.of_head? hall ?_ ?_, heq⟩
    · rintro rfl
      exact hne _ hdigits
    · intro hhead
      obtain ⟨ds', rfl⟩ := List.head?_eq_some_iff.1 hhead
      exact hleading _ _ hdigits

theorem fraction_sound {cs rest : List Char} {part : Option (List Char)}
    (h : fraction cs = some (part, rest)) :
    Fraction cs (part.getD []) rest ∧ (part.getD [] = [] ↔ part = none) := by
  unfold fraction at h
  split at h
  · split at h
    · cases h
    · next hne hdigits =>
      cases h
      obtain ⟨hall, rfl⟩ := digits_sound hdigits
      exact ⟨.point hall hne, iff_of_false hne (by simp)⟩
  · cases h
    exact ⟨.absent _, by simp⟩

theorem exponentDigits_sound {cs rest : List Char} {n : Nat}
    (h : exponentDigits cs = some (n, rest)) :
    ∃ ds, AllDigits ds ∧ ds ≠ [] ∧ cs = ds ++ rest ∧ n = natOfDigits ds := by
  unfold exponentDigits at h
  split at h
  · cases h
  · next hne hdigits =>
    cases h
    obtain ⟨hall, heq⟩ := digits_sound hdigits
    exact ⟨_, hall, hne, heq, rfl⟩

theorem exponent_sound {cs rest : List Char} {e : Option Int} (h : exponent cs = some (e, rest)) :
    Exponent cs e rest := by
  unfold exponent at h
  split at h
  · split at h
    · next hc =>
      split at h <;> obtain ⟨⟨n, r⟩, hdigits, ⟨⟩⟩ := Option.map_eq_some_iff.1 h
      all_goals obtain ⟨ds, hall, hne, rfl, rfl⟩ := exponentDigits_sound hdigits
      · exact .present hc (sign_minus (by decide) _) hall hne
      · exact .present hc (.present (by decide) _ : Sign _ ('+' :: _) false _) hall hne
      · exact .present hc (.absent _) hall hne
    · cases h
      exact .absent _
  · cases h
    exact .absent _

/-- What the reader finds after a sign is a number. -/
theorem Number.of_unsigned {negative : Bool} {s t r : List Char} {v : Json}
    (hsign : Sign ['-'] s negative t) (h : unsigned negative t = some (v, r)) : Number s v r := by
  simp only [unsigned, Option.bind_eq_bind, Option.bind_eq_some_iff, Prod.exists] at h
  obtain ⟨whole, u, hwhole, h⟩ := h
  split at h
  · cases h
  simp only [Option.bind_eq_some_iff, Prod.exists] at h
  obtain ⟨part, w, hpart, e, r', hexponent, h⟩ := h
  obtain ⟨hwhole', rfl⟩ := wholePart_sound hwhole
  obtain ⟨hpart, hnone⟩ := fraction_sound hpart
  have hnumber := Number.mk hsign hwhole' hpart (exponent_sound hexponent)
  unfold numberOf at hnumber
  split at h
  · obtain ⟨rfl, rfl⟩ := Prod.mk.inj (Option.some.inj h)
    simpa using hnumber
  · next hreal =>
    obtain ⟨rfl, rfl⟩ := Prod.mk.inj (Option.some.inj h)
    rwa [if_neg fun hboth => hreal (hnone.1 hboth.1) hboth.2] at hnumber

theorem Number.of_integer (n : Int) (rest : List Char) :
    Number ((toString n).toList ++ rest) (.integer n) rest := by
  have hdigits (negative : Bool) {t : List Char}
      (hsign : Sign ['-'] t negative (Nat.toDigits 10 n.natAbs ++ rest)) :
      Number t (.integer (if negative then -(n.natAbs : Int) else n.natAbs)) rest := by
    have hnumber := Number.mk hsign (isWhole_toDigits n.natAbs) (.absent rest) (.absent rest)
    simpa [numberOf, natOfDigits_toDigits] using hnumber
  rw [toList_toString_int]
  split
  · next hneg =>
    have hnumber := hdigits true (sign_minus (by decide) _)
    have habs : -(n.natAbs : Int) = n := by omega
    rwa [if_pos rfl, habs] at hnumber
  · next hneg =>
    have hnumber := hdigits false (.absent _)
    have habs : (n.natAbs : Int) = n := by omega
    rwa [if_neg Bool.false_ne_true, habs] at hnumber

theorem Number.of_finite (negative : Bool) (x : Magnitude) {rest : List Char} (hrest : Ends rest) :
    Number (((Double.finite negative x).render realLayout).toList ++ rest)
      (.real (.finite negative x)) rest := by
  have hread := unsigned_magnitude negative x hrest
  cases negative with
  | false => exact .of_unsigned (.absent _) (by simpa [Double.render] using hread)
  | true =>
    have hnumber := Number.of_unsigned (sign_minus (by decide) _) hread
    simpa [Double.render] using hnumber

/-! ## Values -/

theorem Atom.of_real (x : Double) {rest : List Char} (hrest : Ends rest) :
    Atom ((x.render realLayout).toList ++ rest) (shown (.real x)) rest := by
  cases x with
  | finite negative x => exact .number (.of_finite negative x hrest)
  | infinite negative => cases negative <;> exact .null rest
  | nan => exact .null rest

theorem spelled_write (s : String) (rest : List Char) :
    Spelled (s.toList.flatMap writeChar ++ '"' :: rest) s.toList rest :=
  .of_stringBody (stringBody_write s.toList rest)

/-- A text has a part at its front, wherever the text stands. -/
def Gives (part : Part) (text : List Char) (x : part.Content) : Prop :=
  ∀ rest, Ends rest → Derives (.one part) (text ++ rest) x rest

theorem blank_refl (t : List Char) : Blank t t := ⟨[], by simp, rfl⟩

theorem blank_lineBreak (indent : Option Nat) (level : Nat) (t : List Char) :
    Blank (lineBreak indent level ++ t) t := ⟨_, isSpace_lineBreak indent level, rfl⟩

/-- The text of an entry gives the entry if that of its value gives the value. -/
theorem Gives.entry {indent : Option Nat} {text : List Char} {v : Json}
    (h : Gives .value text v) (k : String) : Gives .entry (writeEntry indent k text) (k, v) := by
  intro rest hrest
  obtain ⟨space, hcolon, hspace⟩ := colon_eq indent
  have hentry := Derives.entry (spelled_write k (':' :: (space ++ (text ++ rest))))
    (blank_refl _) ⟨space, hspace, rfl⟩ (h rest hrest)
  simpa [writeEntry, writeString, hcolon] using hentry

/-- The texts of parts with commas and line breaks between them are several parts. -/
theorem derives_parts {part : Part} (indent : Option Nat) (level close : Nat) {last : Char}
    (hlast : last = ']' ∨ last = '}') {text : List Char} {texts : List (List Char)}
    {x : part.Content} {xs : List part.Content} (hfirst : Gives part text x)
    (hparts : List.Forall₂ (Gives part) texts xs) (rest : List Char) :
    Derives (.many part) (lineBreak indent level ++ (text ++
      ((texts.flatMap fun text => ',' :: (lineBreak indent level ++ text)) ++
        (lineBreak indent close ++ last :: rest)))) (x :: xs) (last :: rest) := by
  induction hparts generalizing text x with
  | nil =>
    exact .last (blank_lineBreak indent level _)
      (hfirst _ (ends_lineBreak indent close hlast rest)) (blank_lineBreak indent close _)
  | @cons text' y texts ys hnext hparts ih =>
    refine .more (blank_lineBreak indent level _) (hfirst _ (by simp [Ends]))
      (s := lineBreak indent level ++ (text' ++
        ((texts.flatMap fun text => ',' :: (lineBreak indent level ++ text)) ++
          (lineBreak indent close ++ last :: rest)))) ?_ (ih hnext)
    simpa using blank_refl _

/-- The text of a container is made of several parts and the characters around them. -/
theorem derives_enclose {part : Part} (indent : Option Nat) (level : Nat) (first : Char)
    {last : Char} (hlast : last = ']' ∨ last = '}') {texts : List (List Char)}
    {xs : List part.Content} (h : List.Forall₂ (Gives part) texts xs) (rest : List Char) :
    ∃ t, enclose indent level first last texts ++ rest = first :: t ∧
      Derives (.many part) t xs (last :: rest) := by
  cases h with
  | nil => exact ⟨last :: rest, rfl, .none (blank_refl _)⟩
  | cons hfirst hparts =>
    refine ⟨_, ?_, derives_parts indent (level + 1) level hlast hfirst hparts rest⟩
    simp [enclose]

/-- The text of a value gives the value, on every level of nesting. -/
theorem gives_writeAt (indent : Option Nat) (level : Nat) (v : Json) :
    Gives .value (writeAt indent level v) v.shown := by
  induction v using Json.induction generalizing level with
  | null => exact fun rest _ => .atom (.null rest)
  | bool b =>
    cases b with
    | true => exact fun rest _ => .atom (.truth rest)
    | false => exact fun rest _ => .atom (.falsehood rest)
  | integer n => exact fun rest _ => .atom (.number (.of_integer n rest))
  | real x => exact fun rest hrest => .atom (.of_real x hrest)
  | string s =>
    intro rest _
    have hstring := Derives.atom (.string (spelled_write s rest))
    simpa [writeAt, writeString, shown] using hstring
  | array items ih =>
    intro rest _
    rw [writeAt_array, shown, shownItems_eq]
    obtain ⟨t, htext, hparts⟩ := derives_enclose indent level '[' (.inl rfl)
      (forall₂_map_map fun v hv => ih v hv (level + 1)) rest
    rw [htext]
    exact .array hparts
  | object entries ih =>
    intro rest _
    rw [writeAt_object, shown, shownEntries_eq]
    obtain ⟨t, htext, hparts⟩ := derives_enclose indent level '{' (.inr rfl)
      (forall₂_map_map fun e he => (ih e he (level + 1)).entry e.1) rest
    rw [htext]
    exact .object hparts

end Grammar

/-- The text of a value denotes the value and nothing else. -/
theorem denotes_write_iff (indent : Option Nat) (v w : Json) :
    Denotes (write indent v) w ↔ w = v.shown := by
  have hwrite : Denotes (write indent v) v.shown := by
    refine ⟨writeAt indent 0 v, [], ?_, ?_, Grammar.blank_refl _⟩
    · rw [write, String.toList_ofList]
      exact Grammar.blank_refl _
    · simpa using Grammar.gives_writeAt indent 0 v [] Reader.ends_nil
  exact ⟨fun h => h.unique hwrite, fun h => h ▸ hwrite⟩

end Json
end ChatRecords
