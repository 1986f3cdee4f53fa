import ChatRecords.Proofs.Json.RoundTrip

/-!
# The limits of the reader

Whether a text is read depends on the depth that is allowed, but not on how it is read: a text that
denotes a value at one depth denotes it at every depth that the value fits in.

## Main definitions

* `Json.Reader.Uniform`: a function of the reader is of this sort.
* `Json.Spells`: a text spells a value, whether the reader takes it or not.

## Main results

* `Json.Reader.uniform_value`: reading a value is of this sort.
* `Json.readWithin_of_readWithin`: a text read at one depth, at another.
* `Json.read_of_spells`: what the reader makes of a text that spells a value.
-/

namespace ChatRecords
namespace Json
namespace Reader

/-- A function of the reader that reads something at one depth reads the same at each depth that it
fits in, and nothing at others. -/
def Uniform {α : Type} (read : Nat → List Char → Option (α × List Char))
    (fits : Nat → α → Bool) : Prop :=
  ∀ {depth cs a rest}, read depth cs = some (a, rest) →
    ∀ depth', read depth' cs = if fits depth' a then some (a, rest) else none

/-! ## Atoms -/

/-- A number lies within the limits at any depth, whether it is an integer or not. -/
theorem isReadable_of_unsigned {negative : Bool} {cs rest : List Char} {v : Json}
    (h : unsigned negative cs = some (v, rest)) (depth : Nat) : v.isReadable depth = true := by
  simp only [unsigned, Option.bind_eq_bind, Option.bind_eq_some_iff] at h
  obtain ⟨⟨whole, afterWhole⟩, -, h⟩ := h
  split at h
  · cases h
  · next hlength =>
    obtain ⟨⟨fraction, afterFraction⟩, -, h⟩ := Option.bind_eq_some_iff.1 h
    obtain ⟨⟨exponent, afterExponent⟩, -, h⟩ := Option.bind_eq_some_iff.1 h
    have hshort : (Nat.toDigits 10 (Text.natOfDigits whole)).length ≤ Text.digitLimit := by
      refine Text.length_toDigits_le (by decide) ?_
      exact (Text.natOfDigits_lt whole).trans_le
        (Nat.pow_le_pow_right (by decide) (Nat.le_of_not_lt hlength))
    split at h
    · obtain ⟨rfl, -⟩ := Prod.mk.inj (Option.some.inj h)
      cases negative <;> simpa [isReadable, nesting, leaves, isShort] using hshort
    · obtain ⟨rfl, -⟩ := Prod.mk.inj (Option.some.inj h)
      rfl

theorem isReadable_of_atom {cs rest : List Char} {v : Json} (h : atom cs = some (v, rest))
    (depth : Nat) : v.isReadable depth = true := by
  unfold atom number at h
  split at h
  · cases h; rfl
  split at h
  · cases h; rfl
  split at h
  · cases h; rfl
  split at h
  · cases h; rfl
  split at h
  · cases h; rfl
  split at h
  · split at h
    · cases h; rfl
    · exact isReadable_of_unsigned h depth
  · exact isReadable_of_unsigned h depth

/-! ## Containers -/

theorem items_ne_nil {fuel depth : Nat} {cs rest : List Char} {vs : List Json}
    (h : items fuel depth cs = some (vs, rest)) : vs ≠ [] := by
  cases fuel with
  | zero => cases h
  | succ fuel =>
    rw [items] at h
    split at h
    · cases h
    · split at h
      · obtain ⟨r, -, hr⟩ := Option.map_eq_some_iff.1 h
        exact (Prod.mk.inj hr).1 ▸ List.cons_ne_nil _ _
      · exact (Prod.mk.inj (Option.some.inj h)).1 ▸ List.cons_ne_nil _ _
      · cases h

theorem entries_ne_nil {fuel depth : Nat} {cs rest : List Char} {es : List (String × Json)}
    (h : entries fuel depth cs = some (es, rest)) : es ≠ [] := by
  cases fuel with
  | zero => cases h
  | succ fuel =>
    rw [entries] at h
    -- the key, the colon and the value are there, and an entry comes before what follows them
    split at h <;> try cases h
    split at h <;> try cases h
    split at h <;> try cases h
    split at h <;> try cases h
    split at h
    · obtain ⟨r, -, hr⟩ := Option.map_eq_some_iff.1 h
      exact (Prod.mk.inj hr).1 ▸ List.cons_ne_nil _ _
    · exact (Prod.mk.inj (Option.some.inj h)).1 ▸ List.cons_ne_nil _ _
    · cases h

variable {fuel : Nat}

/-- The items of an array fit in a depth one by one. -/
def itemsFit (depth : Nat) (vs : List Json) : Bool := vs.all (isReadable depth)

def entriesFit (depth : Nat) (es : List (String × Json)) : Bool :=
  es.all fun e => isReadable depth e.2

theorem itemsFit_cons (depth : Nat) (v : Json) (vs : List Json) :
    itemsFit depth (v :: vs) = (v.isReadable depth && itemsFit depth vs) := rfl

theorem entriesFit_cons (depth : Nat) (e : String × Json) (es : List (String × Json)) :
    entriesFit depth (e :: es) = (e.2.isReadable depth && entriesFit depth es) := rfl

/-- An array that is not empty fits in a depth if its items fit in the next smaller one. -/
theorem isReadable_array_succ (depth : Nat) (v : Json) (vs : List Json) :
    isReadable (depth + 1) (.array (v :: vs)) = itemsFit depth (v :: vs) := by
  rw [isReadable_array, decide_eq_true (Nat.succ_pos depth), Bool.true_and]
  rfl

theorem isReadable_object_succ (depth : Nat) (e : String × Json) (es : List (String × Json)) :
    isReadable (depth + 1) (.object (e :: es)) = entriesFit depth (e :: es) := by
  rw [isReadable_object, decide_eq_true (Nat.succ_pos depth), Bool.true_and]
  rfl

theorem uniform_items_succ (hvalue : Uniform (value fuel) isReadable)
    (hitems : Uniform (items fuel) itemsFit) : Uniform (items (fuel + 1)) itemsFit := by
  intro depth cs vs rest h depth'
  rw [items] at h ⊢
  split at h
  · cases h
  · next v after hv =>
    rw [hvalue hv depth']
    split at h
    · next afterComma hskip =>
      obtain ⟨⟨vs', rest'⟩, hread, hvs⟩ := Option.map_eq_some_iff.1 h
      obtain ⟨rfl, rfl⟩ := Prod.mk.inj hvs
      cases hfits : v.isReadable depth' with
      | false => simp [itemsFit_cons, hfits]
      | true =>
        simp only [if_true, hskip, hitems hread depth', itemsFit_cons, hfits, Bool.true_and]
        cases itemsFit depth' vs' <;> rfl
    · next hskip =>
      obtain ⟨rfl, rfl⟩ := Prod.mk.inj (Option.some.inj h)
      cases hfits : v.isReadable depth' <;> simp [itemsFit, hfits, hskip]
    · cases h

theorem uniform_entries_succ (hvalue : Uniform (value fuel) isReadable)
    (hentries : Uniform (entries fuel) entriesFit) : Uniform (entries (fuel + 1)) entriesFit := by
  intro depth cs es rest h depth'
  rw [entries] at h ⊢
  split at h
  · next afterQuote hquote =>
    split at h
    · cases h
    · next key afterKey hkey =>
      split at h
      · next afterColon hcolon =>
        split at h
        · cases h
        · next v after hv =>
          rw [hvalue hv depth']
          split at h
          · next afterComma hskip =>
            obtain ⟨⟨es', rest'⟩, hread, hes⟩ := Option.map_eq_some_iff.1 h
            obtain ⟨rfl, rfl⟩ := Prod.mk.inj hes
            cases hfits : v.isReadable depth' with
            | false => simp [entriesFit_cons, hfits]
            | true =>
              simp only [if_true, hskip, hentries hread depth', entriesFit_cons, hfits, Bool.true_and]
              cases entriesFit depth' es' <;> rfl
          · next hskip =>
            obtain ⟨rfl, rfl⟩ := Prod.mk.inj (Option.some.inj h)
            cases hfits : v.isReadable depth' <;> simp [entriesFit, hfits, hskip]
          · cases h
      · cases h
  · cases h

theorem uniform_value_succ (hitems : Uniform (items fuel) itemsFit)
    (hentries : Uniform (entries fuel) entriesFit) : Uniform (value (fuel + 1)) isReadable := by
  intro depth cs v rest h depth'
  rw [value] at h ⊢
  split at h
  · next afterQuote hquote =>
    obtain ⟨r, hr, hv⟩ := Option.map_eq_some_iff.1 h
    obtain ⟨rfl, rfl⟩ := Prod.mk.inj hv
    rw [hr]
    rfl
  · next inside hbracket =>
    split at h
    · next hclose =>
      obtain ⟨rfl, rfl⟩ := Prod.mk.inj (Option.some.inj h)
      simp only [hclose]
      rfl
    · cases h
    · next depth hopen =>
      obtain ⟨⟨vs, rest'⟩, hread, hv⟩ := Option.map_eq_some_iff.1 h
      obtain ⟨rfl, rfl⟩ := Prod.mk.inj hv
      obtain ⟨v, vs, rfl⟩ := List.exists_cons_of_ne_nil (items_ne_nil hread)
      cases depth' with
      | zero => simp [isReadable_array]
      | succ depth' =>
        simp only [isReadable_array_succ, hitems hread depth']
        cases itemsFit depth' (v :: vs) <;> rfl
  · next inside hbrace =>
    split at h
    · next hclose =>
      obtain ⟨rfl, rfl⟩ := Prod.mk.inj (Option.some.inj h)
      simp only [hclose]
      rfl
    · cases h
    · next depth hopen =>
      obtain ⟨⟨es, rest'⟩, hread, hv⟩ := Option.map_eq_some_iff.1 h
      obtain ⟨rfl, rfl⟩ := Prod.mk.inj hv
      obtain ⟨e, es, rfl⟩ := List.exists_cons_of_ne_nil (entries_ne_nil hread)
      cases depth' with
      | zero => simp [isReadable_object]
      | succ depth' =>
        simp only [isReadable_object_succ, hentries hread depth']
        cases entriesFit depth' (e :: es) <;> rfl
  · rw [isReadable_of_atom h depth', if_pos rfl]
    exact h

/-- Reading a value at one depth says what is read at any other. -/
theorem uniform_value (fuel : Nat) : Uniform (value fuel) isReadable := by
  have hall : Uniform (value fuel) isReadable ∧ Uniform (items fuel) itemsFit ∧
      Uniform (entries fuel) entriesFit := by
    induction fuel with
    | zero => exact ⟨nofun, nofun, nofun⟩
    | succ fuel ih =>
      obtain ⟨hvalue, hitems, hentries⟩ := ih
      exact ⟨uniform_value_succ hitems hentries, uniform_items_succ hvalue hitems,
        uniform_entries_succ hvalue hentries⟩
  intro depth cs v rest h
  exact hall.1 h

end Reader

/-- A text that denotes a value at one depth denotes it at every other that the value fits in. -/
theorem readWithin_of_readWithin {depth : Nat} {text : List Char} {v : Json}
    (h : readWithin depth text = some v) (depth' : Nat) :
    readWithin depth' text = if v.isReadable depth' then some v else none := by
  unfold readWithin at h
  split at h
  · next v' rest hread =>
    split at h
    · next hrest =>
      obtain rfl := Option.some.inj h
      rw [readWithin, Reader.uniform_value _ hread depth']
      cases v'.isReadable depth' <;> simp [hrest]
    · cases h
  · cases h

/-- A text spells a value: the reader finds the value in it if enough depth is allowed, or it is
the text that is written for the value. The reader may refuse either, for its limits. -/
def Spells (v : Json) (text : String) : Prop :=
  (∃ depth, readWithin depth text.toList = some v) ∨
    v.AllFinite ∧ ∃ indent, text = write indent v

/-- The reader takes a text that spells a value if and only if the value lies within its limits. -/
theorem read_of_spells {text : String} {v : Json} (h : v.Spells text) :
    read text = if v.isReadable depthLimit then some v else none := by
  rcases h with ⟨depth, hread⟩ | ⟨hfinite, indent, rfl⟩
  · exact readWithin_of_readWithin hread depthLimit
  · exact readWithin_write indent depthLimit hfinite

end Json
end ChatRecords
