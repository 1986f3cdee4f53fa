import ChatRecords.Proofs.Record.Causes

/-!
# Results that follow the result of a part

Where one of several parts is decoded and the others are as they are, the result of the whole is
that of the part with other warnings around it, seen from further up.

## Main definitions

* `Decoding.within`: the result of a part as the result of the whole.
* `Decoding.Follows`: the results of a whole are those of a part in this way.

## Main results

* `Decoding.Follows.map`, `Decoding.Follows.under`, `Decoding.Follows.both_right`,
  `Decoding.Follows.both_left`: each way of making a result of others.
* `Decoding.collect_middle`: one of several results.
-/

namespace ChatRecords
namespace Decoding

variable {α β γ ι : Type}

theorem eq_of_outcome {d : Decoding α} {outcome : Except Refusal α} (h : d.outcome = outcome) :
    d = ⟨d.warnings, outcome⟩ := h ▸ rfl

/-- The result of a part as the result of the whole: other warnings come before and after, a refusal
is seen from further up, and a value becomes one of the whole. -/
def within (before after : List LossyFlags) (path : Path) (f : α → β) (d : Decoding α) :
    Decoding β :=
  ⟨before ++ d.warnings ++ after, (d.outcome.mapError (Refusal.below path)).map f⟩

theorem within_ok (before after : List LossyFlags) (path : Path) (f : α → β)
    (warnings : List LossyFlags) (a : α) : within before after path f ⟨warnings, .ok a⟩ =
      ⟨before ++ warnings ++ after, .ok (f a)⟩ := rfl

theorem within_error {before after : List LossyFlags} {path : Path} {f : α → β} {d : Decoding α}
    {r : Refusal} (h : d.outcome = .error r) :
    (d.within before after path f).outcome = .error (r.below path) := by
  rw [within, h]
  rfl

theorem within_within (before before' after after' : List LossyFlags) (path path' : Path)
    (f : α → β) (g : β → γ) (d : Decoding α) :
    (d.within before after path f).within before' after' path' g =
      d.within (before' ++ before) (after ++ after') (path' ++ path) (g ∘ f) := by
  obtain ⟨warnings, outcome⟩ := d
  cases outcome <;> simp [within, Except.map, Except.mapError, Refusal.below]

theorem within_nil (d : Decoding α) : d.within [] [] [] id = d := by
  obtain ⟨warnings, outcome⟩ := d
  cases outcome <;> simp [within, Except.map, Except.mapError, Refusal.below]

theorem map_eq_within (f : α → β) (d : Decoding α) : d.map f = d.within [] [] [] f := by
  obtain ⟨warnings, outcome⟩ := d
  cases outcome <;> simp [within, map, Except.map, Except.mapError, Refusal.below]

theorem under_eq_within (step : Step) (d : Decoding α) :
    d.under step = d.within [] [] [step] id := by
  obtain ⟨warnings, outcome⟩ := d
  cases outcome <;> simp [within, under, Except.map, Except.mapError, Refusal.below, Refusal.under]

theorem both_eq_within_right (f : α → β → γ) {a : α} {d : Decoding α} (h : d.outcome = .ok a)
    (d' : Decoding β) : both f d d' = d'.within d.warnings [] [] (f a) := by
  obtain ⟨warnings, outcome⟩ := d
  obtain rfl := h
  obtain ⟨warnings', outcome'⟩ := d'
  cases outcome' <;> simp [within, both, Except.map, Except.mapError, Refusal.below]

theorem both_eq_within_left (f : α → β → γ) {b : β} {d' : Decoding β} (h : d'.outcome = .ok b)
    (d : Decoding α) : both f d d' = d.within [] d'.warnings [] (f · b) := by
  obtain ⟨warnings', outcome'⟩ := d'
  obtain rfl := h
  obtain ⟨warnings, outcome⟩ := d
  cases outcome <;> simp [within, both, Except.map, Except.mapError, Refusal.below]

/-- The results of a whole follow those of a part at a path, whose values become those of the whole
by a function. -/
def Follows (part : ι → Decoding α) (whole : ι → Decoding β) (path : Path) (f : α → β) : Prop :=
  ∃ before after, ∀ i, whole i = (part i).within before after path f

namespace Follows

variable {part : ι → Decoding α} {whole : ι → Decoding β} {path : Path} {f g : α → β}

theorem refl (part : ι → Decoding α) : Follows part part [] id :=
  ⟨[], [], fun i => (within_nil (part i)).symm⟩

theorem trans {more : ι → Decoding γ} {path' : Path} {g : β → γ} (h : Follows part whole path f)
    (h' : Follows whole more path' g) : Follows part more (path' ++ path) (g ∘ f) := by
  obtain ⟨before, after, hall⟩ := h
  obtain ⟨before', after', hall'⟩ := h'
  exact ⟨before' ++ before, after ++ after', fun i => by rw [hall', hall, within_within]⟩

theorem map (h : Follows part whole path f) (g : β → γ) :
    Follows part (fun i => (whole i).map g) path (g ∘ f) :=
  h.trans ⟨[], [], fun i => map_eq_within g (whole i)⟩

theorem under (h : Follows part whole path f) (step : Step) :
    Follows part (fun i => (whole i).under step) (step :: path) f :=
  h.trans ⟨[], [], fun i => under_eq_within step (whole i)⟩

theorem both_right {a : γ} {d : Decoding γ} (hd : d.outcome = .ok a) {δ : Type} (g : γ → β → δ)
    (h : Follows part whole path f) :
    Follows part (fun i => both g d (whole i)) path (g a ∘ f) :=
  h.trans ⟨d.warnings, [], fun i => both_eq_within_right g hd (whole i)⟩

theorem both_left {c : γ} {d : Decoding γ} (hd : d.outcome = .ok c) {δ : Type} (g : β → γ → δ)
    (h : Follows part whole path f) :
    Follows part (fun i => both g (whole i) d) path (fun a => g (f a) c) :=
  h.trans ⟨[], d.warnings, fun i => both_eq_within_left g hd (whole i)⟩

theorem outcome_ok (h : Follows part whole path f) {i : ι} {a : α} (ha : (part i).outcome = .ok a) :
    (whole i).outcome = .ok (f a) := by
  obtain ⟨before, after, hall⟩ := h
  rw [hall, within, ha]
  rfl

end Follows

/-- Where several parts are decoded, their result together follows that of each. -/
theorem collect_middle {ds ds' : List (Decoding α)} {d : Decoding α} {as : List α}
    (h : (collect (ds ++ d :: ds')).outcome = .ok as) :
    ∃ bs cs, List.Forall₂ (fun d b => d.outcome = .ok b) ds bs ∧
      List.Forall₂ (fun d c => d.outcome = .ok c) ds' cs ∧ (∃ a, d.outcome = .ok a) ∧
      ∀ part : ι → Decoding α,
        Follows part (fun i => collect (ds ++ part i :: ds')) [] fun a => bs ++ a :: cs := by
  induction ds generalizing as with
  | nil =>
    obtain ⟨a, cs, ha, hcs, -⟩ := both_ok_iff.1 h
    exact ⟨[], cs, .nil, collect_ok_iff.1 hcs, ⟨a, ha⟩, fun part =>
      (Follows.refl part).both_left hcs List.cons⟩
  | cons d₀ ds ih =>
    obtain ⟨b, as', hb, has', -⟩ := both_ok_iff.1 h
    obtain ⟨bs, cs, hbs, hcs, ha, hall⟩ := ih has'
    exact ⟨b :: bs, cs, .cons hb hbs, hcs, ha, fun part => (hall part).both_right hb List.cons⟩

end Decoding
end ChatRecords
