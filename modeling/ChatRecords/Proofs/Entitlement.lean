import ChatRecords.Entitlement
import ChatRecords.Proofs.Calendar.Order
import ChatRecords.Proofs.Record.Rebuilding

/-!
# When entitlements are active

An entitlement that is not deleted is active from the instant of its start on and before that of its
end. The offsets in which the moments are written do not matter, as long as all of them have one or
none has.

## Main definitions

* `Validity.Covers`: an instant lies in the window of an entitlement that is not deleted.
* `Validity.IsMixed`: a naive moment would have to be compared with an aware one.
* `Validity.Rewritten`: the bounds are written with other offsets.

## Main results

* `Validity.isActive_eq`: whether an entitlement is active, whenever that is defined.
* `Validity.isActive_window`: the window, that it is an interval, and that offsets do not matter.
-/

namespace ChatRecords

namespace Moment

variable {a b a' b' : Moment}

theorem isBefore_of_ne (h : a.isAware ≠ b.isAware) : a.isBefore b = .error ⟨⟩ := by
  rw [isBefore, precedes?_eq, if_neg h]

theorem isBefore_of_eq (h : a.isAware = b.isAware) :
    a.isBefore b = .ok (decide (a.instant < b.instant)) := by
  rw [isBefore, precedes?_eq, if_pos h]

theorem SameInstant.isBefore_eq (ha : a.SameInstant a') (hb : b.SameInstant b') :
    a'.isBefore b' = a.isBefore b := by
  rw [isBefore, isBefore, ha.precedes?_eq hb]

end Moment

namespace Validity

/-- The moments that bound the window. -/
def bounds (v : Validity) : List Moment := v.startsAt.toList ++ v.endsAt.toList

/-- The entitlement is not deleted, and an instant is not before its start and before its end. -/
structure Covers (v : Validity) (instant : Int) : Prop where
  kept : v.deleted = false
  started : ∀ starts ∈ v.startsAt, starts.instant ≤ instant
  beforeEnd : ∀ ends ∈ v.endsAt, instant < ends.instant

/-- A naive moment would have to be compared with an aware one: for the start of an entitlement that
is not deleted, or for the end of one that has started. -/
def IsMixed (v : Validity) (now : Moment) : Prop :=
  v.deleted = false ∧
    ((∃ starts ∈ v.startsAt, starts.isAware ≠ now.isAware) ∨
      ((∀ starts ∈ v.startsAt, starts.instant ≤ now.instant) ∧
        ∃ ends ∈ v.endsAt, ends.isAware ≠ now.isAware))

/-- The bounds denote the same instants, with other offsets perhaps. -/
structure Rewritten (v v' : Validity) : Prop where
  deleted : v'.deleted = v.deleted
  startsAt : Option.Rel Moment.SameInstant v.startsAt v'.startsAt
  endsAt : Option.Rel Moment.SameInstant v.endsAt v'.endsAt

variable {v v' : Validity} {now now' : Moment}

/-! ## The steps of the check -/

theorem isActive_of_deleted (h : v.deleted = true) : v.isActive now = .ok false := if_pos h

theorem isActive_of_mixed_start (hkept : v.deleted = false) {starts : Moment}
    (hstarts : starts ∈ v.startsAt) (hne : starts.isAware ≠ now.isAware) :
    v.isActive now = .error ⟨⟩ := by
  rw [isActive, hkept, Option.mem_def.1 hstarts]
  simp only [Moment.isBefore_of_ne hne.symm, Bool.false_eq_true, if_false]

/-- Before its start an entitlement is not active, whatever its end is. -/
theorem isActive_of_early (hkept : v.deleted = false) {starts : Moment}
    (hstarts : starts ∈ v.startsAt) (haware : starts.isAware = now.isAware)
    (hearly : now.instant < starts.instant) : v.isActive now = .ok false := by
  rw [isActive, hkept, Option.mem_def.1 hstarts]
  simp only [Moment.isBefore_of_eq haware.symm, hearly, decide_true, Bool.false_eq_true, if_false]

/-- After its start an entitlement is active before its end. -/
theorem isActive_of_started (hkept : v.deleted = false)
    (haware : ∀ starts ∈ v.startsAt, starts.isAware = now.isAware)
    (hstarted : ∀ starts ∈ v.startsAt, starts.instant ≤ now.instant) :
    v.isActive now = v.isBeforeEnd now := by
  rw [isActive, hkept]
  cases hstarts : v.startsAt with
  | none => rfl
  | some starts =>
    have hle := Int.not_lt.2 (hstarted starts hstarts)
    simp only [Moment.isBefore_of_eq (haware starts hstarts).symm, hle, decide_false,
      Bool.false_eq_true, if_false]

theorem isBeforeEnd_of_ne {ends : Moment} (hends : ends ∈ v.endsAt)
    (hne : ends.isAware ≠ now.isAware) : v.isBeforeEnd now = .error ⟨⟩ := by
  rw [isBeforeEnd, Option.mem_def.1 hends]
  exact Moment.isBefore_of_ne hne.symm

theorem isBeforeEnd_of_eq (haware : ∀ ends ∈ v.endsAt, ends.isAware = now.isAware) :
    ∃ b, v.isBeforeEnd now = .ok b ∧
      (b = true ↔ ∀ ends ∈ v.endsAt, now.instant < ends.instant) := by
  rw [isBeforeEnd]
  cases hends : v.endsAt with
  | none => exact ⟨true, rfl, by simp⟩
  | some ends => exact ⟨_, Moment.isBefore_of_eq (haware ends hends).symm, by simp⟩

/-! ## The whole check -/

theorem isActive_of_isMixed (h : v.IsMixed now) : v.isActive now = .error ⟨⟩ := by
  obtain ⟨hkept, ⟨starts, hstarts, hne⟩ | ⟨hstarted, ends, hends, hne⟩⟩ := h
  · exact isActive_of_mixed_start hkept hstarts hne
  · by_cases haware : ∀ starts ∈ v.startsAt, starts.isAware = now.isAware
    · rw [isActive_of_started hkept haware hstarted, isBeforeEnd_of_ne hends hne]
    · obtain ⟨starts, hstarts, hne⟩ := not_forall₂.1 haware
      exact isActive_of_mixed_start hkept hstarts hne

/-- Where no comparison is mixed, an entitlement is active if it covers the instant. -/
theorem isActive_eq (h : ¬v.IsMixed now) :
    ∃ b, v.isActive now = .ok b ∧ (b = true ↔ v.Covers now.instant) := by
  by_cases hkept : v.deleted = false
  · simp only [IsMixed, hkept, true_and, not_or, not_exists, not_and, not_not] at h
    obtain ⟨haware, hends⟩ := h
    by_cases hstarted : ∀ starts ∈ v.startsAt, starts.instant ≤ now.instant
    · obtain ⟨b, hb, hiff⟩ := isBeforeEnd_of_eq (hends hstarted)
      refine ⟨b, by rw [isActive_of_started hkept haware hstarted, hb], hiff.trans ?_⟩
      exact ⟨fun hbefore => ⟨hkept, hstarted, hbefore⟩, Covers.beforeEnd⟩
    · refine ⟨false, ?_, iff_of_false Bool.false_ne_true fun hcovers => hstarted hcovers.started⟩
      obtain ⟨starts, hstarts, hearly⟩ := not_forall₂.1 hstarted
      exact isActive_of_early hkept hstarts (haware starts hstarts) (Int.not_le.1 hearly)
  · refine ⟨false, isActive_of_deleted (by simpa using hkept), ?_⟩
    exact iff_of_false Bool.false_ne_true fun hcovers => hkept hcovers.kept

theorem isActive_error_iff : v.isActive now = .error ⟨⟩ ↔ v.IsMixed now := by
  refine ⟨fun h => ?_, isActive_of_isMixed⟩
  by_contra hmixed
  obtain ⟨b, hb, -⟩ := isActive_eq hmixed
  rw [hb] at h
  cases h

theorem isActive_ok_iff : (∃ b, v.isActive now = .ok b) ↔ ¬v.IsMixed now := by
  rw [← isActive_error_iff]
  cases v.isActive now with
  | ok b => simp
  | error e => simp [show e = ⟨⟩ from rfl]

theorem isActive_eq_true_iff :
    v.isActive now = .ok true ↔ ¬v.IsMixed now ∧ v.Covers now.instant := by
  constructor
  · intro h
    have hmixed := isActive_ok_iff.1 ⟨true, h⟩
    obtain ⟨b, hb, hiff⟩ := isActive_eq hmixed
    obtain rfl := Except.ok.inj (hb.symm.trans h)
    exact ⟨hmixed, hiff.1 rfl⟩
  · rintro ⟨hmixed, hcovers⟩
    obtain ⟨b, hb, hiff⟩ := isActive_eq hmixed
    rw [hb, hiff.2 hcovers]

/-- A moment of the sort of all bounds is compared with none of the other sort. -/
theorem not_isMixed (h : ∀ m ∈ v.bounds, m.isAware = now.isAware) : ¬v.IsMixed now := by
  rintro ⟨-, ⟨starts, hstarts, hne⟩ | ⟨-, ends, hends, hne⟩⟩
  · exact hne (h starts (List.mem_append_left _ (Option.mem_toList.2 hstarts)))
  · exact hne (h ends (List.mem_append_right _ (Option.mem_toList.2 hends)))

/-- A moment of the sort of one that is covered is compared with none of the other sort. -/
theorem not_isMixed_of_isActive (h : v.isActive now = .ok true)
    (haware : now'.isAware = now.isAware) :
    ¬v.IsMixed now' := by
  obtain ⟨hmixed, hcovers⟩ := isActive_eq_true_iff.1 h
  simp only [IsMixed, hcovers.kept, true_and, not_or, not_exists, not_and, not_not] at hmixed ⊢
  rw [haware]
  exact ⟨hmixed.1, fun _ => hmixed.2 hcovers.started⟩

/-- What an entitlement covers has no gaps. -/
theorem Covers.between {first last instant : Int} (hfirst : v.Covers first) (hlast : v.Covers last)
    (hle : first ≤ instant) (hle' : instant ≤ last) : v.Covers instant where
  kept := hfirst.kept
  started starts hstarts := (hfirst.started starts hstarts).trans hle
  beforeEnd ends hends := hle'.trans_lt (hlast.beforeEnd ends hends)

/-- Whether an entitlement is active depends on instants, not on offsets. -/
theorem Rewritten.isActive_eq (h : v.Rewritten v') (hnow : now.SameInstant now') :
    v'.isActive now' = v.isActive now := by
  obtain ⟨hdeleted, hstarts, hends⟩ := h
  have hbefore : v'.isBeforeEnd now' = v.isBeforeEnd now := by
    rw [isBeforeEnd, isBeforeEnd]
    generalize v.endsAt = ends, v'.endsAt = ends' at hends ⊢
    cases hends with
    | none => rfl
    | some hends => exact hnow.isBefore_eq hends
  rw [isActive, isActive, hdeleted, hbefore]
  generalize v.startsAt = starts, v'.startsAt = starts' at hstarts ⊢
  cases hstarts with
  | none => rfl
  | some hstarts =>
    dsimp only
    rw [hnow.isBefore_eq hstarts]

end Validity

/-! ## Entitlements as records -/

namespace Value

variable {good : Ready → Prop} {v : Value}

/-- The value of a moment that may be missing. -/
def ofMoment? (m : Option Moment) : Value := (m.map Value.moment).getD .null

theorem Fits.eq_ofMoment? (h : v.Fits good (.nullable .moment)) : v = .ofMoment? v.moment? := by
  cases h with
  | nothing => rfl
  | nullable h =>
    cases h
    rfl

end Value

/-- What decides whether an entitlement is active is what its record holds: decoded records have a
truth value in one field, and moments or nothing in the two others. -/
theorem Entitlement.get_of_conforms {r : Record} (h : r.Conforms .entitlement) :
    r.get "deleted" = .truth (validity r).deleted ∧
      r.get "starts_at" = .ofMoment? (validity r).startsAt ∧
      r.get "ends_at" = .ofMoment? (validity r).endsAt := by
  have hfields : RecordKind.entitlement.fields = Catalog.entitlement := rfl
  have hdeleted := h.admits_get (f := .withDefault "deleted" .truth (.truth false))
    (by simp [hfields, Catalog.entitlement])
  have hstarts := h.admits_get (f := .optional "starts_at" .moment)
    (by simp [hfields, Catalog.entitlement])
  have hends := h.admits_get (f := .optional "ends_at" .moment)
    (by simp [hfields, Catalog.entitlement])
  exact ⟨hdeleted.1.eq_truth, hstarts.1.eq_ofMoment?, hends.1.eq_ofMoment?⟩

/-! ## The window -/

namespace Validity

/-- When an entitlement is active. Where its bounds and the moment are all aware or all naive, there
is an answer, and it is that the entitlement is not deleted and the instant of the moment is not
before its start and before its end. The answer depends on the instants alone, and not on the
offsets that they are written with. Between two moments at which it is active it is active as well.
There is no answer if and only if a naive moment would have to be compared with an aware one, which
is so for the start if it is not deleted, and for the end if moreover it has started. -/
theorem isActive_window (v : Validity) (now : Moment) :
    ((∀ m ∈ v.bounds, m.isAware = now.isAware) →
      ∃ b, v.isActive now = .ok b ∧ (b = true ↔ v.Covers now.instant)) ∧
    (∀ v' now', v.Rewritten v' → now.SameInstant now' → v'.isActive now' = v.isActive now) ∧
    (∀ first last m : Moment, v.isActive first = .ok true → v.isActive last = .ok true →
      m.isAware = first.isAware → first.instant ≤ m.instant → m.instant ≤ last.instant →
      v.isActive m = .ok true) ∧
    (v.isActive now = .error ⟨⟩ ↔ v.IsMixed now) ∧
    ((∃ b, v.isActive now = .ok b) ↔ ¬v.IsMixed now) := by
  refine ⟨fun h => isActive_eq (not_isMixed h), fun v' now' h hnow => h.isActive_eq hnow, ?_,
    isActive_error_iff, isActive_ok_iff⟩
  intro first last m hfirst hlast haware hle hle'
  have hcovers := (isActive_eq_true_iff.1 hfirst).2
  have hcovers' := (isActive_eq_true_iff.1 hlast).2
  exact isActive_eq_true_iff.2 ⟨not_isMixed_of_isActive hfirst haware,
    hcovers.between hcovers' hle hle'⟩

/-- An entitlement that starts in the last hour of a leap day by its own offset, which is in the
first of the next month by universal time, and ends half an hour later by a third offset. It is
active at its start, by universal time and by a fourth offset, not at its end, and a naive moment is
refused. -/
theorem isActive_window_of_leap_day :
    let mapping := Json.object [("id", .string "1"), ("sku_id", .string "2"),
      ("application_id", .string "3"), ("type", .integer 8),
      ("starts_at", .string "2024-02-29T23:30:00-01:00"),
      ("ends_at", .string "2024-03-01T02:00:00+01:00")]
    let first : Moment := ⟨⟨2024, 3, 1, by decide⟩, ⟨0, 30, 0, 0, by decide⟩, some .utc⟩
    let again : Moment :=
      ⟨⟨2024, 3, 1, by decide⟩, ⟨6, 15, 0, 0, by decide⟩, some ⟨20700000000, by decide⟩⟩
    let last : Moment := ⟨⟨2024, 3, 1, by decide⟩, ⟨1, 0, 0, 0, by decide⟩, some .utc⟩
    let naive : Moment := ⟨⟨2024, 3, 1, by decide⟩, ⟨0, 30, 0, 0, by decide⟩, none⟩
    ∃ r, (Record.decodeMapping .entitlement mapping).outcome = .ok r ∧
      (Entitlement.validity r).isActive first = .ok true ∧
      (Entitlement.validity r).isActive again = .ok true ∧
      (Entitlement.validity r).isActive last = .ok false ∧
      (Entitlement.validity r).isActive naive = .error ⟨⟩ := by
  intro mapping first again last naive
  let starts : Moment :=
    ⟨⟨2024, 2, 29, by decide⟩, ⟨23, 30, 0, 0, by decide⟩, some ⟨-3600000000, by decide⟩⟩
  let ends : Moment :=
    ⟨⟨2024, 3, 1, by decide⟩, ⟨2, 0, 0, 0, by decide⟩, some ⟨3600000000, by decide⟩⟩
  let v : Validity := ⟨false, some starts, some ends⟩
  obtain ⟨r, hr, hv⟩ : ∃ r, (Record.decodeMapping .entitlement mapping).outcome = .ok r ∧
      Entitlement.validity r = v := ⟨_, rfl, rfl⟩
  have haware : ∀ m ∈ v.bounds, m.isAware = true := by decide
  have hsame : v.Rewritten v := ⟨rfl, .some ⟨rfl, rfl⟩, .some ⟨rfl, rfl⟩⟩
  have hcovers : v.Covers first.instant := by
    constructor <;> decide
  have hfirst : v.isActive first = .ok true := by
    obtain ⟨b, hb, hiff⟩ := (isActive_window v first).1 haware
    rw [hb, hiff.2 hcovers]
  have hagain : v.isActive again = v.isActive first :=
    (isActive_window v first).2.1 v again hsame ⟨rfl, by decide⟩
  have hlast : v.isActive last = .ok false := by
    obtain ⟨b, hb, hiff⟩ := (isActive_window v last).1 haware
    have hended : ¬last.instant < ends.instant := by decide
    rw [hb, Bool.eq_false_iff.2 fun h => hended ((hiff.1 h).beforeEnd ends rfl)]
  have hnaive : v.isActive naive = .error ⟨⟩ :=
    (isActive_window v naive).2.2.2.1.2 ⟨rfl, .inl ⟨starts, rfl, by decide⟩⟩
  rw [← hv] at hfirst hagain hlast hnaive
  exact ⟨r, hr, hfirst, hagain.trans hfirst, hlast, hnaive⟩

end Validity
end ChatRecords
