import ChatRecords.Proofs.Record.Payload
import ChatRecords.Proofs.Text.Decimal

/-!
# Payloads that can be shown

An error shows the value that it carries, which takes room for the values within one another and
integers that are not too long. A payload that can be shown has only parts that can be shown, and an
integer that a text stands for can be shown, too. A flag set is shown by the names of its flags, but
it may be taken apart as a list of them, so their masks have to be short as well.

## Main definitions

* `Ready.CanShow`, `Payload.CanShow`: what can be shown, also where flag sets are taken apart.

## Main results

* `Payload.unshowable?_array_iff`, `Payload.unshowable?_object_iff`: a list or an object can be shown
  if its parts can, in the room that is left.
* `Payload.unshowable?_mono`: more room does not keep a payload from being shown.
* `Payload.CanShow.of_items?`, `Payload.CanShow.of_entry`: parts can be shown.
* `Payload.CanShow.ofInteger?_of_integer`: the integer that a payload stands for can be shown.
-/

namespace ChatRecords
namespace Payload

variable {room : Nat}

theorem unshowableItem?_eq_none_iff {items : List Payload} :
    unshowableItem? room items = none ↔ ∀ p ∈ items, p.unshowable? room = none := by
  induction items with
  | nil => simp [unshowableItem?]
  | cons p rest ih => rw [unshowableItem?, Option.or_eq_none_iff, ih, List.forall_mem_cons]

theorem unshowableEntries_eq (entries : List (String × Payload)) :
    unshowableEntries room entries = entries.map fun e => (e.1, e.2.unshowable? room) := by
  induction entries with
  | nil => rfl
  | cons e rest ih =>
    obtain ⟨k, p⟩ := e
    rw [unshowableEntries, ih, List.map_cons]

theorem unshowable?_array_iff {items : List Payload} :
    (Payload.array items).unshowable? (room + 1) = none ↔
      ∀ p ∈ items, p.unshowable? room = none := by
  rw [unshowable?, unshowableItem?_eq_none_iff]

theorem unshowable?_object_iff {entries : List (String × Payload)}
    (hkeys : (entries.map Prod.fst).Nodup) :
    (Payload.object entries).unshowable? (room + 1) = none ↔
      ∀ e ∈ entries, e.2.unshowable? room = none := by
  rw [unshowable?, unshowableEntries_eq, Entries.settle_eq_self]
  · rw [List.findSome?_eq_none_iff, List.forall_mem_map]
  · rwa [List.map_map]

/-- Nothing can be shown without room. -/
theorem exists_room_eq {p : Payload} (h : p.unshowable? room = none) : ∃ left, room = left + 1 := by
  cases room with
  | zero => cases p <;> simp [unshowable?] at h
  | succ left => exact ⟨left, rfl⟩

/-- More room does not keep a payload from being shown. -/
theorem unshowable?_mono {p : Payload} (hp : p.IsSettled) {more : Nat}
    (h : p.unshowable? room = none) (hle : room ≤ more) : p.unshowable? more = none := by
  induction hp generalizing room more with
  | array _ ih =>
    obtain ⟨room, rfl⟩ := exists_room_eq h
    obtain ⟨more, rfl⟩ := Nat.exists_eq_add_one_of_ne_zero (Nat.ne_zero_of_lt hle)
    rw [unshowable?_array_iff] at h ⊢
    exact fun p hp => ih p hp (h p hp) (Nat.le_of_succ_le_succ hle)
  | object hkeys _ ih =>
    obtain ⟨room, rfl⟩ := exists_room_eq h
    obtain ⟨more, rfl⟩ := Nat.exists_eq_add_one_of_ne_zero (Nat.ne_zero_of_lt hle)
    rw [unshowable?_object_iff hkeys] at h ⊢
    exact fun e he => ih e he (h e he) (Nat.le_of_succ_le_succ hle)
  | _ =>
    obtain ⟨room, rfl⟩ := exists_room_eq h
    obtain ⟨more, rfl⟩ := Nat.exists_eq_add_one_of_ne_zero (Nat.ne_zero_of_lt hle)
    exact h

theorem unshowable?_string (s : String) : (Payload.string s).unshowable? (room + 1) = none := rfl

end Payload

/-- An integer of few digits can be shown. -/
theorem Unshowable.ofInteger?_eq_none {n : Int}
    (h : (Nat.toDigits 10 n.natAbs).length ≤ Text.digitLimit) : ofInteger? n = none :=
  if_neg (Nat.not_lt.2 h)

namespace Text

theorem length_of_readSignedDigits {cs : List Char} {n : Int} (h : readSignedDigits cs = .ok n) :
    (Nat.toDigits 10 n.natAbs).length ≤ digitLimit := by
  simp only [readSignedDigits] at h
  generalize (if cs.head? = some '-' then cs.tail else cs) = body at h
  generalize body.takeWhile isAsciiDigit = ds at h
  split at h
  · cases h
  · split at h
    · cases h
    · next hlimit =>
      split at h
      · cases h
      · have hdigits : n.natAbs = natOfDigits ds := by
          obtain rfl := Except.ok.inj h
          split <;> simp
        have hlt : natOfDigits ds < 10 ^ digitLimit :=
          (natOfDigits_lt ds).trans_le (Nat.pow_le_pow_right (by decide) (Nat.not_lt.1 hlimit))
        exact length_toDigits_le (by decide) (hdigits ▸ hlt)

/-- The text of an integer with too many digits is not read. -/
theorem length_of_readInteger {s : String} {n : Int} (h : readInteger s = .ok n) :
    (Nat.toDigits 10 n.natAbs).length ≤ digitLimit := by
  rw [readInteger] at h
  split at h
  · next hread =>
    obtain rfl := Except.ok.inj h
    exact length_of_readSignedDigits hread
  · cases h
  · split at h
    · next hbare =>
      obtain rfl := Except.ok.inj h
      obtain ⟨cs, -, hread⟩ := Option.map_eq_some_iff.1 hbare
      exact length_of_readSignedDigits hread
    · cases h

end Text

/-! ## Decoded parts -/

/-- A decoded part can be shown, and so can each flag of a flag set. -/
def Ready.CanShow : Ready → Prop
  | .flags s => ∀ flag ∈ s.toList, Unshowable.ofInteger? flag.2 = none
  | v => v.unshowable? = none

/-- A payload can be shown, also where its flag sets are taken apart. -/
structure Payload.CanShow (room : Nat) (p : Payload) : Prop where
  shown : p.unshowable? room = none
  ready : p.AllReady Ready.CanShow

namespace Payload

variable {room : Nat} {p : Payload}

theorem canShow_string (s : String) : (Payload.string s).CanShow (room + 1) :=
  ⟨rfl, .string s⟩

/-- The items of a payload that can be shown can be shown. -/
theorem CanShow.of_items? (h : p.CanShow room) (hp : p.IsSettled) {items : List Payload}
    (hitems : p.items? = some items) : ∀ q ∈ items, q.CanShow room := by
  obtain ⟨hshown, hready⟩ := h
  obtain ⟨left, rfl⟩ := exists_room_eq hshown
  unfold items? at hitems
  split at hitems
  · obtain rfl := Option.some.inj hitems
    cases hp with
    | array hp =>
      cases hready with
      | array hready =>
        intro q hq
        have hleft := unshowable?_array_iff.1 hshown q hq
        exact ⟨unshowable?_mono (hp q hq) hleft (Nat.le_succ left), hready q hq⟩
  · obtain rfl := Option.some.inj hitems
    cases hready with
    | ready hflags =>
      intro q hq
      obtain ⟨flag, hflag, rfl⟩ := List.mem_map.1 hq
      exact ⟨hflags flag hflag, .ready (hflags flag hflag)⟩
  · cases hitems

/-- The values of the entries of an object that can be shown can be shown. -/
theorem CanShow.of_entry {entries : List (String × Payload)}
    (h : (Payload.object entries).CanShow room) (hp : (Payload.object entries).IsSettled)
    {e : String × Payload} (he : e ∈ entries) : e.2.CanShow room := by
  obtain ⟨hshown, hready⟩ := h
  obtain ⟨left, rfl⟩ := exists_room_eq hshown
  cases hp with
  | object hkeys hvalues =>
    cases hready with
    | object hready =>
      have hleft := (unshowable?_object_iff hkeys).1 hshown e he
      exact ⟨unshowable?_mono (hvalues e he) hleft (Nat.le_succ left), hready e he⟩

/-- The integer that a payload is can be shown if the payload can. -/
theorem CanShow.ofInteger?_of_integer? (h : p.CanShow room) {n : Int} (hn : p.integer? = some n) :
    Unshowable.ofInteger? n = none := by
  obtain ⟨hshown, hready⟩ := h
  obtain ⟨left, rfl⟩ := exists_room_eq hshown
  unfold integer? at hn
  split at hn
  · obtain rfl := Option.some.inj hn
    exact hshown
  · next x =>
    obtain rfl := Option.some.inj hn
    have hlt : x.raw < 10 ^ Text.digitLimit := calc
      x.raw < 2 ^ 64 := x.raw_lt
      _ ≤ 10 ^ 64 := Nat.pow_le_pow_left (by decide) 64
      _ ≤ 10 ^ Text.digitLimit := Nat.pow_le_pow_right (by decide) (by decide)
    exact Unshowable.ofInteger?_eq_none (Text.length_toDigits_le (by decide) hlt)
  · obtain rfl := Option.some.inj hn
    exact hshown
  · next t =>
    obtain rfl := Option.some.inj hn
    cases t <;> rfl
  · cases hn

/-- The integer that a payload stands for can be shown if the payload can. -/
theorem CanShow.ofInteger?_of_integer (h : p.CanShow room) {n : Int}
    (hn : Conversion.integer p = .ok n) : Unshowable.ofInteger? n = none := by
  unfold Conversion.integer at hn
  split at hn
  · next b =>
    obtain rfl := Except.ok.inj hn
    cases b <;> rfl
  · next x =>
    split at hn
    · cases hn
    · cases hn
    · cases hn
    · next hword _ _ =>
      obtain rfl := Except.ok.inj hn
      refine Unshowable.ofInteger?_eq_none (length_toDigits_of_fitsInteger ?_)
      unfold Double.toWord? at hword
      split at hword
      · split at hword
        · next hrange =>
          obtain rfl := Option.some.inj hword
          exact ⟨by omega, by omega⟩
        · cases hword
      · cases hword
  · next s =>
    split at hn
    · next hread =>
      obtain rfl := Except.ok.inj hn
      exact Unshowable.ofInteger?_eq_none (Text.length_of_readInteger hread)
    · cases hn
    · cases hn
  · split at hn
    · next hinteger =>
      obtain rfl := Except.ok.inj hn
      exact h.ofInteger?_of_integer? hinteger
    · cases hn

end Payload
end ChatRecords
