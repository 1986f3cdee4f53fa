import ChatRecords.Record.Value

/-!
# Entitlements

An entitlement is active while it is not deleted and the time lies in its window, whose start
belongs to it and whose end does not. Either bound may be missing.

## Main definitions

* `Validity`: what decides whether an entitlement is active.
* `Validity.isActive`: whether it is active at a moment.
-/

namespace ChatRecords

/-- What decides whether an entitlement is active. -/
structure Validity where
  deleted : Bool
  /-- When it starts, if that is bounded. -/
  startsAt : Option Moment
  /-- When it ends, if that is bounded. -/
  endsAt : Option Moment

/-- A naive moment was compared with an aware one. -/
structure MixedMoments where
deriving DecidableEq

def MixedMoments.message : MixedMoments → String
  | ⟨⟩ => "can't compare offset-naive and offset-aware datetimes"

def Moment.isBefore (a b : Moment) : Except MixedMoments Bool :=
  match a.precedes? b with
  | some r => .ok r
  | none => .error ⟨⟩

namespace Validity

/-- Whether a moment is before the end of an entitlement. Every moment is, if it has none. -/
def isBeforeEnd (v : Validity) (now : Moment) : Except MixedMoments Bool :=
  match v.endsAt with
  | none => .ok true
  | some ends => now.isBefore ends

/-- Whether an entitlement is active at a moment. Its end is looked at only if it is not deleted
and has started. -/
def isActive (v : Validity) (now : Moment) : Except MixedMoments Bool :=
  if v.deleted then .ok false
  else
    match v.startsAt with
    | none => v.isBeforeEnd now
    | some starts =>
      match now.isBefore starts with
      | .error e => .error e
      | .ok true => .ok false
      | .ok false => v.isBeforeEnd now

end Validity

namespace Entitlement

def validity (entitlement : Record) : Validity :=
  ⟨(entitlement.get "deleted").isTrue, (entitlement.get "starts_at").moment?,
    (entitlement.get "ends_at").moment?⟩

end Entitlement
end ChatRecords
