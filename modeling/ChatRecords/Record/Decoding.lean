import ChatRecords.Fault

/-!
# The result of decoding

A value or the first refusal, and beside it the warnings that came up on the way. The parts of
a payload are decoded independently: a refusal of one does not keep the others from reporting
their warnings.

## Main definitions

* `Decoding`: the result.
* `Decoding.result`: the value, or what is raised in its place.
* `Decoding.under`: the result as seen from one step further up.
* `Decoding.collect`: the results of several parts as one.
-/

namespace ChatRecords

/-- What came of decoding a payload or a part of it. -/
structure Decoding (α : Type) where
  /-- Masks with bits without a name, in the order in which they were decoded. -/
  warnings : List LossyFlags
  outcome : Except Refusal α

namespace Decoding

variable {α β γ : Type}

/-- What a caller gets or meets, where some number of values can lie within one another while an
error shows them. -/
def result (room : Nat) (d : Decoding α) : Except Raised α := d.outcome.mapError (Refusal.raised room)

def ok (a : α) : Decoding α := ⟨[], .ok a⟩

def refused (r : Refusal) : Decoding α := ⟨[], .error r⟩

def failed (fault : Fault) : Decoding α := refused ⟨fault, []⟩

def ofConversion (r : Except Fault α) : Decoding α :=
  match r with
  | .ok a => ok a
  | .error fault => failed fault

/-- The result with a function applied to its value. -/
def map (f : α → β) (d : Decoding α) : Decoding β := ⟨d.warnings, d.outcome.map f⟩

/-- The result as seen from one step further up. -/
def under (step : Step) (d : Decoding α) : Decoding α :=
  ⟨d.warnings, d.outcome.mapError (Refusal.under step)⟩

/-- Two results as one: all warnings, and the first refusal. -/
def both (f : α → β → γ) (a : Decoding α) (b : Decoding β) : Decoding γ :=
  ⟨a.warnings ++ b.warnings,
    match a.outcome, b.outcome with
    | .ok x, .ok y => .ok (f x y)
    | .error r, _ => .error r
    | _, .error r => .error r⟩

/-- The results of several parts as one: all warnings, and the first refusal. -/
def collect : List (Decoding α) → Decoding (List α)
  | [] => ok []
  | d :: rest => both List.cons d (collect rest)

end Decoding
end ChatRecords
