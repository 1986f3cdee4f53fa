/-!
# Lists searched by a key

A list whose items may have keys, searched from the front. Nothing keeps two items from having
one key; every operation then acts on the first of them.

## Main definitions

* `Keyed.find?`: the first item with a key.
* `Keyed.modify`, `Keyed.replace`, `Keyed.erase`: the list with that item changed, replaced or
  left out.
* `Keyed.upsert`: the list with that item replaced, or a new one at its end.
-/

namespace ChatRecords
namespace Keyed

variable {α κ : Type} [DecidableEq κ]

def HasKey (key : α → Option κ) (k : κ) (a : α) : Prop := key a = some k

instance (key : α → Option κ) (k : κ) (a : α) : Decidable (HasKey key k a) := by
  unfold HasKey; infer_instance

def find? (key : α → Option κ) (k : κ) (items : List α) : Option α :=
  items.find? fun a => HasKey key k a

/-- The list with the first item that has a key changed. -/
def modify (key : α → Option κ) (k : κ) (f : α → α) : List α → List α
  | [] => []
  | a :: rest => if HasKey key k a then f a :: rest else a :: modify key k f rest

/-- The list with the first item that has a key replaced. -/
def replace (key : α → Option κ) (k : κ) (new : α) (items : List α) : List α :=
  modify key k (fun _ => new) items

/-- The list without the first item that has a key. -/
def erase (key : α → Option κ) (k : κ) (items : List α) : List α :=
  items.eraseP fun a => HasKey key k a

/-- The list with the first item that has a key replaced; if there is none, the new item comes
last. -/
def upsert (key : α → Option κ) (k : κ) (new : α) (items : List α) : List α :=
  if (find? key k items).isSome then replace key k new items else items ++ [new]

end Keyed
end ChatRecords
