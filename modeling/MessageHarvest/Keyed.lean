import MessageHarvest.Text.Basic

/-!
# Keyed values

Values under names, in the order in which the names first came. A later value for a name takes
the place of the earlier one.
-/
namespace MessageHarvest

/-- Values under names, each name once. -/
abbrev Keyed (α : Type) := List (Text × α)

namespace Keyed

variable {α : Type}

/-- The value under a name. -/
def get? (items : Keyed α) (key : Text) : Option α := items.lookup key

/-- Puts a value under a name: in place if the name is there, else at the end. -/
def put (key : Text) (value : α) : Keyed α → Keyed α
  | [] => [(key, value)]
  | item :: items =>
    if item.1 = key then (key, value) :: items else item :: put key value items

/-- Puts values one after the other. -/
def putAll (items : Keyed α) (new : List (Text × α)) : Keyed α :=
  new.foldl (fun all item => put item.1 item.2 all) items

end Keyed

end MessageHarvest
