/-!
# Values

What a program computes with.  Texts come from the program itself; everything
else is given by the host.  An object is only a reference, which means nothing
without the host that gave it.
-/

namespace Hostcall

/-- A value, with references of a given type to the objects of a host. -/
inductive Value (Ref : Type) where
  | null
  | bool (value : Bool)
  | int (value : Int)
  | text (value : String)
  | list (items : List (Value Ref))
  | object (ref : Ref)

namespace Value

variable {Ref : Type} [DecidableEq Ref]

/-! ## Equality -/

mutual

/-- Two values are the same. -/
def same : Value Ref → Value Ref → Bool
  | .null, .null => true
  | .bool left, .bool right => left == right
  | .int left, .int right => left == right
  | .text left, .text right => left == right
  | .list left, .list right => sameItems left right
  | .object left, .object right => left == right
  | _, _ => false

/-- Two lists hold the same values. -/
def sameItems : List (Value Ref) → List (Value Ref) → Bool
  | [], [] => true
  | left :: lefts, right :: rights => same left right && sameItems lefts rights
  | _, _ => false

end

mutual

theorem same_iff :
    ∀ left right : Value Ref, same left right = true ↔ left = right
  | .null, right | .bool _, right | .int _, right | .text _, right | .object _, right => by
      cases right <;> simp [same]
  | .list left, right => by
      cases right <;> simp [same]
      rename_i right
      simp [sameItems_iff left right]

theorem sameItems_iff :
    ∀ left right : List (Value Ref), sameItems left right = true ↔ left = right
  | [], right => by cases right <;> simp [sameItems]
  | left :: lefts, right => by
      cases right with
      | nil => simp [sameItems]
      | cons right rights => simp [sameItems, same_iff left right, sameItems_iff lefts rights]

end

instance : DecidableEq (Value Ref) :=
  fun left right => decidable_of_iff (same left right = true) (same_iff left right)

end Value

end Hostcall
