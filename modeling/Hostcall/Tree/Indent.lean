import Hostcall.Text.Spaces

/-!
# Indents

An indent is the width by which a level stands in.  The space before a line
repeats that width once for every level above zero.  Neither an indent nor the
space before a line is made if its run of spaces is not.
-/

namespace Hostcall

/-- How far one level stands in, and the memory that holds the space before lines. -/
structure Indent where
  memory : Text.Memory
  width : Nat
  width_lt : width < memory.limit
deriving DecidableEq, Repr

namespace Indent

/-- The indent of a width; a width below zero counts as none. -/
def ofWidth (memory : Text.Memory) (width : Int) : Except Text.SpacesError Indent :=
  match made : Text.runLength memory 1 width with
  | .error failure => .error failure
  | .ok length =>
      .ok ⟨memory, length,
        Nat.lt_of_lt_of_le (Text.runLength_eq_ok_iff.mp made).2.2.2 (Nat.min_le_left _ _)⟩

/-- Two spaces a level. -/
def standard (memory : Text.Memory) : Indent :=
  ⟨memory, 2, memory.two_lt⟩

/-- The space before a line at a level. -/
def pad (indent : Indent) (level : Int) : Except Text.SpacesError String :=
  (Text.runLength indent.memory indent.width level).map Text.spaces

end Indent

end Hostcall
