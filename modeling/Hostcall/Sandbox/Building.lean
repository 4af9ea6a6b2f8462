import Hostcall.Sandbox.Basic

/-!
# Building described values

A description becomes a value by putting its objects into new slots of a
world.  Shared values are built once: first every shared object gets its slot,
so that descriptions may refer to each other in any order and in circles, then
the shared values that are no objects are built, and last the objects are
filled.
-/

namespace Hostcall.Sandbox

/-- Put an object without contents into a new slot. -/
def allocate (profile : Profile) : StateM World Handle := fun world =>
  let handle : Handle :=
    ⟨world.cells.size, profile.id, profile.shape, profile.conduct.isSome⟩
  (handle, { world with cells := world.cells.push ⟨profile, [], none, [], 0⟩ })

/-- Give an object its contents. -/
def fill
    (handle : Handle)
    (entries : Entries)
    (fresh : Option Spec)
    (answers : List (Value Handle)) :
    StateM World Unit := fun world =>
  ((), { world with
    cells :=
      world.cells.modify handle.slot fun cell =>
        { cell with entries := entries, fresh := fresh, answers := answers } })

mutual

/-- Build a value, given what stands for the shared values. -/
def build (resolve : String → StateM World (Value Handle)) :
    Spec → StateM World (Value Handle)
  | .null => pure .null
  | .bool value => pure (.bool value)
  | .int value => pure (.int value)
  | .text value => pure (.text value)
  | .list items => do
      let values ← buildAll resolve items
      pure (.list values)
  | .shared name => resolve name
  | .object profile entries fresh answers => do
      let handle ← allocate profile
      let entries ← buildEntries resolve entries
      let answers ← buildAll resolve answers
      fill handle entries fresh answers
      pure (.object handle)

/-- Build some values in order. -/
def buildAll (resolve : String → StateM World (Value Handle)) :
    List Spec → StateM World (List (Value Handle))
  | [] => pure []
  | spec :: others => do
      let value ← build resolve spec
      let values ← buildAll resolve others
      pure (value :: values)

/-- Build the entries of an object in order. -/
def buildEntries (resolve : String → StateM World (Value Handle)) :
    List (String × Spec) → StateM World Entries
  | [] => pure []
  | (name, spec) :: others => do
      let value ← build resolve spec
      let values ← buildEntries resolve others
      pure ((name, value) :: values)

end

/-- What a name stands for once all shared values are built. -/
def resolveShared (name : String) : StateM World (Value Handle) := fun world =>
  (world.sharedValue name, world)

/-- Share a value under a name. -/
def share (name : String) (value : Value Handle) : StateM World Unit := fun world =>
  ((), { world with shared := (name, value) :: world.shared })

/-- Give the objects among some shared values their slots. -/
def allocateShared : List (String × Spec) → StateM World Unit
  | [] => pure ()
  | (name, .object profile _ _ _) :: others => do
      share name (.object (← allocate profile))
      allocateShared others
  | _ :: others => allocateShared others

/--
The value shared under a name, which is built if it is not shared yet.  Values
may refer to each other in a line no longer than the given bound.
-/
def demandShared (definitions : List (String × Spec)) :
    Nat → String → StateM World (Value Handle)
  | 0, _ => pure .null
  | bound + 1, name => do
      match (← get).shared.lookup name with
      | some value => pure value
      | none =>
          match definitions.lookup name with
          | none => pure .null
          | some spec =>
              let value ← build (demandShared definitions bound) spec
              share name value
              pure value

/-- Build all shared values that are no objects. -/
def demandAll (definitions : List (String × Spec)) :
    List (String × Spec) → StateM World Unit
  | [] => pure ()
  | (name, _) :: others => do
      let _ ← demandShared definitions (definitions.length + 1) name
      demandAll definitions others

/-- Give shared objects their contents. -/
def fillShared : List (String × Spec) → StateM World Unit
  | [] => pure ()
  | (name, .object _ entries fresh answers) :: others => do
      match (← get).sharedValue name with
      | .object handle =>
          let entries ← buildEntries resolveShared entries
          let answers ← buildAll resolveShared answers
          fill handle entries fresh answers
      | _ => pure ()
      fillShared others
  | _ :: others => fillShared others

/-- The world in which the definitions are shared. -/
def worldOf (definitions : List (String × Spec)) : World :=
  let building : StateM World Unit := do
    allocateShared definitions
    demandAll definitions definitions
    fillShared definitions
  (building.run .empty).2

end Hostcall.Sandbox
