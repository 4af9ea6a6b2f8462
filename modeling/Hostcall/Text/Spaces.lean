/-!
# Runs of spaces

A run repeats a width of spaces a number of times; a number below zero leaves
no space.  The number is a signed word of 64 bits, and so is the length of the
run.  A run that memory does not hold is not made either; how much it holds
differs from machine to machine.
-/

namespace Hostcall.Text

/-- Why a run of spaces is not made. -/
inductive SpacesError where
  /-- The number of repetitions is no signed word. -/
  | count
  /-- The length of the run is no signed word. -/
  | length
  /-- Memory does not hold the run. -/
  | memory
deriving DecidableEq, Repr

/-- What is wrong, in words; there are none for the want of memory. -/
def SpacesError.message : SpacesError → String
  | .count => "cannot fit 'int' into an index-sized integer"
  | .length => "repeated string is too long"
  | .memory => ""

/-- The least number above the signed words. -/
def wordLimit : Nat :=
  Nat.pow 2 63

/-- The memory of a machine, by the runs that it holds. -/
structure Memory where
  /-- The least length of a run that it does not hold. -/
  limit : Nat
  two_lt : 2 < limit
deriving DecidableEq, Repr

/-- The length of a run that repeats a width, if the run can be made. -/
def runLength (memory : Memory) (width : Nat) (count : Int) : Except SpacesError Nat :=
  if count < -(wordLimit : Int) ∨ (wordLimit : Int) ≤ count then
    .error .count
  else if wordLimit ≤ width * count.toNat then
    .error .length
  else if memory.limit ≤ width * count.toNat then
    .error .memory
  else
    .ok (width * count.toNat)

/-- A run is made exactly if its number and its length are signed words and memory holds it. -/
theorem runLength_eq_ok_iff {memory : Memory} {width : Nat} {count : Int} {length : Nat} :
    runLength memory width count = .ok length ↔
      -(wordLimit : Int) ≤ count ∧ count < wordLimit ∧
        length = width * count.toNat ∧ length < min memory.limit wordLimit := by
  unfold runLength
  split
  · simp only [reduceCtorEq, false_iff]
    omega
  · split
    · simp only [reduceCtorEq, false_iff]
      omega
    · split
      · simp only [reduceCtorEq, false_iff]
        omega
      · simp only [Except.ok.injEq]
        omega

/-- So many spaces. -/
def spaces (length : Nat) : String :=
  String.ofList (List.replicate length ' ')

end Hostcall.Text
