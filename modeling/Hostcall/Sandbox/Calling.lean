import Hostcall.Sandbox.Building

/-!
# The sandbox as a host

A lookup on a watched object is traced before anything else, so a lookup that
raises is traced too.  A call is traced, then checked for its number of
arguments, then changes what it has to change, then runs its text, then
raises, and at last returns.
-/

namespace Hostcall.Sandbox

/-- What an object has under a name. -/
def get (handle : Handle) (name : String) : EStateM Fault World (Value Handle) := fun world =>
  match world.cells[handle.slot]? with
  | none => .ok .null world
  | some cell =>
      let traced :=
        if cell.profile.watched then world.record (.looked cell.profile.id name) else world
      match cell.profile.faults.lookup name with
      | some fault => .error fault traced
      | none => .ok ((cell.entries.lookup name).getD .null) traced

/-- The error by which a record reports a missing attribute. -/
def reportsMissing : Fault → Bool
  | .missingAttribute _ => true
  | _ => false

/-- Make the change of a call. -/
def assign
    (cell : Cell)
    (assignment : Assignment)
    (arguments : List (Value Handle))
    (world : World) :
    World :=
  let target := world.sharedValue assignment.target
  match assignment.content with
  | .argument index =>
      world.changeEntries
        (fun entries => entries.set assignment.key (arguments[index]?.getD .null)) target
  | .fresh =>
      let (value, built) := (build resolveShared (cell.fresh.getD .null)).run world
      built.changeEntries (fun entries => entries.set assignment.key value) target
  | .nothing => world.changeEntries (fun entries => entries.remove assignment.key) target

/-- The next answer of an object, which counts as given. -/
def nextAnswer (handle : Handle) (world : World) : Value Handle × World :=
  match world.cells[handle.slot]? with
  | none => (.null, world)
  | some cell =>
      ((cell.answers[min cell.answered (cell.answers.length - 1)]?).getD .null,
        { world with
          cells :=
            world.cells.modify handle.slot fun cell =>
              { cell with answered := cell.answered + 1 } })

/-- The end of a call: it raises or returns. -/
def conclude
    (handle : Handle)
    (conduct : Conduct)
    (arguments : List (Value Handle))
    (world : World) :
    EStateM.Result Fault World (Value Handle) :=
  match conduct.fault with
  | some fault => .error fault world
  | none =>
      match conduct.reply with
      | .itself => .ok (.object handle) world
      | .argument index => .ok (arguments[index]?.getD .null) world
      | .answers =>
          let (value, after) := nextAnswer handle world
          .ok value after

/-- The error that a failed run is for the object that ran it. -/
def Fault.ofRunFailure : RunFailure Fault → Fault
  | .source error => .source error
  | .raised fault => fault

/-- What a call does behind the check of its arguments. -/
def proceed
    (handle : Handle)
    (cell : Cell)
    (conduct : Conduct)
    (arguments : List (Value Handle))
    (world : World) :
    Activity World Fault Handle :=
  let changed :=
    match conduct.assignment with
    | none => world
    | some assignment => assign cell assignment arguments world
  match conduct.text with
  | none => .settled (conclude handle conduct arguments changed)
  | some text =>
      .running text changed fun
        | .ok _ after => .settled (conclude handle conduct arguments after)
        | .error failure after => .settled (.error (.ofRunFailure failure) after)

/-- What calling an object does. -/
def activity
    (handle : Handle)
    (arguments : List (Value Handle))
    (world : World) :
    Activity World Fault Handle :=
  match world.cells[handle.slot]? with
  | none => .settled (.ok .null world)
  | some cell =>
      match cell.profile.conduct with
      | none => .settled (.ok .null world)
      | some conduct =>
          let traced := world.record (.called cell.profile.id arguments)
          match conduct.arity with
          | none => proceed handle cell conduct arguments traced
          | some expected =>
              if expected = arguments.length then
                proceed handle cell conduct arguments traced
              else
                .settled
                  (.error (.wrongCount cell.profile.id expected arguments.length) traced)

/-- The sandbox as a host whose callables run texts in a root scope. -/
def sandbox (root : Value Handle) : ReentrantHost World Fault Handle where
  shape := Handle.shape
  get := get
  reportsMissing := reportsMissing
  callable := Handle.callable
  activity := activity
  root := root
  tooDeep := .tooDeep

end Hostcall.Sandbox
