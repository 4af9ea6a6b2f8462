import Hostcall.Evaluation

/-!
# The demonstration host

A small host that shows what a program usually finds: a namespace object with
a logging function whose result can be called again, a plain function, and a
constant.  What its functions put out goes wherever the given function takes
it; the host has no state beside that.
-/

namespace Hostcall.Demo

/-- The objects of the demonstration host. -/
inductive Object where
  /-- The scope of programs. -/
  | root
  /-- The namespace object. -/
  | console
  /-- The function in the namespace object. -/
  | log
  /-- The plain function. -/
  | testLog
  /-- What the logging function returns. -/
  | secondCall
  /-- What calling that returns. -/
  | thirdCall
deriving DecidableEq, Repr

/-- The name of a function; the scope and the namespace object have none. -/
def Object.functionName : Object → Option String
  | .root => none
  | .console => none
  | .log => some "log"
  | .testLog => some "test_log"
  | .secondCall => some "second_call"
  | .thirdCall => some "third_call"

/-- A function without parameters was called with arguments. -/
structure UnwantedArguments where
  callee : String
  given : Nat
deriving DecidableEq, Repr

/-- What is wrong, in words. -/
def UnwantedArguments.message (failure : UnwantedArguments) : String :=
  "demo_scope.<locals>." ++ failure.callee ++ "() takes 0 positional arguments but " ++
    toString failure.given ++ (if failure.given = 1 then " was given" else " were given")

variable {State : Type}

/-- What the objects have under names. -/
def part : Object → String → Value Object
  | .root, "myConsole" => .object .console
  | .root, "testLog" => .object .testLog
  | .root, "globalValue" => .text "==> hello word4"
  | .console, "log" => .object .log
  | _, _ => .null

/-- Call a function without parameters: put a line out and return. -/
def callPlain
    (out : List (Value Object) → State → State)
    (callee line : String)
    (returned : Value Object)
    (arguments : List (Value Object)) :
    EStateM UnwantedArguments State (Value Object) :=
  fun state =>
    match arguments with
    | [] => .ok returned (out [.text line] state)
    | _ :: _ => .error ⟨callee, arguments.length⟩ state

/-- What calling an object does. -/
def call
    (out : List (Value Object) → State → State)
    (object : Object)
    (arguments : List (Value Object)) :
    EStateM UnwantedArguments State (Value Object) :=
  match object with
  | .log => fun state =>
      .ok (.object .secondCall) (out [.text "log finished"] (out arguments state))
  | .testLog => fun state => .ok .null (out arguments state)
  | .secondCall =>
      callPlain out "second_call" "console log return function ===>> chained call"
        (.object .thirdCall) arguments
  | .thirdCall => callPlain out "third_call" "===>> third call" .null arguments
  | .root => pure .null
  | .console => pure .null

/-- The demonstration host that puts out through the given function. -/
def host (out : List (Value Object) → State → State) :
    Host State UnwantedArguments Object where
  shape
    | .root => .mapping
    | .console => .mapping
    | _ => .record
  get := fun object name => pure (part object name)
  reportsMissing := fun _ => false
  callable := fun object => object.functionName.isSome
  call := call out

/-- The scope of programs. -/
def scope : Value Object :=
  .object .root

/-- What a value has under a name. -/
def found : Value Object → String → Value Object
  | .object object, name => part object name
  | _, _ => .null

/-- What is looked up in the demonstration host is found without a trace. -/
theorem lookup_host
    (out : List (Value Object) → State → State)
    (container : Value Object)
    (name : String) :
    (host out).access.lookup container name = pure (found container name) := by
  cases container with
  | object object => cases object <;> rfl
  | null | bool | int | text | list => rfl

/-- How a value is shown when it is put out. -/
def display : Value Object → String
  | .null => "None"
  | .bool true => "True"
  | .bool false => "False"
  | .int value => toString value
  | .text value => value
  | .list items => "<list of " ++ toString items.length ++ ">"
  | .object object => "<" ++ object.functionName.getD "mapping" ++ ">"

/-- The line that shows some values, a space between two of them. -/
def displayLine (values : List (Value Object)) : String :=
  " ".intercalate (values.map display)

end Hostcall.Demo
