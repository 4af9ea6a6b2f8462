import Hostcall.Reentry

/-!
# Sandbox worlds

A sandbox is a host made of described objects, for trying programs out.  Its
world holds the objects in numbered slots, the values that are shared by name,
and a trace of the lookups that were watched and of all calls.

Descriptions are plain data.  They say what an object holds and what it does
when it is called: check the number of arguments, change a shared object, run
a text, raise, and return.
-/

namespace Hostcall.Sandbox

/-! ## Descriptions -/

/-- What sandbox objects raise. -/
inductive Fault where
  /-- An object says that it has no such attribute. -/
  | missingAttribute (message : String)
  /-- Any other described error. -/
  | described (kind message : String)
  /-- An object was called with a number of arguments that it does not take. -/
  | wrongCount (id : String) (expected : Int) (given : Nat)
  /-- A text run by an object is not a program. -/
  | source (error : SourceError)
  /-- Objects ran texts inside each other too deeply. -/
  | tooDeep
deriving DecidableEq, Repr

/-- What is wrong, in words. -/
def Fault.message : Fault → String
  | .missingAttribute message => message
  | .described _ message => message
  | .wrongCount id expected given =>
      id ++ " takes " ++ toString expected ++ ", got " ++ toString given
  | .source error => error.message
  | .tooDeep => "maximum recursion depth exceeded"

/-- What a call stores under a key of a shared object. -/
inductive Content where
  /-- An argument of the call, or null where there are fewer. -/
  | argument (index : Nat)
  /-- A value built anew at every call. -/
  | fresh
  /-- Nothing: the key is removed. -/
  | nothing
deriving DecidableEq, Repr

/-- A change that a call makes to the object shared under a name. -/
structure Assignment where
  target : String
  key : String
  content : Content
deriving DecidableEq, Repr

/-- What a call returns. -/
inductive Reply where
  /-- The called object. -/
  | itself
  /-- An argument of the call, or null where there are fewer. -/
  | argument (index : Nat)
  /-- The answers of the object in turn, the last one again and again; null without any. -/
  | answers
deriving DecidableEq, Repr

/-- What a call does, in this order. -/
structure Conduct where
  arity : Option Int
  assignment : Option Assignment
  text : Option String
  fault : Option Fault
  reply : Reply
deriving DecidableEq, Repr

/-- What never changes about an object. -/
structure Profile where
  /-- The name under which traces show the object. -/
  id : String
  shape : Shape
  /-- Whether lookups on the object are traced. -/
  watched : Bool
  /-- The names under which a lookup raises. -/
  faults : List (String × Fault)
  /-- What a call does, for an object that can be called. -/
  conduct : Option Conduct
deriving DecidableEq, Repr

/-- The description of a value. -/
inductive Spec where
  | null
  | bool (value : Bool)
  | int (value : Int)
  | text (value : String)
  | list (items : List Spec)
  /-- The value shared under a name. -/
  | shared (name : String)
  /-- An object, what it holds, what its calls store anew, and its answers. -/
  | object
      (profile : Profile)
      (entries : List (String × Spec))
      (fresh : Option Spec)
      (answers : List Spec)

/-! ## Worlds -/

/-- A reference to an object: its slot, and what can be seen of it without asking. -/
structure Handle where
  slot : Nat
  id : String
  shape : Shape
  callable : Bool
deriving DecidableEq, Repr

/-- The values of an object by name. -/
abbrev Entries := List (String × Value Handle)

/-- Set the value under a name: in place of the old one, or behind all others. -/
def Entries.set (entries : Entries) (name : String) (value : Value Handle) : Entries :=
  match entries with
  | [] => [(name, value)]
  | entry :: others =>
      if entry.1 = name then (name, value) :: others else entry :: Entries.set others name value

/-- Remove the value under a name, if there is one. -/
def Entries.remove (entries : Entries) (name : String) : Entries :=
  entries.filter (·.1 ≠ name)

/-- An object in a world. -/
structure Cell where
  profile : Profile
  entries : Entries
  /-- What its calls store when they store a fresh value. -/
  fresh : Option Spec
  answers : List (Value Handle)
  /-- How many of its calls have asked for an answer. -/
  answered : Nat

/-- What a trace shows. -/
inductive Event where
  /-- A lookup on a watched object. -/
  | looked (id name : String)
  /-- A call. -/
  | called (id : String) (arguments : List (Value Handle))
deriving DecidableEq

/-- A world. -/
structure World where
  cells : Array Cell
  shared : List (String × Value Handle)
  trace : Array Event

namespace World

/-- A world without objects. -/
def empty : World :=
  ⟨#[], [], #[]⟩

/-- Put an event at the end of the trace. -/
def record (world : World) (event : Event) : World :=
  { world with trace := world.trace.push event }

/-- Forget the trace. -/
def clearTrace (world : World) : World :=
  { world with trace := #[] }

/-- The value shared under a name, or null. -/
def sharedValue (world : World) (name : String) : Value Handle :=
  (world.shared.lookup name).getD .null

/-- Change the entries of an object; a value that is no object has none to change. -/
def changeEntries (world : World) (change : Entries → Entries) : Value Handle → World
  | .object handle =>
      { world with
        cells :=
          world.cells.modify handle.slot fun cell =>
            { cell with entries := change cell.entries } }
  | _ => world

/-- The entries of an object in the order of their names; other values have none. -/
def sortedEntries (world : World) : Value Handle → Entries
  | .object handle =>
      match world.cells[handle.slot]? with
      | none => []
      | some cell => cell.entries.mergeSort fun left right => left.1 ≤ right.1
  | _ => []

end World

end Hostcall.Sandbox
