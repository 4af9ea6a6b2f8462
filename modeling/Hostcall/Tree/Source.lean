import Hostcall.Tree.Basic

/-!
# Canonical source

The canonical source of a tree has one space between statements and between
arguments, a dot for every access, and nothing else between tokens.  The name
of a chained link is not written, and neither is the name of a call without
one.  A tree that holds something other than a node has no source.
-/

namespace Hostcall

/-- Something that is no node, by the name of its type. -/
structure NotANode where
  type : String
deriving DecidableEq, Repr

namespace NotANode

/-- The absence of a node. -/
def ofAbsent : NotANode :=
  ⟨"NoneType"⟩

/-- What is wrong, in words. -/
def message (failure : NotANode) : String :=
  "Cannot format " ++ failure.type

end NotANode

namespace Node

mutual

/-- The source of a node. -/
def source : Node → Except NotANode String
  | .text value => .ok ("\"" ++ value ++ "\"")
  | .identifier name .absent => .ok name
  | .identifier name property =>
      match source property with
      | .error failure => .error failure
      | .ok accessed => .ok (name ++ "." ++ accessed)
  | .call first chained =>
      match linkSource first with
      | .error failure => .error failure
      | .ok arguments =>
          match linksSource chained with
          | .error failure => .error failure
          | .ok others => .ok (first.name.getD "" ++ arguments ++ others)
  | .program body =>
      match sources body with
      | .error failure => .error failure
      | .ok statements => .ok (" ".intercalate statements)
  | .absent => .error .ofAbsent
  | .foreign type => .error ⟨type⟩

/-- The sources of some nodes. -/
def sources : List Node → Except NotANode (List String)
  | [] => .ok []
  | node :: others =>
      match source node with
      | .error failure => .error failure
      | .ok first =>
          match sources others with
          | .error failure => .error failure
          | .ok rest => .ok (first :: rest)

/-- The source of an argument list. -/
def linkSource : Link Node → Except NotANode String
  | ⟨_, params⟩ =>
      match sources params with
      | .error failure => .error failure
      | .ok arguments => .ok ("(" ++ " ".intercalate arguments ++ ")")

/-- The source of the argument lists of some links. -/
def linksSource : List (Link Node) → Except NotANode String
  | [] => .ok ""
  | link :: others =>
      match linkSource link with
      | .error failure => .error failure
      | .ok first =>
          match linksSource others with
          | .error failure => .error failure
          | .ok rest => .ok (first ++ rest)

end

/-- The source of a list of statements. -/
def bodySource (body : List Node) : Except NotANode String :=
  source (.program body)

end Node

end Hostcall
