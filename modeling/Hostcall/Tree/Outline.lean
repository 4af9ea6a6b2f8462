import Hostcall.Text.Quoted
import Hostcall.Tree.Indent
import Hostcall.Tree.Source

/-!
# Outlines

The outline of a tree shows one node per line, a node before its parts and
every part one level deeper.  A chained link is shown as a node below the link
before it, behind that link's arguments.

The entries of a tree are its parts in the order of the lines, each with its
depth and its label; something other than a node has no label.  The first
entry that has no line, for want of space or of a label, leaves the tree
without an outline.
-/

namespace Hostcall

/-- Why a tree has no outline. -/
inductive OutlineError where
  /-- The tree holds something other than a node. -/
  | notANode (failure : NotANode)
  /-- The space before a line cannot be made. -/
  | spaces (failure : Text.SpacesError)
deriving DecidableEq, Repr

/-- What is wrong, in words. -/
def OutlineError.message : OutlineError → String
  | .notANode failure => failure.message
  | .spaces failure => failure.message

/-- A part of a tree in its outline. -/
structure OutlineEntry where
  /-- How many levels the part lies below the root. -/
  depth : Nat
  /-- What the outline shows of the part. -/
  label : Except NotANode String

/-- The line of an entry below a root at a level; the space comes before the label. -/
def OutlineEntry.line (indent : Indent) (level : Int) (entry : OutlineEntry) :
    Except OutlineError String :=
  match indent.pad (level + entry.depth) with
  | .error failure => .error (.spaces failure)
  | .ok pad =>
      match entry.label with
      | .error failure => .error (.notANode failure)
      | .ok label => .ok (pad ++ label)

namespace Node

/-- What the outline shows of a link beside its arguments. -/
def linkLabel (name : Option String) : String :=
  "CallExpression " ++ name.getD "<chained>"

mutual

/-- The entries of a node at a depth. -/
def entries (depth : Nat) : Node → List OutlineEntry
  | .text value => [⟨depth, .ok ("StringLiteral " ++ Text.quoted value)⟩]
  | .identifier name .absent => [⟨depth, .ok ("Identifier " ++ name)⟩]
  | .identifier name property =>
      ⟨depth, .ok ("Identifier " ++ name)⟩ :: entries (depth + 1) property
  | .call first chained => linkEntries depth first ++ linksEntries (depth + 1) chained
  | .program body => ⟨depth, .ok "Program"⟩ :: nodesEntries (depth + 1) body
  | .absent => [⟨depth, .error .ofAbsent⟩]
  | .foreign type => [⟨depth, .error ⟨type⟩⟩]

/-- The entries of some nodes at one depth. -/
def nodesEntries (depth : Nat) : List Node → List OutlineEntry
  | [] => []
  | node :: others => entries depth node ++ nodesEntries depth others

/-- The entries of a link without the links that are chained to it. -/
def linkEntries (depth : Nat) : Link Node → List OutlineEntry
  | ⟨name, params⟩ => ⟨depth, .ok (linkLabel name)⟩ :: nodesEntries (depth + 1) params

/-- The entries of chained links, each one level below the link before it. -/
def linksEntries (depth : Nat) : List (Link Node) → List OutlineEntry
  | [] => []
  | link :: others => linkEntries depth link ++ linksEntries (depth + 1) others

end

/-- The outline of a node at a level, line by line. -/
def outlineLines (indent : Indent) (level : Int) (node : Node) :
    Except OutlineError (List String) :=
  (node.entries 0).mapM (·.line indent level)

/-- The outline of a node at a level. -/
def outline (indent : Indent) (level : Int) (node : Node) : Except OutlineError String :=
  match node.outlineLines indent level with
  | .error failure => .error failure
  | .ok lines => .ok ("\n".intercalate lines)

end Node

end Hostcall
