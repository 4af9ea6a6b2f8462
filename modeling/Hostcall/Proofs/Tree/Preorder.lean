import Hostcall.Tree.Outline
import Mathlib.Data.List.Basic

/-!
# Pre-order

The nodes of a tree stand in an order, each before the nodes below it.  The
links that are chained to a link are a call of their own, which is the last
node below that link.

Both the outline and the source of a tree follow this order.  What either of
them makes of a node depends on the node itself and on the nodes below it, so
one induction over the order serves them both.
-/

namespace Hostcall.Node

/-! ## Nodes below a node -/

/-- What is accessed on a name, if anything is. -/
def accessed : Node → List Node
  | .absent => []
  | property => [property]

/-- The links that are chained to a link, as a call of their own, if there are any. -/
def chainedCall : List (Link Node) → List Node
  | [] => []
  | link :: others => [.call link others]

/-- The nodes directly below a node, in their order. -/
def children : Node → List Node
  | .text _ => []
  | .identifier _ property => accessed property
  | .call first chained => first.params ++ chainedCall chained
  | .program body => body
  | .absent => []
  | .foreign _ => []

@[simp]
theorem mem_accessed
    {child property : Node} :
    child ∈ accessed property ↔ child = property ∧ property ≠ .absent := by
  cases property <;> simp [accessed]

theorem accessed_of_ne
    {property : Node}
    (present : property ≠ .absent) :
    accessed property = [property] := by
  rw [accessed]
  exact present

theorem sizeOf_lt_of_mem_params
    {child : Node}
    {link : Link Node}
    (member : child ∈ link.params) :
    sizeOf child < sizeOf link := by
  have smaller := List.sizeOf_lt_of_mem member
  cases link
  simp only [Link.mk.sizeOf_spec] at smaller ⊢
  omega

theorem sizeOf_lt_of_mem_children
    {child node : Node}
    (member : child ∈ node.children) :
    sizeOf child < sizeOf node := by
  cases node with
  | text value => cases member
  | identifier name property =>
      obtain ⟨rfl, _⟩ := mem_accessed.mp member
      simp only [Node.identifier.sizeOf_spec]
      omega
  | call first chained =>
      rcases List.mem_append.mp member with param | behind
      · have smaller := sizeOf_lt_of_mem_params param
        simp only [Node.call.sizeOf_spec]
        omega
      · cases chained with
        | nil => cases behind
        | cons link others =>
            obtain rfl := List.mem_singleton.mp behind
            rcases first with ⟨name, params⟩
            simp only [Node.call.sizeOf_spec, List.cons.sizeOf_spec, Link.mk.sizeOf_spec]
            omega
  | program body =>
      have smaller : sizeOf child < sizeOf body := List.sizeOf_lt_of_mem member
      simp only [Node.program.sizeOf_spec]
      omega
  | absent => cases member
  | foreign type => cases member

/-! ## The order -/

/-- A node and how many levels it lies below the root. -/
structure Place where
  depth : Nat
  node : Node

/-- A node at a depth and all nodes below it, every node before the nodes below it. -/
def preorder (depth : Nat) (node : Node) : List Place :=
  ⟨depth, node⟩ :: node.children.attach.flatMap fun child => preorder (depth + 1) child.val
termination_by sizeOf node
decreasing_by
  exact sizeOf_lt_of_mem_children child.property

theorem preorder_eq_cons
    (depth : Nat)
    (node : Node) :
    preorder depth node = ⟨depth, node⟩ :: node.children.flatMap (preorder (depth + 1)) := by
  rw [preorder, List.flatMap_subtype (g := preorder (depth + 1)) fun _ _ => rfl,
    List.unattach_attach]

/-- What holds of a node whenever it holds of the nodes below it holds of every node. -/
@[elab_as_elim]
theorem preorder_induction
    {Holds : Nat → Node → Prop}
    (step : ∀ depth node, (∀ child ∈ node.children, Holds (depth + 1) child) → Holds depth node)
    (depth : Nat)
    (node : Node) :
    Holds depth node :=
  preorder.induct Holds
    (fun depth node below => step depth node fun child member => below ⟨child, member⟩) depth node

/-- What stands in the place of a node, if it is something that is no node. -/
def stranger : Node → Option NotANode
  | .absent => some .ofAbsent
  | .foreign type => some ⟨type⟩
  | _ => none

/-- What an outline says of a node itself; of something that is no node it says nothing. -/
def label : Node → String
  | .text value => "StringLiteral " ++ Text.quoted value
  | .identifier name _ => "Identifier " ++ name
  | .call first _ => linkLabel first.name
  | .program _ => "Program"
  | .absent => ""
  | .foreign _ => ""

/-- The entry of a node in an outline. -/
def Place.entry (place : Place) : OutlineEntry :=
  ⟨place.depth,
    match place.node.stranger with
    | some failure => .error failure
    | none => .ok place.node.label⟩

/-! ## The entries of an outline -/

theorem nodesEntries_eq_flatMap
    (depth : Nat)
    (nodes : List Node) :
    nodesEntries depth nodes = nodes.flatMap (entries depth) := by
  induction nodes with
  | nil => rfl
  | cons node others inductionHypothesis =>
      rw [nodesEntries, inductionHypothesis, List.flatMap_cons]

/-- The entries of chained links are those of a call that consists of them. -/
theorem linksEntries_eq_flatMap
    (depth : Nat)
    (links : List (Link Node)) :
    linksEntries depth links = (chainedCall links).flatMap (entries depth) := by
  cases links with
  | nil => rfl
  | cons link others => simp [linksEntries, chainedCall, entries]

theorem entries_eq_cons
    (depth : Nat)
    (node : Node) :
    node.entries depth =
      Place.entry ⟨depth, node⟩ :: node.children.flatMap (entries (depth + 1)) := by
  cases node with
  | text value => rfl
  | identifier name property =>
      cases property <;> simp [entries, children, accessed, Place.entry, stranger, label]
  | call first chained =>
      rcases first with ⟨name, params⟩
      rw [entries, linkEntries, nodesEntries_eq_flatMap, linksEntries_eq_flatMap, children,
        List.flatMap_append]
      rfl
  | program body =>
      rw [entries, nodesEntries_eq_flatMap]
      rfl
  | absent => rfl
  | foreign type => rfl

/-- The entries of a tree are those of its nodes in their order. -/
theorem entries_eq_map_preorder
    (depth : Nat)
    (node : Node) :
    node.entries depth = (node.preorder depth).map Place.entry := by
  induction depth, node using preorder_induction with
  | step depth node inductionHypothesis =>
      rw [entries_eq_cons, preorder_eq_cons, List.map_cons, List.map_flatMap,
        List.flatMap_congr inductionHypothesis]

theorem outlineLines_eq_mapM
    (indent : Indent)
    (level : Int)
    (node : Node) :
    node.outlineLines indent level =
      (node.preorder 0).mapM fun place => place.entry.line indent level := by
  rw [outlineLines, entries_eq_map_preorder, List.mapM_map]
  rfl

end Hostcall.Node
