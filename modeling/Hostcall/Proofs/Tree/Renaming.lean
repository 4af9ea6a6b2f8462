import Hostcall.Proofs.Tree.Position
import Hostcall.Proofs.Tree.Strangers

/-!
# Renamed trees

A tree may be given other names and strings.  The result has the same shape:
its nodes stand in the same order and at the same depths, each in the same
position, and what was no node is none still.  So an outline of it fails where
an outline of the first tree does.
-/

namespace Hostcall.Node

variable {names strings : String → String}

/-! ## Other names and strings -/

mutual

/-- The same tree with other names and strings. -/
def renamed (names strings : String → String) : Node → Node
  | .text value => .text (strings value)
  | .identifier name property => .identifier (names name) (renamed names strings property)
  | .call first chained =>
      .call (renamedLink names strings first) (renamedLinks names strings chained)
  | .program body => .program (renamedAll names strings body)
  | .absent => .absent
  | .foreign type => .foreign type

def renamedAll (names strings : String → String) : List Node → List Node
  | [] => []
  | node :: others => renamed names strings node :: renamedAll names strings others

def renamedLink (names strings : String → String) : Link Node → Link Node
  | ⟨name, params⟩ => ⟨name.map names, renamedAll names strings params⟩

def renamedLinks (names strings : String → String) : List (Link Node) → List (Link Node)
  | [] => []
  | link :: others => renamedLink names strings link :: renamedLinks names strings others

end

@[simp]
theorem renamedAll_eq_map
    (nodes : List Node) :
    renamedAll names strings nodes = nodes.map (renamed names strings) := by
  induction nodes with
  | nil => rfl
  | cons node others inductionHypothesis =>
      rw [renamedAll, inductionHypothesis, List.map_cons]

@[simp]
theorem renamedLinks_eq_map
    (links : List (Link Node)) :
    renamedLinks names strings links = links.map (renamedLink names strings) := by
  induction links with
  | nil => rfl
  | cons link others inductionHypothesis =>
      rw [renamedLinks, inductionHypothesis, List.map_cons]

theorem renamedLink_eq
    (link : Link Node) :
    renamedLink names strings link =
      ⟨link.name.map names, link.params.map (renamed names strings)⟩ := by
  rw [renamedLink, renamedAll_eq_map]

/-! ## The order of nodes -/

theorem accessed_renamed
    (property : Node) :
    accessed (property.renamed names strings) =
      (accessed property).map (renamed names strings) := by
  cases property <;> rfl

theorem chainedCall_renamed
    (links : List (Link Node)) :
    chainedCall (links.map (renamedLink names strings)) =
      (chainedCall links).map (renamed names strings) := by
  cases links with
  | nil => rfl
  | cons link others => simp [chainedCall, renamed]

theorem children_renamed
    (node : Node) :
    (node.renamed names strings).children = node.children.map (renamed names strings) := by
  cases node with
  | text value => rfl
  | identifier name property => exact accessed_renamed property
  | call first chained =>
      simp [renamed, children, renamedLink_eq, chainedCall_renamed]
  | program body => exact renamedAll_eq_map body
  | absent => rfl
  | foreign type => rfl

theorem stranger_renamed
    (node : Node) :
    (node.renamed names strings).stranger = node.stranger := by
  cases node <;> rfl

theorem preorder_renamed
    (depth : Nat)
    (node : Node) :
    (node.renamed names strings).preorder depth =
      (node.preorder depth).map fun place => ⟨place.depth, place.node.renamed names strings⟩ := by
  induction depth, node using preorder_induction with
  | step depth node inductionHypothesis =>
      rw [preorder_eq_cons, preorder_eq_cons, children_renamed, List.map_cons, List.map_flatMap,
        List.flatMap_map, List.flatMap_congr inductionHypothesis]

/-- Other names and strings do not keep an outline from being made, and do not help it. -/
theorem failure?_outline_renamed
    (indent : Indent)
    (level : Int)
    (node : Node) :
    failure? ((node.renamed names strings).outline indent level) =
      failure? (node.outline indent level) := by
  rw [failure?_outline, failure?_outline, preorder_renamed, List.findSome?_map]
  apply findSome?_congr
  intro place _
  rw [Function.comp_apply, failure?_line_entry, failure?_line_entry, stranger_renamed]

/-! ## The positions of nodes -/

mutual

theorem peers_renamed :
    ∀ node : Node, (node.renamed names strings).peers = node.peers.map (renamed names strings)
  | .text _ => rfl
  | .identifier _ _ => rfl
  | .call first chained => by
      rw [renamed, peers, peers, linkPeers_renamed first, linksPeers_renamed chained, List.map_cons,
        List.map_append, renamed]
  | .program _ => rfl
  | .absent => rfl
  | .foreign _ => rfl

theorem nodesPeers_renamed :
    ∀ nodes : List Node,
      nodesPeers (renamedAll names strings nodes) = (nodesPeers nodes).map (renamed names strings)
  | [] => rfl
  | node :: others => by
      rw [renamedAll, nodesPeers, nodesPeers, peers_renamed node, nodesPeers_renamed others,
        List.map_append]

theorem linkPeers_renamed :
    ∀ link : Link Node,
      linkPeers (renamedLink names strings link) = (linkPeers link).map (renamed names strings)
  | ⟨_, params⟩ => nodesPeers_renamed params

theorem linksPeers_renamed :
    ∀ links : List (Link Node),
      linksPeers (renamedLinks names strings links) = (linksPeers links).map (renamed names strings)
  | [] => rfl
  | link :: others => by
      rw [renamedLinks, linksPeers, linksPeers, linkPeers_renamed link, linksPeers_renamed others,
        List.map_append]

end

/-- What is accessed on a name is accessed on it still, if names are kept. -/
theorem accessedOn_renamed
    (name : String)
    (node : Node) :
    (node.renamed id strings).accessedOn name =
      (node.accessedOn name).map (renamed id strings) := by
  cases node with
  | identifier own property =>
      cases property <;> simp [renamed, accessedOn]
  | text | call | program | absent | foreign => rfl

/-- The same nodes meet what the scope has under a name, if names are kept. -/
theorem positionsOn_renamed
    (name : String)
    (body : List Node) :
    positionsOn name (body.map (renamed id strings)) =
      (positionsOn name body).map (renamed id strings) := by
  have accessed : accessedOn name ∘ renamed id strings =
      fun node => (accessedOn name node).map (renamed id strings) :=
    funext (accessedOn_renamed name)
  rw [positionsOn, rootPositions, ← renamedAll_eq_map, nodesPeers_renamed, List.filterMap_map,
    accessed, ← List.map_filterMap, ← renamedAll_eq_map, nodesPeers_renamed]
  rfl

end Hostcall.Node
