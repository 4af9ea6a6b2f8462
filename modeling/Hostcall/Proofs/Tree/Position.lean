import Hostcall.Tree.Basic

/-!
# Positions

A node is evaluated in the scope of its position.  The arguments of a call
stand in the position of the call.  What is accessed on a name stands in a
position of its own, and so do the arguments in there.
-/

namespace Hostcall.Node

mutual

/-- The nodes in the position of a node: the node and, of a call, the peers of all its arguments. -/
def peers : Node → List Node
  | .call first chained => .call first chained :: (linkPeers first ++ linksPeers chained)
  | .text value => [.text value]
  | .identifier name property => [.identifier name property]
  | .program body => [.program body]
  | .absent => [.absent]
  | .foreign type => [.foreign type]

def nodesPeers : List Node → List Node
  | [] => []
  | node :: others => peers node ++ nodesPeers others

def linkPeers : Link Node → List Node
  | ⟨_, params⟩ => nodesPeers params

def linksPeers : List (Link Node) → List Node
  | [] => []
  | link :: others => linkPeers link ++ linksPeers others

end

/-- What the node accesses on the name, if it accesses anything there. -/
def accessedOn (name : String) : Node → Option Node
  | .identifier _ .absent => none
  | .identifier own property => if own = name then some property else none
  | _ => none

/-- The nodes that are evaluated in the scope of the program. -/
def rootPositions (body : List Node) : List Node :=
  nodesPeers body

/-- The nodes that are evaluated in what the scope of the program has under the name. -/
def positionsOn (name : String) (body : List Node) : List Node :=
  nodesPeers ((rootPositions body).filterMap (accessedOn name))

theorem accessedOn_eq_some_iff
    {name : String}
    {node property : Node} :
    node.accessedOn name = some property ↔
      node = .identifier name property ∧ property ≠ .absent := by
  fun_cases accessedOn <;> grind

theorem mem_nodesPeers
    {node : Node}
    {nodes : List Node} :
    node ∈ nodesPeers nodes ↔ ∃ other ∈ nodes, node ∈ other.peers := by
  induction nodes with
  | nil => simp [nodesPeers]
  | cons first others inductionHypothesis =>
      simp [nodesPeers, inductionHypothesis]

theorem mem_linksPeers
    {node : Node}
    {links : List (Link Node)} :
    node ∈ linksPeers links ↔ ∃ link ∈ links, ∃ param ∈ link.params, node ∈ param.peers := by
  induction links with
  | nil => simp [linksPeers]
  | cons link others inductionHypothesis =>
      rcases link with ⟨name, params⟩
      simp [linksPeers, linkPeers, mem_nodesPeers, inductionHypothesis]

theorem mem_peers_call
    {node : Node}
    {first : Link Node}
    {chained : List (Link Node)} :
    node ∈ (Node.call first chained).peers ↔
      node = .call first chained ∨
        ∃ link ∈ first :: chained, ∃ param ∈ link.params, node ∈ param.peers := by
  rw [peers, List.mem_cons, ← linksPeers, mem_linksPeers]

theorem exists_mem_peers_call
    {Holds : Node → Prop}
    {first : Link Node}
    {chained : List (Link Node)} :
    (∃ node ∈ (Node.call first chained).peers, Holds node) ↔
      Holds (.call first chained) ∨
        ∃ link ∈ first :: chained, ∃ param ∈ link.params, ∃ node ∈ param.peers, Holds node := by
  simp only [mem_peers_call, or_and_right, exists_or, exists_eq_left]
  grind

end Hostcall.Node
