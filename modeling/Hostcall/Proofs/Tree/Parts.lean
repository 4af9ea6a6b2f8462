import Hostcall.Proofs.Tree.MadeOf

/-!
# Parts of trees

The parts of a tree are all nodes in it: the node itself, what is accessed on
its name, and the arguments of its links, each with all its parts.

In every part that was read from tokens, whichever tokens they were, a call has
a name at its first link and at no other one.
-/

namespace Hostcall.Node

mutual

/-- The node and all nodes inside it; where a node is absent there is no part. -/
def parts : Node → List Node
  | .text value => [.text value]
  | .identifier name property => .identifier name property :: parts property
  | .call first chained => .call first chained :: (linkParts first ++ linksParts chained)
  | .program body => .program body :: nodesParts body
  | .absent => []
  | .foreign type => [.foreign type]

def nodesParts : List Node → List Node
  | [] => []
  | node :: others => parts node ++ nodesParts others

def linkParts : Link Node → List Node
  | ⟨_, params⟩ => nodesParts params

def linksParts : List (Link Node) → List Node
  | [] => []
  | link :: others => linkParts link ++ linksParts others

end

theorem mem_nodesParts
    {part : Node}
    {nodes : List Node} :
    part ∈ nodesParts nodes ↔ ∃ node ∈ nodes, part ∈ node.parts := by
  induction nodes with
  | nil => simp [nodesParts]
  | cons node others inductionHypothesis => simp [nodesParts, inductionHypothesis]

theorem mem_linksParts
    {part : Node}
    {links : List (Link Node)} :
    part ∈ linksParts links ↔ ∃ link ∈ links, part ∈ nodesParts link.params := by
  induction links with
  | nil => simp [linksParts]
  | cons link others inductionHypothesis =>
      rcases link with ⟨name, params⟩
      simp [linksParts, linkParts, inductionHypothesis]

/-! ## The names of links -/

/-- A call has a name at its first link, and the links behind it have none. -/
def NamedFirst : Node → Prop
  | .call first chained => (∃ name, first.name = some name) ∧ ∀ link ∈ chained, link.name = none
  | _ => True

theorem MadeOf.namedFirst
    {Allowed : Token → Prop}
    {node : Node}
    (made : MadeOf Allowed node) :
    ∀ part ∈ node.parts, NamedFirst part := by
  induction made with
  | text _ => simp [parts, NamedFirst]
  | identifier _ => simp [parts, NamedFirst]
  | access _ _ accessed => exact List.forall_mem_cons.mpr ⟨trivial, accessed⟩
  | @call name params chained _ _ unnamed _ first others =>
      rw [parts]
      refine List.forall_mem_cons.mpr ⟨⟨⟨name, rfl⟩, unnamed⟩, List.forall_mem_append.mpr ⟨?_, ?_⟩⟩
      · intro part member
        rcases mem_nodesParts.mp member with ⟨param, listed, inside⟩
        exact first param listed part inside
      · intro part member
        rcases mem_linksParts.mp member with ⟨link, listed, among⟩
        rcases mem_nodesParts.mp among with ⟨param, own, inside⟩
        exact others link listed param own part inside

/-- Of any tokens that can be read, the calls are named at their first link only. -/
theorem namedFirst_of_parse
    {tokens : List Token}
    {body : List Node}
    (parsed : parse tokens = .ok body) :
    ∀ part ∈ nodesParts body, NamedFirst part := by
  intro part member
  rcases mem_nodesParts.mp member with ⟨statement, listed, inside⟩
  have made : ∀ node ∈ body, MadeOf (fun _ => True) node := madeOf_of_parse parsed (by simp)
  exact (made statement listed).namedFirst part inside

end Hostcall.Node
