/-!
# Trees

A program is a list of statements.  A statement is a quoted text, a name with
what is accessed on it, or a call with the calls that are chained to its
result.  Trees also admit nodes that no reader makes: a program inside another
node, the absence of a node, and a value that is no node at all.  Every
operation on trees says what it does with those.
-/

namespace Hostcall

/--
One argument list of a call.  The name says what is called; a link without a
name calls the result of the link before it.
-/
structure Link (Param : Type) where
  name : Option String
  params : List Param

/-- A node of a tree. -/
inductive Node where
  /-- A quoted text. -/
  | text (value : String)
  /-- A name and what is accessed on it; `absent` when nothing is. -/
  | identifier (name : String) (property : Node)
  /-- A call and the links that are chained to it. -/
  | call (first : Link Node) (chained : List (Link Node))
  /-- A list of statements as one node. -/
  | program (body : List Node)
  /-- No node. -/
  | absent
  /-- A value of the named type, which is no node. -/
  | foreign (type : String)

namespace Node

/-- The links of a call from the outermost on; other nodes have none. -/
def links : Node → List (Link Node)
  | .call first chained => first :: chained
  | _ => []

/-! ## Equality -/

mutual

/-- Two nodes are the same. -/
def same : Node → Node → Bool
  | .text left, .text right => left == right
  | .identifier leftName left, .identifier rightName right => leftName == rightName && same left right
  | .call left leftChained, .call right rightChained =>
      sameLink left right && sameLinks leftChained rightChained
  | .program left, .program right => sameNodes left right
  | .absent, .absent => true
  | .foreign left, .foreign right => left == right
  | _, _ => false

/-- Two lists hold the same nodes. -/
def sameNodes : List Node → List Node → Bool
  | [], [] => true
  | left :: lefts, right :: rights => same left right && sameNodes lefts rights
  | _, _ => false

/-- Two links are the same. -/
def sameLink : Link Node → Link Node → Bool
  | ⟨leftName, lefts⟩, ⟨rightName, rights⟩ => leftName == rightName && sameNodes lefts rights

/-- Two lists hold the same links. -/
def sameLinks : List (Link Node) → List (Link Node) → Bool
  | [], [] => true
  | left :: lefts, right :: rights => sameLink left right && sameLinks lefts rights
  | _, _ => false

end

mutual

theorem same_iff :
    ∀ left right : Node, same left right = true ↔ left = right
  | .text _, right => by cases right <;> simp [same]
  | .identifier _ left, right => by
      cases right <;> simp [same]
      rename_i right
      simp [same_iff left right]
  | .call left leftChained, right => by
      cases right <;> simp [same]
      rename_i right rightChained
      simp [sameLink_iff left right, sameLinks_iff leftChained rightChained]
  | .program left, right => by
      cases right <;> simp [same]
      rename_i right
      simp [sameNodes_iff left right]
  | .absent, right => by cases right <;> simp [same]
  | .foreign _, right => by cases right <;> simp [same]

theorem sameNodes_iff :
    ∀ left right : List Node, sameNodes left right = true ↔ left = right
  | [], right => by cases right <;> simp [sameNodes]
  | left :: lefts, right => by
      cases right with
      | nil => simp [sameNodes]
      | cons right rights => simp [sameNodes, same_iff left right, sameNodes_iff lefts rights]

theorem sameLink_iff :
    ∀ left right : Link Node, sameLink left right = true ↔ left = right
  | ⟨_, lefts⟩, ⟨_, rights⟩ => by simp [sameLink, sameNodes_iff lefts rights]

theorem sameLinks_iff :
    ∀ left right : List (Link Node), sameLinks left right = true ↔ left = right
  | [], right => by cases right <;> simp [sameLinks]
  | left :: lefts, right => by
      cases right with
      | nil => simp [sameLinks]
      | cons right rights =>
          simp [sameLinks, sameLink_iff left right, sameLinks_iff lefts rights]

end

instance : DecidableEq Node :=
  fun left right => decidable_of_iff (same left right = true) (same_iff left right)

end Node

end Hostcall
