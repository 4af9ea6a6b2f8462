import Hostcall.Proofs.Tree.Preorder

/-!
# Strangers

A tree may hold something that is no node.  Its source and its outline are
written by different ways through the tree, but both fail for such a stranger,
and both for the first one in pre-order.  Apart from that an outline fails only
for want of space before one of its lines.
-/

namespace Hostcall

/-! ## What fails first -/

/-- The failure of an outcome, if it is one. -/
def failure? {Failure Result : Type} : Except Failure Result → Option Failure
  | .error failure => some failure
  | .ok _ => none

variable {Failure Item Result : Type}

@[simp]
theorem failure?_error
    (failure : Failure) :
    failure? (.error failure : Except Failure Result) = some failure :=
  rfl

@[simp]
theorem failure?_ok
    (result : Result) :
    failure? (.ok result : Except Failure Result) = none :=
  rfl

theorem failure?_eq_some_iff
    {outcome : Except Failure Result}
    {failure : Failure} :
    failure? outcome = some failure ↔ outcome = .error failure := by
  cases outcome <;> simp

/-- Outcomes one after another fail with the first of them that fails. -/
theorem failure?_mapM
    (outcome : Item → Except Failure Result)
    (items : List Item) :
    failure? (items.mapM outcome) = items.findSome? fun item => failure? (outcome item) := by
  induction items with
  | nil => rfl
  | cons item others inductionHypothesis =>
      rw [List.mapM_cons, List.findSome?_cons, ← inductionHypothesis]
      cases outcome item with
      | error failure => rfl
      | ok result =>
          cases others.mapM outcome with
          | error failure => rfl
          | ok results => rfl

/-- Outcomes one after another have one result after another. -/
theorem mapM_eq_ok
    {outcome : Item → Except Failure Result}
    {result : Item → Result}
    (only : ∀ item found, outcome item = .ok found → found = result item)
    {items : List Item}
    {results : List Result}
    (all : items.mapM outcome = .ok results) :
    results = items.map result := by
  induction items generalizing results with
  | nil =>
      cases all
      rfl
  | cons item others inductionHypothesis =>
      rw [List.mapM_cons] at all
      cases own : outcome item with
      | error failure =>
          rw [own] at all
          cases all
      | ok found =>
          cases rest : others.mapM outcome with
          | error failure =>
              rw [own, rest] at all
              cases all
          | ok further =>
              rw [own, rest] at all
              cases all
              rw [List.map_cons, ← only item found own, ← inductionHypothesis rest]

theorem findSome?_cons_eq_or
    (found : Item → Option Result)
    (item : Item)
    (others : List Item) :
    (item :: others).findSome? found = (found item).or (others.findSome? found) := by
  rw [List.findSome?_cons]
  cases found item <;> rfl

theorem findSome?_flatMap
    {Other : Type}
    (found : Other → Option Result)
    (behind : Item → List Other)
    (items : List Item) :
    (items.flatMap behind).findSome? found =
      items.findSome? fun item => (behind item).findSome? found := by
  induction items with
  | nil => rfl
  | cons item others inductionHypothesis =>
      rw [List.flatMap_cons, List.findSome?_append, inductionHypothesis, findSome?_cons_eq_or]

theorem findSome?_congr
    {found other : Item → Option Result}
    {items : List Item}
    (same : ∀ item ∈ items, found item = other item) :
    items.findSome? found = items.findSome? other := by
  have results := congrArg (List.findSome? id) (List.map_congr_left same)
  simpa only [List.findSome?_map, Function.id_comp] using results

namespace Node

/-- The first thing in pre-order that is no node. -/
def firstStranger (node : Node) : Option NotANode :=
  (node.preorder 0).findSome? (·.node.stranger)

/-! ## Sources -/

theorem failure?_sources
    (nodes : List Node) :
    failure? (sources nodes) = nodes.findSome? fun node => failure? node.source := by
  induction nodes with
  | nil => rfl
  | cons node others inductionHypothesis =>
      rw [sources, List.findSome?_cons, ← inductionHypothesis]
      cases source node with
      | error failure => rfl
      | ok first =>
          cases sources others with
          | error failure => rfl
          | ok rest => rfl

theorem failure?_linkSource
    (link : Link Node) :
    failure? (linkSource link) = link.params.findSome? fun param => failure? param.source := by
  rcases link with ⟨name, params⟩
  rw [← failure?_sources, linkSource]
  cases sources params with
  | error failure => rfl
  | ok arguments => rfl

theorem failure?_source_call
    (first : Link Node)
    (chained : List (Link Node)) :
    failure? (source (.call first chained)) =
      (failure? (linkSource first)).or (failure? (linksSource chained)) := by
  rw [source]
  cases linkSource first with
  | error failure => rfl
  | ok arguments =>
      cases linksSource chained with
      | error failure => rfl
      | ok others => rfl

/-- Chained links fail like a call that consists of them. -/
theorem failure?_linksSource
    (links : List (Link Node)) :
    failure? (linksSource links) =
      (chainedCall links).findSome? fun node => failure? node.source := by
  cases links with
  | nil => rfl
  | cons link others =>
      rw [chainedCall, List.findSome?_singleton, failure?_source_call, linksSource]
      cases linkSource link with
      | error failure => rfl
      | ok first =>
          cases linksSource others with
          | error failure => rfl
          | ok rest => rfl

theorem failure?_source_identifier
    (name : String)
    (property : Node) :
    failure? (source (.identifier name property)) =
      (accessed property).findSome? fun node => failure? node.source := by
  by_cases absent : property = .absent
  · subst absent
    rfl
  · rw [accessed_of_ne absent, List.findSome?_singleton, source]
    · cases source property with
      | error failure => rfl
      | ok text => rfl
    · exact absent

/-- A node fails to have a source for itself or for the first node below it that fails. -/
theorem failure?_source_eq_or
    (node : Node) :
    failure? node.source =
      node.stranger.or (node.children.findSome? fun child => failure? child.source) := by
  cases node with
  | text value => rfl
  | identifier name property => exact failure?_source_identifier name property
  | call first chained =>
      rw [failure?_source_call, failure?_linkSource, failure?_linksSource, children,
        List.findSome?_append]
      rfl
  | program body =>
      rw [children, ← failure?_sources, source]
      cases sources body with
      | error failure => rfl
      | ok statements => rfl
  | absent => rfl
  | foreign type => rfl

theorem failure?_source_eq_findSome?
    (depth : Nat)
    (node : Node) :
    failure? node.source = (node.preorder depth).findSome? (·.node.stranger) := by
  induction depth, node using preorder_induction with
  | step depth node inductionHypothesis =>
      rw [failure?_source_eq_or, preorder_eq_cons, findSome?_cons_eq_or, findSome?_flatMap,
        findSome?_congr inductionHypothesis]

/-- A tree fails to have a source for its first stranger. -/
theorem source_eq_error_iff
    {node : Node}
    {stranger : NotANode} :
    node.source = .error stranger ↔ node.firstStranger = some stranger := by
  rw [← failure?_eq_some_iff, failure?_source_eq_findSome? 0, firstStranger]

/-! ## Outlines -/

/-- A line fails for want of the space before it, or else for a stranger. -/
theorem failure?_line_entry
    (indent : Indent)
    (level : Int)
    (place : Place) :
    failure? (place.entry.line indent level) =
      ((failure? (indent.pad (level + place.depth))).map .spaces).or
        (place.node.stranger.map .notANode) := by
  rw [OutlineEntry.line, Place.entry]
  cases indent.pad (level + place.depth) with
  | error shortage => rfl
  | ok pad => cases place.node.stranger <;> rfl

theorem failure?_outline
    (indent : Indent)
    (level : Int)
    (node : Node) :
    failure? (node.outline indent level) =
      (node.preorder 0).findSome? fun place => failure? (place.entry.line indent level) := by
  have lines : failure? (node.outline indent level) = failure? (node.outlineLines indent level) := by
    rw [outline]
    cases node.outlineLines indent level <;> rfl
  rw [lines, outlineLines_eq_mapM, failure?_mapM]

/-- Unless they fail for want of space, lines fail for the first stranger. -/
theorem findSome?_line_entry
    (indent : Indent)
    (level : Int)
    (places : List Place) :
    (places.findSome? fun place => failure? (place.entry.line indent level)) =
        (places.findSome? (·.node.stranger)).map .notANode ∨
      ∃ place ∈ places, ∃ shortage, indent.pad (level + place.depth) = .error shortage ∧
        (places.findSome? fun place => failure? (place.entry.line indent level)) =
          some (.spaces shortage) := by
  induction places with
  | nil => exact Or.inl rfl
  | cons place others inductionHypothesis =>
      simp only [findSome?_cons_eq_or, failure?_line_entry, List.exists_mem_cons_iff]
        at inductionHypothesis ⊢
      cases padded : indent.pad (level + place.depth) with
      | error shortage => exact Or.inr (Or.inl ⟨shortage, rfl, rfl⟩)
      | ok pad =>
          cases place.node.stranger with
          | some failure => exact Or.inl rfl
          | none =>
              rcases inductionHypothesis with strangers | short
              · exact Or.inl strangers
              · exact Or.inr (Or.inr short)

/-- An outline fails for the first stranger of the tree, unless for want of space. -/
theorem outline_fails
    (indent : Indent)
    (level : Int)
    (node : Node) :
    failure? (node.outline indent level) = node.firstStranger.map .notANode ∨
      ∃ place ∈ node.preorder 0, ∃ shortage, indent.pad (level + place.depth) = .error shortage ∧
        node.outline indent level = .error (.spaces shortage) := by
  rw [failure?_outline]
  rcases findSome?_line_entry indent level (node.preorder 0) with strangers | short
  · exact Or.inl strangers
  · obtain ⟨place, member, shortage, padded, found⟩ := short
    rw [← failure?_outline, failure?_eq_some_iff] at found
    exact Or.inr ⟨place, member, shortage, padded, found⟩

/--
A tree has no source exactly if it holds a stranger, and the failure names the
first one in pre-order.  Unless the space before some line cannot be made, the
tree has no outline exactly if it has no source, and for the same reason.
-/
theorem outline_fails_like_source
    (node : Node)
    (indent : Indent)
    (level : Int) :
    (∀ stranger, node.source = .error stranger ↔ node.firstStranger = some stranger) ∧
      ((∀ failure, node.outline indent level = .error failure ↔
          ∃ stranger, node.source = .error stranger ∧ failure = .notANode stranger ∧
            failure.message = "Cannot format " ++ stranger.type) ∨
        ∃ place ∈ node.preorder 0, ∃ shortage,
          indent.pad (level + place.depth) = .error shortage ∧
            node.outline indent level = .error (.spaces shortage)) := by
  refine ⟨fun stranger => source_eq_error_iff, ?_⟩
  rcases outline_fails indent level node with strangers | short
  · refine Or.inl fun failure => ?_
    rw [← failure?_eq_some_iff, strangers, Option.map_eq_some_iff]
    constructor
    · rintro ⟨stranger, first, rfl⟩
      exact ⟨stranger, source_eq_error_iff.mpr first, rfl, rfl⟩
    · rintro ⟨stranger, failed, rfl, _⟩
      exact ⟨stranger, source_eq_error_iff.mp failed, rfl⟩
  · exact Or.inr short

/-- At a level that is no signed word the outline fails before its first line. -/
theorem outline_eq_error_of_wordLimit_le
    {level : Int}
    (beyond : (Text.wordLimit : Int) ≤ level)
    (indent : Indent)
    (node : Node) :
    node.outline indent level = .error (.spaces .count) := by
  have counted : Text.runLength indent.memory indent.width level = .error .count :=
    if_pos (Or.inr beyond)
  rw [← failure?_eq_some_iff, failure?_outline, preorder_eq_cons, findSome?_cons_eq_or,
    failure?_line_entry]
  simp [Indent.pad, counted, Except.map]

/-- A memory that does not hold thirty-two gibibytes. -/
def ordinaryMemory : Text.Memory :=
  ⟨Nat.pow 2 35, by decide⟩

/-- So a text that has a source may go without an outline. -/
theorem outline_fails_alone :
    ¬((∃ stranger, (Node.text "x").source = .error stranger) ↔
      ∃ failure, (Node.text "x").outline ⟨ordinaryMemory, 0, by decide⟩ 100000000000000000000 =
        .error failure) := by
  intro same
  have failed := @outline_eq_error_of_wordLimit_le 100000000000000000000 (by decide)
  obtain ⟨stranger, noSource⟩ :=
    same.mpr ⟨_, failed ⟨ordinaryMemory, 0, by decide⟩ (.text "x")⟩
  cases noSource

end Node

end Hostcall
