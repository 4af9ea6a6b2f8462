import Hostcall.Proofs.Text.Quoted
import Hostcall.Proofs.Tree.Strangers
import Hostcall.Proofs.Tree.WellFormed

/-!
# Outlines of programs

The outline of a program has one line for every node, in pre-order: the space
of its depth and then its label.  No label begins with a space, and none has a
line feed in it unless a name has, so depths and labels can be read off the
lines.

The depths say where the nodes below a node end.  With the label these nodes
make up the node again: they are the arguments of a call, behind which only a
chained link goes without a name.  So programs with the same outline are the
same, unless a name looks like the want of one.  In the names of a source text
there is neither a line feed nor a likeness of that kind.
-/

namespace Hostcall.Node

variable {Allowed : Token → Prop}

/-! ## Nodes that outlines of programs show -/

/-- A statement made of allowed tokens, or the links that are chained to a link in it. -/
inductive Shown (Allowed : Token → Prop) : Node → Prop where
  | statement {node}
      (made : MadeOf Allowed node) :
      Shown Allowed node
  | chained {params} {links : List (Link Node)}
      (first : ∀ param ∈ params, MadeOf Allowed param)
      (unnamed : ∀ link ∈ links, link.name = none)
      (others : ∀ link ∈ links, ∀ param ∈ link.params, MadeOf Allowed param) :
      Shown Allowed (.call ⟨none, params⟩ links)

theorem shown_children_call
    {name : Option String}
    {params : List Node}
    {links : List (Link Node)}
    (first : ∀ param ∈ params, MadeOf Allowed param)
    (unnamed : ∀ link ∈ links, link.name = none)
    (others : ∀ link ∈ links, ∀ param ∈ link.params, MadeOf Allowed param) :
    ∀ child ∈ (Node.call ⟨name, params⟩ links).children, Shown Allowed child := by
  refine List.forall_mem_append.mpr ⟨fun param member => .statement (first param member), ?_⟩
  cases links with
  | nil => simp [chainedCall]
  | cons link links =>
      rcases link with ⟨name, second⟩
      rcases List.forall_mem_cons.mp unnamed with ⟨noName, behind⟩
      rcases List.forall_mem_cons.mp others with ⟨own, further⟩
      obtain rfl : name = none := noName
      simpa [chainedCall] using Shown.chained own behind further

theorem Shown.children
    {node : Node}
    (shown : Shown Allowed node) :
    ∀ child ∈ node.children, Shown Allowed child := by
  cases shown with
  | statement made =>
      cases made with
      | text _ => simp [Node.children]
      | identifier _ => simp [Node.children, accessed]
      | access _ property =>
          intro child member
          obtain ⟨rfl, _⟩ := mem_accessed.mp member
          exact .statement property
      | call _ first unnamed others => exact shown_children_call first unnamed others
  | chained first unnamed others => exact shown_children_call first unnamed others

theorem Shown.preorder
    {node : Node}
    (shown : Shown Allowed node)
    (depth : Nat) :
    ∀ place ∈ node.preorder depth, Shown Allowed place.node := by
  induction depth, node using preorder_induction with
  | step depth node inductionHypothesis =>
      rw [preorder_eq_cons]
      refine List.forall_mem_cons.mpr ⟨shown, List.forall_mem_flatMap.mpr ?_⟩
      exact fun child member => inductionHypothesis child member (shown.children child member)

theorem Shown.stranger
    {node : Node}
    (shown : Shown Allowed node) :
    node.stranger = none := by
  cases shown with
  | statement made => cases made <;> rfl
  | chained _ _ _ => rfl

/-! ## Labels -/

theorem Shown.lineFeed_notMem_label
    {node : Node}
    (oneLine : ∀ name, Allowed ⟨.identifier, name⟩ → '\n' ∉ name.toList)
    (shown : Shown Allowed node) :
    '\n' ∉ node.label.toList := by
  cases shown with
  | statement made =>
      cases made with
      | text _ => simp [label, Text.lineFeed_notMem_quoted]
      | identifier allowed => simp [label, oneLine _ allowed]
      | access allowed _ => simp [label, oneLine _ allowed]
      | call allowed _ _ _ => simp [label, linkLabel, oneLine _ allowed]
  | chained _ _ _ => simp [label, linkLabel]

theorem head?_label_ne_space
    (node : Node) :
    node.label.toList.head? ≠ some ' ' := by
  cases node <;> simp [label, linkLabel]

/-- The names of a source text keep to their lines, and none looks like the want of a name. -/
theorem names_of_tokenize
    {source : String}
    {tokens : List Token}
    (tokenized : Token.tokenize source = .ok tokens) :
    (∀ name, ⟨.identifier, name⟩ ∈ tokens → '\n' ∉ name.toList) ∧
      (⟨.identifier, "<chained>"⟩ : Token) ∉ tokens := by
  have isName {name : String} (member : ⟨.identifier, name⟩ ∈ tokens) : Token.IsName name :=
    Token.isProper_of_tokenize tokenized ⟨.identifier, name⟩ member
  constructor
  · intro name member inside
    exact absurd ((isName member).2 '\n' inside) (by decide)
  · intro member
    exact absurd (isName member) (by decide)

/-! ## Lines -/

/-- The line of a node in an outline whose root stands at a level. -/
def Place.line (indent : Indent) (level : Nat) (place : Place) : String :=
  Text.spaces (indent.width * (level + place.depth)) ++ place.node.label

theorem toList_line
    (indent : Indent)
    (level : Nat)
    (place : Place) :
    (place.line indent level).toList =
      List.replicate (indent.width * (level + place.depth)) ' ' ++ place.node.label.toList := by
  simp [Place.line, Text.spaces]

theorem pad_eq_ok
    {indent : Indent}
    {level : Int}
    {pad : String}
    (padded : indent.pad level = .ok pad) :
    pad = Text.spaces (indent.width * level.toNat) := by
  rw [Indent.pad] at padded
  cases made : Text.runLength indent.memory indent.width level with
  | error shortage =>
      rw [made] at padded
      cases padded
  | ok length =>
      rw [made] at padded
      cases padded
      rw [(Text.runLength_eq_ok_iff.mp made).2.2.1]

/-- If the space of a level cannot be made, then it is too long. -/
theorem limit_le_of_pad_eq_error
    {indent : Indent}
    (indented : 0 < indent.width)
    {level : Nat}
    {shortage : Text.SpacesError}
    (failed : indent.pad level = .error shortage) :
    min indent.memory.limit Text.wordLimit ≤ indent.width * level := by
  by_contra holds
  have fits : indent.width * level < min indent.memory.limit Text.wordLimit :=
    Nat.lt_of_not_le holds
  have counted : level ≤ indent.width * level := Nat.le_mul_of_pos_left level indented
  have made : Text.runLength indent.memory indent.width level = .ok (indent.width * level) :=
    Text.runLength_eq_ok_iff.mpr ⟨by omega, by omega, by simp, fits⟩
  rw [Indent.pad, made] at failed
  cases failed

theorem line_entry_eq_ok
    {indent : Indent}
    {level : Nat}
    {place : Place}
    {line : String}
    (found : place.entry.line indent level = .ok line) :
    line = place.line indent level := by
  rw [OutlineEntry.line, Place.entry] at found
  cases padded : indent.pad (level + place.depth) with
  | error shortage =>
      rw [padded] at found
      cases found
  | ok pad =>
      rw [padded] at found
      cases stranger : place.node.stranger with
      | some failure =>
          rw [stranger] at found
          cases found
      | none =>
          rw [stranger] at found
          cases found
          rw [pad_eq_ok padded, Place.line]
          rfl

/-- An outline puts together the lines of the nodes in pre-order. -/
theorem outline_eq_ok
    {indent : Indent}
    {level : Nat}
    {node : Node}
    {text : String}
    (outlined : node.outline indent level = .ok text) :
    text = "\n".intercalate ((node.preorder 0).map (Place.line indent level)) := by
  rw [outline, outlineLines_eq_mapM] at outlined
  cases all : (node.preorder 0).mapM (fun place => place.entry.line indent (level : Int)) with
  | error failure =>
      rw [all] at outlined
      cases outlined
  | ok lines =>
      rw [all] at outlined
      cases outlined
      rw [mapM_eq_ok (fun _ _ => line_entry_eq_ok) all]

/-! ## Reading lines -/

/-- The depth and the label that a line shows. -/
def heading (indent : Indent) (level : Nat) (line : String) : Nat × String :=
  ((line.toList.takeWhile (· == ' ')).length / indent.width - level,
    String.ofList (line.toList.dropWhile (· == ' ')))

theorem heading_line
    {indent : Indent}
    (indented : 0 < indent.width)
    (level : Nat)
    (place : Place) :
    heading indent level (place.line indent level) = (place.depth, place.node.label) := by
  have spaces : ∀ character ∈ List.replicate (indent.width * (level + place.depth)) ' ',
      (character == ' ') = true := by
    simp
  have ends := head?_label_ne_space place.node
  have noneTaken : place.node.label.toList.takeWhile (· == ' ') = [] ∧
      place.node.label.toList.dropWhile (· == ' ') = place.node.label.toList := by
    cases characters : place.node.label.toList with
    | nil => simp
    | cons first others =>
        rw [characters] at ends
        simp_all
  rw [heading, toList_line, List.takeWhile_append_of_pos spaces,
    List.dropWhile_append_of_pos spaces, noneTaken.1, noneTaken.2, List.append_nil,
    List.length_replicate, Nat.mul_div_cancel_left _ indented, Nat.add_sub_cancel_left,
    String.ofList_toList]

/-! ## A node from its label and the nodes below it -/

theorem accessed_injective : Function.Injective accessed := by
  intro left right same
  cases left <;> cases right <;> simp_all [accessed]

theorem chainedCall_injective : Function.Injective chainedCall := by
  intro left right same
  cases left <;> cases right <;> simp_all [chainedCall]

/-- Lists divide in one way into a front of one kind and a rest that has none of it. -/
theorem append_inj_of_kind
    {Item : Type}
    {Kind : Item → Prop}
    {front front' rest rest' : List Item}
    (inside : ∀ item ∈ front, Kind item)
    (inside' : ∀ item ∈ front', Kind item)
    (behind : ∀ item ∈ rest, ¬Kind item)
    (behind' : ∀ item ∈ rest', ¬Kind item)
    (same : front ++ rest = front' ++ rest') :
    front = front' ∧ rest = rest' := by
  rcases List.append_eq_append_iff.mp same with ⟨between, rfl, rfl⟩ | ⟨between, rfl, rfl⟩
  · cases between with
    | nil => simp
    | cons item between => exact absurd (inside' item (by simp)) (behind item (by simp))
  · cases between with
    | nil => simp
    | cons item between => exact absurd (inside item (by simp)) (behind' item (by simp))

/-- What is known of a call that an outline shows. -/
theorem Shown.call_parts
    {first : Link Node}
    {links : List (Link Node)}
    (shown : Shown Allowed (.call first links)) :
    (∀ name ∈ first.name, Allowed ⟨.identifier, name⟩) ∧
      (∀ param ∈ first.params, MadeOf Allowed param) ∧
      ∀ node ∈ chainedCall links, ¬MadeOf Allowed node := by
  have noStatement (unnamed : ∀ link ∈ links, link.name = none) :
      ∀ node ∈ chainedCall links, ¬MadeOf Allowed node := by
    cases links with
    | nil => simp [chainedCall]
    | cons link others =>
        intro node member made
        obtain rfl := List.mem_singleton.mp member
        have noName := unnamed link List.mem_cons_self
        cases made
        cases noName
  cases shown with
  | statement made =>
      cases made with
      | call allowed params unnamed _ => exact ⟨by simpa using allowed, params, noStatement unnamed⟩
  | chained params unnamed _ => exact ⟨by simp, params, noStatement unnamed⟩

/-- A name is told from the want of one. -/
theorem linkLabel_inj
    {name name' : Option String}
    (unlike : ∀ text ∈ name, text ≠ "<chained>")
    (unlike' : ∀ text ∈ name', text ≠ "<chained>")
    (same : linkLabel name = linkLabel name') :
    name = name' := by
  have shownNames := (String.append_right_inj "CallExpression ").mp same
  cases name with
  | none =>
      cases name' with
      | none => rfl
      | some text' => exact absurd shownNames.symm (unlike' text' rfl)
  | some text =>
      cases name' with
      | none => exact absurd shownNames (unlike text rfl)
      | some text' => exact congrArg some shownNames

theorem Shown.eq_of_call
    {first first' : Link Node}
    {links links' : List (Link Node)}
    (unlike : ¬Allowed ⟨.identifier, "<chained>"⟩)
    (shown : Shown Allowed (.call first links))
    (shown' : Shown Allowed (.call first' links'))
    (labels : (Node.call first links).label = (Node.call first' links').label)
    (below : (Node.call first links).children = (Node.call first' links').children) :
    Node.call first links = .call first' links' := by
  obtain ⟨names, params, noStatement⟩ := shown.call_parts
  obtain ⟨names', params', noStatement'⟩ := shown'.call_parts
  obtain ⟨sameParams, sameCall⟩ := append_inj_of_kind params params' noStatement noStatement' below
  have sameName : first.name = first'.name := by
    refine linkLabel_inj ?_ ?_ labels
    · rintro text member rfl
      exact unlike (names _ member)
    · rintro text member rfl
      exact unlike (names' _ member)
  cases first
  cases first'
  simp_all [chainedCall_injective.eq_iff]

theorem Shown.eq_of_label
    {node other : Node}
    (unlike : ¬Allowed ⟨.identifier, "<chained>"⟩)
    (shown : Shown Allowed node)
    (shown' : Shown Allowed other)
    (labels : node.label = other.label)
    (below : node.children = other.children) :
    node = other := by
  have initials := congrArg (·.toList.head?) labels
  cases node with
  | text value =>
      cases other with
      | text value' =>
          simp only [label, String.append_right_inj] at labels
          rw [Text.quoted_injective labels]
      | _ => simp [label, linkLabel] at initials
  | identifier name property =>
      cases other with
      | identifier name' property' =>
          simp only [label, String.append_right_inj] at labels
          rw [labels, accessed_injective below]
      | _ => simp [label, linkLabel] at initials
  | call first links =>
      cases other with
      | call first' links' => exact shown.eq_of_call unlike shown' labels below
      | _ => simp [label, linkLabel] at initials
  | program body =>
      cases shown with
      | statement made => cases made
  | absent =>
      cases shown with
      | statement made => cases made
  | foreign type =>
      cases shown with
      | statement made => cases made

/-! ## Nodes from their headings -/

/-- The headings of some nodes at a depth and of all nodes below them. -/
def headings (depth : Nat) (nodes : List Node) : List (Nat × String) :=
  (nodes.flatMap (preorder depth)).map fun place => (place.depth, place.node.label)

theorem headings_cons
    (depth : Nat)
    (node : Node)
    (others : List Node) :
    headings depth (node :: others) =
      (depth, node.label) :: (headings (depth + 1) node.children ++ headings depth others) := by
  simp [headings, preorder_eq_cons depth node]

/-- Nothing at the depth or below it comes next. -/
def Shallower (depth : Nat) (rest : List (Nat × String)) : Prop :=
  ∀ heading ∈ rest.head?, heading.1 < depth

theorem Shallower.headings_append
    {depth : Nat}
    {rest : List (Nat × String)}
    (shallower : Shallower depth rest)
    (nodes : List Node) :
    Shallower (depth + 1) (headings depth nodes ++ rest) := by
  cases nodes with
  | nil => exact fun heading member => Nat.lt_succ_of_lt (shallower heading member)
  | cons node others => simp [Shallower, headings_cons]

/-- A heading at the depth is not the first of what comes behind the nodes there. -/
theorem Shallower.ne_cons
    {depth : Nat}
    {rest : List (Nat × String)}
    (shallower : Shallower depth rest)
    (label : String)
    (others : List (Nat × String)) :
    rest ≠ (depth, label) :: others := by
  rintro rfl
  exact absurd (shallower (depth, label) rfl) (Nat.lt_irrefl depth)

/-- Nodes and what stands behind them are known from the headings of both. -/
theorem headings_append_inj
    {depth : Nat}
    {nodes nodes' : List Node}
    {rest rest' : List (Nat × String)}
    (unlike : ¬Allowed ⟨.identifier, "<chained>"⟩)
    (shown : ∀ node ∈ nodes, Shown Allowed node)
    (shown' : ∀ node ∈ nodes', Shown Allowed node)
    (shallower : Shallower depth rest)
    (shallower' : Shallower depth rest')
    (same : headings depth nodes ++ rest = headings depth nodes' ++ rest') :
    nodes = nodes' ∧ rest = rest' := by
  match nodes, nodes' with
  | [], [] => exact ⟨rfl, same⟩
  | [], _ :: _ =>
      rw [headings_cons] at same
      exact absurd same (shallower.ne_cons _ _)
  | _ :: _, [] =>
      rw [headings_cons] at same
      exact absurd same.symm (shallower'.ne_cons _ _)
  | node :: others, node' :: others' =>
      obtain ⟨own, further⟩ := List.forall_mem_cons.mp shown
      obtain ⟨own', further'⟩ := List.forall_mem_cons.mp shown'
      rw [headings_cons, headings_cons, List.cons_append, List.cons_append, List.append_assoc,
        List.append_assoc] at same
      obtain ⟨first, behind⟩ := List.cons.inj same
      obtain ⟨below, next⟩ := headings_append_inj unlike own.children own'.children
        (shallower.headings_append others) (shallower'.headings_append others') behind
      obtain ⟨sameOthers, sameRest⟩ :=
        headings_append_inj unlike further further' shallower shallower' next
      obtain rfl := own.eq_of_label unlike own' (Prod.mk.inj first).2 below
      exact ⟨by rw [sameOthers], sameRest⟩
termination_by (headings depth nodes).length
decreasing_by
  all_goals
    rw [headings_cons, List.length_cons, List.length_append]
    omega

/-! ## Programs -/

/-- The nodes of a program are the program itself and nodes that outlines show. -/
theorem mem_preorder_program
    {body : List Node}
    (made : ∀ statement ∈ body, MadeOf Allowed statement)
    {place : Place}
    (member : place ∈ (Node.program body).preorder 0) :
    place = ⟨0, .program body⟩ ∨ Shown Allowed place.node := by
  rw [preorder_eq_cons] at member
  rcases List.mem_cons.mp member with root | below
  · exact Or.inl root
  · obtain ⟨statement, listed, inside⟩ := List.mem_flatMap.mp below
    exact Or.inr ((Shown.statement (made statement listed)).preorder 1 place inside)

theorem firstStranger_program
    {body : List Node}
    (made : ∀ statement ∈ body, MadeOf Allowed statement) :
    (Node.program body).firstStranger = none := by
  rw [firstStranger, List.findSome?_eq_none_iff]
  intro place member
  rcases mem_preorder_program made member with rfl | shown
  · rfl
  · exact shown.stranger

/-- If a program made of tokens has no outline, then for want of space. -/
theorem spaces_of_outline_eq_error
    {body : List Node}
    (made : ∀ statement ∈ body, MadeOf Allowed statement)
    {indent : Indent}
    {level : Int}
    {failure : OutlineError}
    (failed : (Node.program body).outline indent level = .error failure) :
    ∃ shortage, failure = .spaces shortage ∧
      ∃ place ∈ (Node.program body).preorder 0, indent.pad (level + place.depth) = .error shortage := by
  rcases outline_fails indent level (.program body) with strangers | short
  · rw [firstStranger_program made, failed] at strangers
    cases strangers
  · obtain ⟨place, member, shortage, padded, found⟩ := short
    exact ⟨shortage, Except.error.inj (failed.symm.trans found), place, member, padded⟩

theorem splitLines_outline_program
    {body : List Node}
    (oneLine : ∀ name, Allowed ⟨.identifier, name⟩ → '\n' ∉ name.toList)
    (made : ∀ statement ∈ body, MadeOf Allowed statement)
    {indent : Indent}
    {level : Nat}
    {text : String}
    (outlined : (Node.program body).outline indent level = .ok text) :
    Text.splitLines text = ((Node.program body).preorder 0).map (Place.line indent level) := by
  have lines : ∀ line ∈ ((Node.program body).preorder 0).map (Place.line indent level),
      '\n' ∉ line.toList := by
    intro line member
    obtain ⟨place, listed, rfl⟩ := List.mem_map.mp member
    have label : '\n' ∉ place.node.label.toList := by
      rcases mem_preorder_program made listed with rfl | shown
      · simp [Node.label]
      · exact shown.lineFeed_notMem_label oneLine
    simp [toList_line, label]
  rw [outline_eq_ok outlined, Text.splitLines_intercalate lines, if_neg]
  rw [preorder_eq_cons]
  simp

/-- Programs are known from their lines. -/
theorem eq_of_lines_program
    {indent : Indent}
    (indented : 0 < indent.width)
    {level : Nat}
    {body body' : List Node}
    (unlike : ¬Allowed ⟨.identifier, "<chained>"⟩)
    (made : ∀ statement ∈ body, MadeOf Allowed statement)
    (made' : ∀ statement ∈ body', MadeOf Allowed statement)
    (lines : ((Node.program body).preorder 0).map (Place.line indent level) =
      ((Node.program body').preorder 0).map (Place.line indent level)) :
    body = body' := by
  have read (statements : List Node) :
      (((Node.program statements).preorder 0).map (Place.line indent level)).map
        (heading indent level) = (0, "Program") :: (headings 1 statements ++ []) := by
    rw [List.map_map, preorder_eq_cons, List.append_nil]
    simp [Function.comp_def, heading_line indented, headings, label, children]
  have same := congrArg (List.map (heading indent level)) lines
  rw [read, read] at same
  have none : Shallower 1 [] := by simp [Shallower]
  exact (headings_append_inj unlike (fun statement member => .statement (made statement member))
    (fun statement member => .statement (made' statement member)) none none
    (List.cons.inj same).2).1

/--
The outline of a program has one line for every node, in pre-order, unless the
space before some line cannot be made; the names may be any that keep to their
lines.  If besides no name looks like the want of one, programs with the same
outline are the same.
-/
theorem outline_faithful
    {indent : Indent}
    (indented : 0 < indent.width)
    (level : Nat)
    {tokens tokens' : List Token}
    {body body' : List Node}
    (parsed : parse tokens = .ok body)
    (parsed' : parse tokens' = .ok body')
    (oneLine : ∀ name, ⟨.identifier, name⟩ ∈ tokens → '\n' ∉ name.toList)
    (oneLine' : ∀ name, ⟨.identifier, name⟩ ∈ tokens' → '\n' ∉ name.toList) :
    (match (Node.program body).outline indent level with
      | .ok shown =>
          Text.splitLines shown = ((Node.program body).preorder 0).map (Place.line indent level)
      | .error failure =>
          ∃ place ∈ (Node.program body).preorder 0,
            min indent.memory.limit Text.wordLimit ≤ indent.width * (level + place.depth) ∧
              ∃ shortage, indent.pad (level + place.depth) = .error shortage ∧
                failure = .spaces shortage) ∧
      ((⟨.identifier, "<chained>"⟩ : Token) ∉ tokens →
        (⟨.identifier, "<chained>"⟩ : Token) ∉ tokens' →
        ∀ shown, (Node.program body).outline indent level = .ok shown →
          (Node.program body').outline indent level = .ok shown → body = body') := by
  have made := madeOf_of_parse parsed fun token member => member
  have made' := madeOf_of_parse parsed' fun token member => member
  constructor
  · cases outlined : (Node.program body).outline indent level with
    | ok shown => exact splitLines_outline_program oneLine made outlined
    | error failure =>
        obtain ⟨shortage, rfl, place, member, padded⟩ := spaces_of_outline_eq_error made outlined
        exact ⟨place, member, limit_le_of_pad_eq_error indented padded, shortage, padded, rfl⟩
  · intro unlike unlike' shown outlined outlined'
    have lines := (splitLines_outline_program oneLine made outlined).symm.trans
      (splitLines_outline_program oneLine' made' outlined')
    exact eq_of_lines_program indented (fun differs => differs rfl)
      (madeOf_of_parse parsed fun token member => ne_of_mem_of_not_mem member unlike)
      (madeOf_of_parse parsed' fun token member => ne_of_mem_of_not_mem member unlike') lines

/-- A chain of calls behind an access, with a text that is quoted by double quotes. -/
def chainedAccess : List Node :=
  [.identifier "a"
    (.call ⟨some "f", [.text "it's\n"]⟩ [⟨none, [.identifier "y" .absent]⟩])]

/-- Its tokens, with any delimiter before what is accessed. -/
def chainedAccessTokens (delimiter : String) : List Token :=
  [⟨.identifier, "a"⟩, ⟨.property, delimiter⟩, ⟨.identifier, "f"⟩, ⟨.call, "("⟩,
    ⟨.string, "it's\n"⟩, ⟨.call, ")"⟩, ⟨.call, "("⟩, ⟨.identifier, "y"⟩, ⟨.call, ")"⟩]

theorem outline_faithful_chainedAccess :
    Token.tokenize "a.f(\"it's\n\")(y)" = .ok (chainedAccessTokens ".") ∧
      Token.tokenize "a[f 1(\"it's\n\") (y);" = .ok (chainedAccessTokens "[") ∧
      parse (chainedAccessTokens ".") = .ok chainedAccess ∧
      parse (chainedAccessTokens "[") = .ok chainedAccess ∧
      ∃ text,
        (Node.program chainedAccess).outline (.standard ordinaryMemory) (1 : Nat) = .ok text ∧
        Text.splitLines text =
          ((Node.program chainedAccess).preorder 0).map
            (Place.line (.standard ordinaryMemory) 1) ∧
        chainedAccess = chainedAccess := by
  have tokenized : Token.tokenize "a.f(\"it's\n\")(y)" = .ok (chainedAccessTokens ".") := by
    decide +kernel
  have tokenized' : Token.tokenize "a[f 1(\"it's\n\") (y);" = .ok (chainedAccessTokens "[") := by
    decide +kernel
  have parsed : parse (chainedAccessTokens ".") = .ok chainedAccess := by decide +kernel
  have parsed' : parse (chainedAccessTokens "[") = .ok chainedAccess := by decide +kernel
  obtain ⟨oneLine, unlike⟩ := names_of_tokenize tokenized
  obtain ⟨oneLine', unlike'⟩ := names_of_tokenize tokenized'
  have outlined : (Node.program chainedAccess).outline (.standard ordinaryMemory) (1 : Nat) =
      .ok ("  Program\n    Identifier a\n      CallExpression f\n" ++
        "        StringLiteral \"it's\\n\"\n        CallExpression <chained>\n" ++
        "          Identifier y") := by
    decide +kernel
  have indented : 0 < (Indent.standard ordinaryMemory).width := by decide
  have faithful := outline_faithful indented 1 parsed parsed' oneLine oneLine'
  have lines := faithful.1
  rw [outlined] at lines
  exact ⟨tokenized, tokenized', parsed, parsed', _, outlined, lines,
    faithful.2 unlike unlike' _ outlined outlined⟩

/--
At a level that is no signed word even the empty program has no outline.  And
from tokens that no text has, a name may be read that takes two lines, or a
call whose name looks like the want of one, so that it is not told from a
chained link.
-/
theorem outline_unfaithful :
    (parse [] = .ok [] ∧
      ¬∃ shown, (Node.program []).outline ⟨ordinaryMemory, 1, by decide⟩ 100000000000000000000 =
        .ok shown) ∧
    (∃ body shown, parse [⟨.identifier, "a\nb"⟩] = .ok body ∧
      (Node.program body).outline (.standard ordinaryMemory) 0 = .ok shown ∧
      Text.splitLines shown ≠
        ((Node.program body).preorder 0).map (Place.line (.standard ordinaryMemory) 0)) ∧
    ∃ body body',
      parse [⟨.identifier, "f"⟩, ⟨.call, "("⟩, ⟨.call, ")"⟩, ⟨.call, "("⟩, ⟨.call, ")"⟩] = .ok body ∧
      parse [⟨.identifier, "f"⟩, ⟨.call, "("⟩, ⟨.identifier, "<chained>"⟩, ⟨.call, "("⟩,
        ⟨.call, ")"⟩, ⟨.call, ")"⟩] = .ok body' ∧
      body ≠ body' ∧
      (Node.program body).outline (.standard ordinaryMemory) 0 =
        (Node.program body').outline (.standard ordinaryMemory) 0 := by
  refine ⟨?_, ?_, ?_⟩
  · have failed := @outline_eq_error_of_wordLimit_le 100000000000000000000 (by decide)
    refine ⟨by decide +kernel, ?_⟩
    rintro ⟨shown, outlined⟩
    rw [failed] at outlined
    cases outlined
  · have lines : Text.splitLines ("\n".intercalate ["Program", "  Identifier a", "b"]) =
        ["Program", "  Identifier a", "b"] := by
      rw [Text.splitLines_intercalate (by decide), if_neg (by simp)]
    refine ⟨[.identifier "a\nb" .absent], "\n".intercalate ["Program", "  Identifier a", "b"],
      by decide +kernel, by decide +kernel, ?_⟩
    rw [lines]
    simp [preorder_eq_cons, children, accessed]
  · refine ⟨[.call ⟨some "f", []⟩ [⟨none, []⟩]],
      [.call ⟨some "f", [.call ⟨some "<chained>", []⟩ []]⟩ []], by decide +kernel,
      by decide +kernel, by simp, ?_⟩
    decide +kernel

end Hostcall.Node
