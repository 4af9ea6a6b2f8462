import Hostcall.Proofs.Console.Processing
import Hostcall.Proofs.Tree.Canonical
import Hostcall.Proofs.Tree.Position

/-!
# Exit codes

Whether the demonstration host stops a program can be seen from the tree of
the program.  Its functions without parameters are reached only through the
links behind a call of the logging function, and that is found only in the
namespace object.  So a program is stopped exactly if in the scope of the
namespace object one of the two links behind a call of the logging function
has arguments.
-/

namespace Hostcall

namespace Node

/-! ## Calls that fail -/

/-- The call of the logging function hands arguments to a function without parameters. -/
def Overfull : Node → Prop
  | .call first chained => first.name = some "log" ∧ ∃ link ∈ chained.take 2, link.params ≠ []
  | _ => False

instance decidableOverfull : DecidablePred Overfull
  | .call _ _ => inferInstanceAs (Decidable (_ ∧ _))
  | .text _ => inferInstanceAs (Decidable False)
  | .identifier _ _ => inferInstanceAs (Decidable False)
  | .program _ => inferInstanceAs (Decidable False)
  | .absent => inferInstanceAs (Decidable False)
  | .foreign _ => inferInstanceAs (Decidable False)

/-- A call fails if the node is evaluated in the scope of the namespace object. -/
def Overfills (node : Node) : Prop :=
  ∃ peer ∈ node.peers, peer.Overfull

@[simp]
theorem not_overfills_text
    (value : String) :
    ¬Overfills (.text value) := by
  simp [Overfills, peers, Overfull]

@[simp]
theorem not_overfills_identifier
    (name : String)
    (property : Node) :
    ¬Overfills (.identifier name property) := by
  simp [Overfills, peers, Overfull]

theorem overfills_call
    {first : Link Node}
    {chained : List (Link Node)} :
    Overfills (.call first chained) ↔
      Overfull (.call first chained) ∨
        ∃ link ∈ first :: chained, ∃ param ∈ link.params, Overfills param :=
  exists_mem_peers_call

/-- The node accesses something on the name of the namespace object in which a call fails. -/
def Misleads (node : Node) : Prop :=
  ∃ property, node.accessedOn "myConsole" = some property ∧ property.Overfills

/-- A call fails if the node is evaluated in the scope of the program. -/
def Stumbles (node : Node) : Prop :=
  ∃ peer ∈ node.peers, peer.Misleads

@[simp]
theorem not_stumbles_text
    (value : String) :
    ¬Stumbles (.text value) := by
  simp [Stumbles, Misleads, peers, accessedOn]

theorem stumbles_identifier
    {name : String}
    {property : Node} :
    Stumbles (.identifier name property) ↔
      name = "myConsole" ∧ property ≠ .absent ∧ property.Overfills := by
  simp only [Stumbles, Misleads, peers, List.mem_singleton, exists_eq_left,
    accessedOn_eq_some_iff, identifier.injEq]
  grind

theorem stumbles_call
    {first : Link Node}
    {chained : List (Link Node)} :
    Stumbles (.call first chained) ↔
      ∃ link ∈ first :: chained, ∃ param ∈ link.params, Stumbles param := by
  rw [Stumbles, exists_mem_peers_call]
  simp [Misleads, accessedOn, Stumbles]

/-- A program stumbles if a call is overfull among the nodes that meet the namespace object. -/
theorem exists_stumbles_iff
    {body : List Node} :
    (∃ statement ∈ body, statement.Stumbles) ↔
      ∃ node ∈ positionsOn "myConsole" body, node.Overfull := by
  simp only [positionsOn, rootPositions, mem_nodesPeers, List.mem_filterMap]
  constructor
  · rintro ⟨statement, member, peer, beside, property, accessed, node, inside, overfull⟩
    exact ⟨node, ⟨property, ⟨peer, ⟨statement, member, beside⟩, accessed⟩, inside⟩, overfull⟩
  · rintro ⟨node, ⟨property, ⟨peer, ⟨statement, member, beside⟩, accessed⟩, inside⟩, overfull⟩
    exact ⟨statement, member, peer, beside, property, accessed, node, inside, overfull⟩

end Node

variable {State Fault Content Result : Type}

/-! ## Computations whose failure is foreseen -/

/--
In every state the computation fails if and only if it is said to, and what it
returns is as said.
-/
def Foreseen
    (fails : Prop)
    (returns : Content → Prop)
    (computation : EStateM Fault State Content) :
    Prop :=
  ∀ state,
    match computation state with
    | .ok content _ => ¬fails ∧ returns content
    | .error _ _ => fails

namespace Foreseen

variable
  {fails fails' : Prop}
  {returns : Content → Prop}
  {computation : EStateM Fault State Content}

theorem pure
    {content : Content}
    (returned : returns content) :
    Foreseen False returns (Pure.pure content : EStateM Fault State Content) := by
  intro state
  exact ⟨id, returned⟩

theorem bind
    {next : Content → EStateM Fault State Result}
    {failsNext : Prop}
    {returnsNext : Result → Prop}
    (before : Foreseen fails returns computation)
    (after : ∀ content, returns content → Foreseen failsNext returnsNext (next content)) :
    Foreseen (fails ∨ failsNext) returnsNext (computation >>= next) := by
  intro state
  have own := before state
  simp only [Bind.bind, EStateM.bind]
  cases ended : computation state with
  | error fault middle =>
      rw [ended] at own
      exact Or.inl own
  | ok content middle =>
      rw [ended] at own
      have behind := after content own.2 middle
      dsimp only
      cases finished : next content middle with
      | error fault finish =>
          rw [finished] at behind
          exact Or.inr behind
      | ok result finish =>
          rw [finished] at behind
          exact ⟨not_or.mpr ⟨own.1, behind.1⟩, behind.2⟩

theorem congr
    (foreseen : Foreseen fails returns computation)
    (same : fails ↔ fails') :
    Foreseen fails' returns computation := by
  rwa [propext same] at foreseen

end Foreseen

namespace Demo

variable {out : List (Value Object) → State → State}

/-! ## Links of calls in the demonstration host -/

/-- The value refuses arguments, and so do the values that it returns: so many in a row. -/
inductive Refuses : Value Object → Nat → Prop where
  | nothing :
      Refuses .null 0
  | thirdCall :
      Refuses (.object .thirdCall) 1
  | secondCall :
      Refuses (.object .secondCall) 2

theorem foreseen_callPlain
    {callee line : String}
    {returned : Value Object}
    {returns : Value Object → Prop}
    (holds : returns returned)
    (arguments : List (Value Object)) :
    Foreseen (arguments ≠ []) returns (callPlain out callee line returned arguments) := by
  intro state
  cases arguments with
  | nil => exact ⟨fun filled => filled rfl, holds⟩
  | cons argument others => exact List.cons_ne_nil argument others

theorem Refuses.invoke
    {value : Value Object}
    {count : Nat}
    (refuses : Refuses value count)
    (arguments : List (Value Object)) :
    Foreseen (0 < count ∧ arguments ≠ []) (Refuses · (count - 1))
      ((host out).access.invoke value arguments) := by
  cases refuses with
  | nothing => exact (Foreseen.pure .nothing).congr (by simp)
  | thirdCall => exact (foreseen_callPlain .nothing arguments).congr (by simp)
  | secondCall => exact (foreseen_callPlain .thirdCall arguments).congr (by simp)

/-- Whether a node fails in a scope is foreseen, whatever its value. -/
def Foretold
    (out : List (Value Object) → State → State)
    (scope : Value Object)
    (Fails : Node → Prop)
    (node : Node) :
    Prop :=
  Foreseen (Fails node) (fun _ => True) ((host out).access.evaluate node scope .null)

variable {scope : Value Object} {Fails : Node → Prop}

theorem foreseen_evaluateAll
    {params : List Node}
    (each : ∀ param ∈ params, Foretold out scope Fails param) :
    Foreseen (∃ param ∈ params, Fails param) (fun values => values = [] ↔ params = [])
      ((host out).access.evaluateAll params scope) := by
  induction params with
  | nil =>
      rw [Access.evaluateAll]
      exact Foreseen.congr (.pure (iff_of_true rfl rfl)) (by simp)
  | cons param others inductionHypothesis =>
      rw [Access.evaluateAll]
      rcases List.forall_mem_cons.mp each with ⟨own, behind⟩
      have filled (value : Value Object) (values : List (Value Object)) :
          Foreseen False (fun all => all = [] ↔ param :: others = [])
            (Pure.pure (value :: values) : EStateM UnwantedArguments State _) :=
        .pure (by simp)
      have evaluated := own.bind fun value _ =>
        (inductionHypothesis behind).bind fun values _ => filled value values
      exact evaluated.congr (by simp)

/-- A link without a name calls what the link before it returned. -/
theorem Refuses.evaluateLink
    {invoked : Value Object}
    {count : Nat}
    (refuses : Refuses invoked count)
    {params : List Node}
    (each : ∀ param ∈ params, Foretold out scope Fails param) :
    Foreseen ((∃ param ∈ params, Fails param) ∨ 0 < count ∧ params ≠ []) (Refuses · (count - 1))
      ((host out).access.evaluateLink ⟨none, params⟩ scope invoked) := by
  rw [Access.evaluateLink]
  refine (foreseen_evaluateAll each).bind fun arguments length => ?_
  exact (refuses.invoke arguments).congr (by rw [ne_eq, length])

theorem Refuses.evaluateLinks
    {invoked : Value Object}
    {count : Nat}
    (refuses : Refuses invoked count)
    {links : List (Link Node)}
    (unnamed : ∀ link ∈ links, link.name = none)
    (each : ∀ link ∈ links, ∀ param ∈ link.params, Foretold out scope Fails param) :
    Foreseen
      ((∃ link ∈ links, ∃ param ∈ link.params, Fails param) ∨
        ∃ link ∈ links.take count, link.params ≠ [])
      (fun _ => True)
      ((host out).access.evaluateLinks links scope invoked) := by
  induction links generalizing invoked count with
  | nil =>
      rw [Access.evaluateLinks]
      exact (Foreseen.pure trivial).congr (by simp)
  | cons link others inductionHypothesis =>
      rw [Access.evaluateLinks]
      rcases link with ⟨name, params⟩
      rcases List.forall_mem_cons.mp unnamed with ⟨rfl, unnamedBehind⟩
      rcases List.forall_mem_cons.mp each with ⟨own, behind⟩
      refine ((refuses.evaluateLink own).bind fun returned refusesNext =>
        inductionHypothesis refusesNext unnamedBehind behind).congr ?_
      cases count with
      | zero => simp
      | succ count => simp [or_assoc, or_left_comm]

/-- A call fails through its arguments or through links that are refused theirs. -/
theorem foreseen_call
    {name : String}
    {params : List Node}
    {chained : List (Link Node)}
    {count : Nat}
    (opens : ∀ arguments,
      Foreseen False (Refuses · count) ((host out).access.invoke (found scope name) arguments))
    (unnamed : ∀ link ∈ chained, link.name = none)
    (first : ∀ param ∈ params, Foretold out scope Fails param)
    (others : ∀ link ∈ chained, ∀ param ∈ link.params, Foretold out scope Fails param) :
    Foreseen
      ((∃ link ∈ ⟨some name, params⟩ :: chained, ∃ param ∈ link.params, Fails param) ∨
        ∃ link ∈ chained.take count, link.params ≠ [])
      (fun _ => True)
      ((host out).access.evaluate (.call ⟨some name, params⟩ chained) scope .null) := by
  have opened : Foreseen (∃ param ∈ params, Fails param) (Refuses · count)
      ((host out).access.evaluateLink ⟨some name, params⟩ scope .null) := by
    have evaluated := (foreseen_evaluateAll first).bind fun arguments _ => opens arguments
    rw [Access.evaluateLink]
    simp only [lookup_host, pure_bind]
    exact evaluated.congr (by simp)
  rw [Access.evaluate]
  refine (opened.bind fun returned refuses =>
    (refuses.evaluateLinks unnamed others).bind fun _ _ => .pure trivial).congr ?_
  simp [or_assoc]

/-! ## Nodes in the demonstration host -/

theorem found_console
    (name : String) :
    found (.object .console) name = if name = "log" then .object .log else .null := by
  rw [found]
  unfold part
  split <;> simp_all

theorem found_root
    (name : String) :
    found (.object .root) name =
      if name = "myConsole" then .object .console
      else if name = "testLog" then .object .testLog
      else if name = "globalValue" then .text "==> hello word4"
      else .null := by
  rw [found]
  unfold part
  split <;> simp_all

/-- Nothing fails where no name means anything. -/
theorem foretold_dead
    {node : Node}
    (wellFormed : node.WellFormed)
    (dead : ∀ name, found scope name = .null) :
    Foretold out scope (fun _ => False) node := by
  induction wellFormed generalizing scope with
  | text _ =>
      rw [Foretold, Access.evaluate]
      exact .pure trivial
  | @identifier name _ =>
      rw [Foretold, Access.evaluate_name, lookup_host]
      exact .pure trivial
  | @access name property _ accessed inductionHypothesis =>
      rw [Foretold, Access.evaluate_access accessed.present, lookup_host, pure_bind, dead]
      exact inductionHypothesis fun _ => rfl
  | @call name params chained _ _ unnamed _ first others =>
      have opens (arguments : List (Value Object)) :
          Foreseen False (Refuses · 0) ((host out).access.invoke (found scope name) arguments) := by
        rw [dead]
        exact .pure .nothing
      have called := foreseen_call opens unnamed (fun param member => first param member dead)
        fun link listed param member => others link listed param member dead
      exact called.congr (by simp)

/-- The one function of the namespace object returns what refuses arguments twice. -/
theorem foreseen_invoke_console
    (name : String)
    (arguments : List (Value Object)) :
    Foreseen False (Refuses · (if name = "log" then 2 else 0))
      ((host out).access.invoke (found (.object .console) name) arguments) := by
  rw [found_console]
  split
  · exact fun state => ⟨id, .secondCall⟩
  · exact .pure .nothing

theorem foretold_console
    {node : Node}
    (wellFormed : node.WellFormed) :
    Foretold out (.object .console) Node.Overfills node := by
  induction wellFormed with
  | text _ =>
      rw [Foretold, Access.evaluate]
      exact (Foreseen.pure trivial).congr (by simp)
  | @identifier name _ =>
      rw [Foretold, Access.evaluate_name, lookup_host]
      exact (Foreseen.pure trivial).congr (by simp)
  | @access name property _ accessed _ =>
      rw [Foretold, Access.evaluate_access accessed.present, lookup_host, pure_bind]
      have dead (other : String) : found (found (.object .console) name) other = .null := by
        rw [found_console]
        split <;> rfl
      exact (foretold_dead accessed dead).congr (by simp)
  | @call name params chained _ _ unnamed _ first others =>
      have called := foreseen_call (foreseen_invoke_console name) unnamed first others
      refine called.congr ?_
      rw [Node.overfills_call, Node.Overfull, or_comm]
      by_cases isLog : name = "log"
      · simp [isLog]
      · simp [isLog]

/-- The functions of the root object return nothing that can be called. -/
theorem foreseen_invoke_root
    (name : String)
    (arguments : List (Value Object)) :
    Foreseen False (Refuses · 0)
      ((host out).access.invoke (found (.object .root) name) arguments) := by
  rw [found_root]
  split
  · exact .pure .nothing
  · split
    · exact fun state => ⟨id, .nothing⟩
    · split <;> exact .pure .nothing

theorem foretold_root
    {node : Node}
    (wellFormed : node.WellFormed) :
    Foretold out (.object .root) Node.Stumbles node := by
  induction wellFormed with
  | text _ =>
      rw [Foretold, Access.evaluate]
      exact (Foreseen.pure trivial).congr (by simp)
  | @identifier name _ =>
      rw [Foretold, Access.evaluate_name, lookup_host]
      exact (Foreseen.pure trivial).congr (by simp [Node.stumbles_identifier])
  | @access name property _ accessed _ =>
      rw [Foretold, Access.evaluate_access accessed.present, lookup_host, pure_bind]
      by_cases isConsole : name = "myConsole"
      · subst isConsole
        refine (foretold_console accessed).congr ?_
        simp [Node.stumbles_identifier, accessed.present]
      · have dead (other : String) : found (found (.object .root) name) other = .null := by
          rw [found_root, if_neg isConsole]
          split
          · rfl
          · split <;> rfl
        refine (foretold_dead accessed dead).congr ?_
        simp [Node.stumbles_identifier, isConsole]
  | @call name params chained _ _ unnamed _ first others =>
      have called := foreseen_call (foreseen_invoke_root name) unnamed first others
      refine called.congr ?_
      rw [Node.stumbles_call]
      simp

theorem foreseen_execute
    {body : List Node}
    (wellFormed : ∀ statement ∈ body, statement.WellFormed) :
    Foreseen (∃ statement ∈ body, statement.Stumbles) (fun _ => True)
      ((host out).access.execute body Demo.scope) := by
  induction body with
  | nil => exact (Foreseen.pure trivial).congr (by simp)
  | cons statement others inductionHypothesis =>
      rcases List.forall_mem_cons.mp wellFormed with ⟨own, behind⟩
      refine ((foretold_root own).bind fun _ _ => inductionHypothesis behind).congr ?_
      simp

end Demo

namespace Console

/--
The exit code of running a source text is known from its tree.  Nothing but
the report is shown of a text that cannot be read.
-/
theorem exitCode_static
    (source : String) :
    match readSource source with
    | .error error =>
        (runSource .run source .empty).1 = 1 ∧
          (runSource .run source .empty).2.shown = "[callchain] " ++ error.message ++ "\n"
    | .ok body =>
        (runSource .run source .empty).1 =
          if ∃ node ∈ Node.positionsOn "myConsole" body, node.Overfull then 2 else 0 := by
  have running : View.run ≠ .tokens := by decide
  cases read : readSource source with
  | error error =>
      rcases process_of_error running read .empty with ⟨after, nothing, ended⟩
      simp only [runSource, ended, Transcript.shown_writeLine, nothing, true_and]
      simp [Transcript.empty]
  | ok body =>
      rcases process_of_ok running read .empty with ⟨start, _, ended⟩
      have wellFormed := Node.wellFormed_of_readSource read
      have foreseen : Foreseen (∃ statement ∈ body, statement.Stumbles) (fun _ => True)
          (demoHost.access.execute body Demo.scope) := Demo.foreseen_execute wellFormed
      rw [Node.exists_stumbles_iff] at foreseen
      have told := foreseen start
      simp only [runSource, ended, takeBody, runBody]
      cases executed : demoHost.access.execute body Demo.scope start with
      | ok _ after =>
          rw [executed] at told
          exact (if_neg told.1).symm
      | error failure after =>
          rw [executed] at told
          exact (if_pos told).symm

-- Nothing is called under the unknown name, but its argument is evaluated in the same scope.
example :
    ∃ node ∈ Node.positionsOn "myConsole" [.identifier "myConsole"
      (.call ⟨some "unknown", [.call ⟨some "log", []⟩ [⟨none, [.text "x"]⟩]]⟩ [])],
      node.Overfull := by
  decide

end Console

end Hostcall
