import Hostcall.Proofs.Tree.Derivation
import Hostcall.Tree.Reader
import Mathlib.Control.Monad.Basic

/-!
# Locality of reading

A reader may stand anywhere in a token list.  What it reads there does not
depend on the tokens before it, which only shift the places that it reports.
And of the tokens behind what it takes, it looks at the first one alone: every
token list that goes on with the same token is read in the same way, whatever
stands further behind.

The second fact is where derivations are of use.  They say which tokens a
reading takes, and know one token behind them.
-/

namespace Hostcall.Node

/-! ## Tasks of a reader -/

/-- What a reader can be told to read as a single node. -/
inductive Task where
  /-- The token at the reader and the statement that it begins. -/
  | statement
  /-- What belongs to a name that stands before the reader. -/
  | chain (name : String)
  /-- The argument lists of a call, with or without a name. -/
  | call (name : Option String)
deriving DecidableEq, Repr

namespace Reader

def perform (reader : Reader) : Task → Except UnterminatedCall (Option Node) × Reader
  | .statement => reader.readStatement
  | .chain name => ((reader.readName name).1.map some, (reader.readName name).2)
  | .call name => ((reader.readCall name).1.map some, (reader.readCall name).2)

/-- What a reader at a place in a token list answers to a task, and the place that it reaches. -/
def outcomeAt
    (task : Task)
    (tokens : List Token)
    (place : Nat) :
    Except UnterminatedCall (Option Node) × Nat :=
  let (answer, reader) := ((ofTokens tokens).moved place).perform task
  (answer, reader.position)

/-- The same outcome, counted from a place that lies this many tokens before. -/
def shifted (distance : Nat) :
    Except UnterminatedCall (Option Node) × Nat → Except UnterminatedCall (Option Node) × Nat
  | (answer, reached) => (answer.mapError (·.shift distance), distance + reached)

end Reader

/-! ## Places are shifted -/

/-- The reading by which a task is performed on the tokens that remain. -/
def Task.reading : Task → List Token → Except UnterminatedCall (Reading (Option Node))
  | .statement, [] => .ok ⟨none, 1⟩
  | .statement, token :: following =>
      match readStatement token following with
      | .error failure => .error (failure.shift 1)
      | .ok read => .ok ⟨read.content, 1 + read.taken⟩
  | .chain name, tokens =>
      (readName name tokens).map fun read => ⟨some read.content, read.taken⟩
  | .call name, tokens =>
      (readArgumentLists tokens).map fun read =>
        ⟨some (ofArgumentLists name read.content), read.taken⟩

namespace Reader

/-- All that a reader does is to settle a reading of the tokens that remain. -/
theorem perform_eq_settle
    (reader : Reader)
    (task : Task) :
    reader.perform task = reader.settle (task.reading reader.remaining) := by
  rcases reader with ⟨position, remaining⟩
  cases task with
  | statement =>
      cases remaining with
      | nil => rfl
      | cons token following =>
          simp only [perform, Reader.readStatement, Task.reading]
          cases Node.readStatement token following with
          | error failure => simp [settle, UnterminatedCall.shift, Nat.add_assoc]
          | ok read => simp [settle]
  | chain name =>
      simp only [perform, Reader.readName, Task.reading]
      cases Node.readName name remaining <;> rfl
  | call name =>
      simp only [perform, readCall, Task.reading]
      cases readArgumentLists remaining <;> rfl

theorem outcomeAt_eq
    (task : Task)
    (tokens : List Token)
    (place : Nat) :
    outcomeAt task tokens place =
      match task.reading (tokens.drop place) with
      | .error failure => (.error (failure.shift place), place + failure.reached)
      | .ok read => (.ok read.content, place + read.taken) := by
  simp only [outcomeAt, perform_eq_settle, ofTokens, remaining_moved]
  cases task.reading (tokens.drop place) <;> simp [settle]

end Reader

/-! ## One token of lookahead -/

/-- What a task takes is taken before all tokens that begin as those behind it do. -/
theorem Task.leadsTo
    {task : Task}
    {tokens : List Token}
    {read : Reading (Option Node)}
    (found : task.reading tokens = .ok read)
    {rest : List Token}
    (follows : rest.head? = (tokens.drop read.taken).head?) :
    LeadsTo (task.reading (tokens.take read.taken ++ rest)) read.content
      (tokens.take read.taken ++ rest) rest := by
  cases task with
  | statement =>
      cases tokens with
      | nil =>
          cases found
          obtain rfl : rest = [] := by simpa using follows
          exact ⟨1, rfl, rfl⟩
      | cons token following =>
          cases statement : readStatement token following with
          | error failure => simp [reading, statement] at found
          | ok own =>
              simp only [reading, statement, Except.ok.injEq] at found
              subst read
              rw [Nat.add_comm 1, List.drop_succ_cons] at follows
              rcases (reads_of_readStatement statement).leadsTo rest follows with
                ⟨count, led, remaining⟩
              rw [Nat.add_comm 1, List.take_succ_cons, List.cons_append]
              refine ⟨1 + count, by rw [reading, led], ?_⟩
              rwa [Nat.add_comm 1, List.drop_succ_cons]
  | chain name =>
      cases chain : readName name tokens with
      | error failure => simp [reading, chain, Except.map] at found
      | ok own =>
          simp only [reading, chain, Except.map, Except.ok.injEq] at found
          subst read
          rcases (reads_of_readName chain).leadsTo rest follows with ⟨count, led, remaining⟩
          exact ⟨count, by rw [reading, led, Except.map], remaining⟩
  | call name =>
      cases lists : readArgumentLists tokens with
      | error failure => simp [reading, lists, Except.map] at found
      | ok own =>
          simp only [reading, lists, Except.map, Except.ok.injEq] at found
          subst read
          cases tokens with
          | nil => simp [readArgumentLists] at lists
          | cons opening inside =>
              rcases reads_of_readArgumentLists lists with ⟨taken, counted, reads⟩
              simp only [counted, List.drop_succ_cons, List.take_succ_cons] at follows ⊢
              rcases reads.leadsTo rest follows opening with ⟨count, led, remaining⟩
              exact ⟨count, by rw [List.cons_append, reading, led, Except.map], remaining⟩

/-- The lists hold the same tokens at all places from the first to the last. -/
def AgreeBetween (first last : Nat) (tokens tokens' : List Token) : Prop :=
  ∀ place, first ≤ place → place ≤ last → tokens'[place]? = tokens[place]?

theorem AgreeBetween.drop_eq
    {first count : Nat}
    {tokens tokens' : List Token}
    (agree : AgreeBetween first (first + count) tokens tokens') :
    tokens'.drop first = (tokens.drop first).take count ++ tokens'.drop (first + count) := by
  have same : (tokens'.drop first).take count = (tokens.drop first).take count := by
    apply List.ext_getElem?
    intro index
    rw [List.getElem?_take, List.getElem?_take]
    split
    · rw [List.getElem?_drop, List.getElem?_drop]
      exact agree (first + index) (by omega) (by omega)
    · rfl
  rw [← same, ← List.drop_drop, List.take_append_drop]

/-- A reading that goes on with some tokens has taken what stands before them. -/
theorem LeadsTo.eq_ok
    {Content : Type}
    {outcome : Except UnterminatedCall (Reading Content)}
    {content : Content}
    {taken rest : List Token}
    (leads : LeadsTo outcome content (taken ++ rest) rest)
    (present : rest ≠ []) :
    outcome = .ok ⟨content, taken.length⟩ := by
  rcases leads with ⟨count, rfl, remaining⟩
  have counted := congrArg List.length remaining
  have positive := List.length_pos_iff.mpr present
  simp only [List.length_drop, List.length_append] at counted
  have exact : count = taken.length := by omega
  rw [exact]

namespace Reader

theorem outcomeAt_of_agree
    {task : Task}
    {tokens tokens' : List Token}
    {place final : Nat}
    {node : Option Node}
    (read : outcomeAt task tokens place = (.ok node, final))
    (inside : final < tokens.length)
    (agree : AgreeBetween place final tokens tokens') :
    outcomeAt task tokens' place = (.ok node, final) := by
  rw [outcomeAt_eq] at read
  cases found : task.reading (tokens.drop place) with
  | error failure => simp [found] at read
  | ok own =>
      simp only [found, Prod.mk.injEq, Except.ok.injEq] at read
      obtain ⟨rfl, rfl⟩ := read
      have next : tokens'[place + own.taken]? = tokens[place + own.taken]? :=
        agree _ (Nat.le_add_right _ _) (Nat.le_refl _)
      have follows : (tokens'.drop (place + own.taken)).head? =
          ((tokens.drop place).drop own.taken).head? := by
        rw [List.drop_drop, List.head?_drop, List.head?_drop, next]
      have present : tokens'.drop (place + own.taken) ≠ [] := by
        rw [List.getElem?_eq_getElem inside] at next
        rw [ne_eq, List.drop_eq_nil_iff, Nat.not_le]
        exact (List.getElem?_eq_some_iff.mp next).1
      have taken : ((tokens.drop place).take own.taken).length = own.taken := by
        rw [List.length_take, List.length_drop]
        omega
      rw [outcomeAt_eq, agree.drop_eq, (task.leadsTo found follows).eq_ok present, taken]

/--
The tokens before a reader only shift the places that it reports.  If there is
a token behind what it takes, then it reads the same wherever these tokens and
that one stand at the same places.
-/
theorem reading_local
    (task : Task)
    (tokens : List Token)
    (place : Nat) :
    outcomeAt task tokens place = shifted place (outcomeAt task (tokens.drop place) 0) ∧
      ∀ node final, outcomeAt task tokens place = (.ok node, final) → final < tokens.length →
        ∀ tokens', AgreeBetween place final tokens tokens' →
          outcomeAt task tokens' place = (.ok node, final) := by
  constructor
  · rw [outcomeAt_eq, outcomeAt_eq, List.drop_zero]
    cases task.reading (tokens.drop place) <;> simp [shifted, Except.mapError]
  · intro node final read inside tokens' agree
    exact outcomeAt_of_agree read inside agree

/-- An opening parenthesis in front is not seen, and neither is one behind the next token. -/
theorem reading_local_callBetween :
    outcomeAt .statement
        [⟨.string, "x"⟩, ⟨.identifier, "f"⟩, ⟨.call, "("⟩, ⟨.identifier, "a"⟩, ⟨.call, ")"⟩,
          ⟨.string, "y"⟩] 1 =
        (.ok (some (.call ⟨some "f", [.identifier "a" .absent]⟩ [])), 5) ∧
      outcomeAt .statement
        [⟨.call, "("⟩, ⟨.identifier, "f"⟩, ⟨.call, "("⟩, ⟨.identifier, "a"⟩, ⟨.call, ")"⟩,
          ⟨.string, "y"⟩, ⟨.call, "("⟩] 1 =
        (.ok (some (.call ⟨some "f", [.identifier "a" .absent]⟩ [])), 5) := by
  have read : outcomeAt .statement
      [⟨.string, "x"⟩, ⟨.identifier, "f"⟩, ⟨.call, "("⟩, ⟨.identifier, "a"⟩, ⟨.call, ")"⟩,
        ⟨.string, "y"⟩] 1 =
      (.ok (some (.call ⟨some "f", [.identifier "a" .absent]⟩ [])), 5) := by
    decide +kernel
  refine ⟨read, (reading_local .statement _ 1).2 _ 5 read (by simp) _ ?_⟩
  intro place lower upper
  have between : place = 1 ∨ place = 2 ∨ place = 3 ∨ place = 4 ∨ place = 5 := by omega
  rcases between with rfl | rfl | rfl | rfl | rfl <;> rfl

end Reader

end Hostcall.Node
