import Hostcall.Proofs.Tree.Moves
import Mathlib.Data.Nat.Basic
import Mathlib.Order.Basic

/-!
# Progress of reading

Wherever a reader stands in a token list, what it is told to read comes to an
end, and a statement or a call takes it at least one token further.  It stops
behind what it has read, at the end of the tokens at the latest.  There are
two ways to go one place beyond that end: to begin behind the last token, and
to meet an access delimiter that is the last token.

A reading that fails has gone through all tokens.  The parenthesis that it
complains about lies between where it began and the end.

All of this is read off the rules.  Both bounds on the place that is reached
are the same fact, stated for two limits.
-/

namespace Hostcall.Node

/-- The last token is an access delimiter. -/
def EndsInAccess (tokens : List Token) : Prop :=
  ∃ token ∈ tokens.getLast?, token.kind = .property

/--
A place that readings do not go beyond: one place behind the end of the
tokens, or the end itself if no access delimiter stands before it.
-/
structure IsLimit (tokens : List Token) (limit : Nat) : Prop where
  length_le : tokens.length ≤ limit
  le_succ : limit ≤ tokens.length + 1
  accessed : EndsInAccess tokens → limit = tokens.length + 1

theorem isLimit_succ
    (tokens : List Token) :
    IsLimit tokens (tokens.length + 1) :=
  ⟨Nat.le_succ _, Nat.le_refl _, fun _ => rfl⟩

theorem isLimit_length
    {tokens : List Token}
    (noAccess : ¬EndsInAccess tokens) :
    IsLimit tokens tokens.length :=
  ⟨Nat.le_refl _, Nat.le_succ _, fun access => absurd access noAccess⟩

namespace Reader

/-! ## Readers of a token list -/

/-- What remains at the reader is what the tokens have from its position on. -/
def Reads (tokens : List Token) (reader : Reader) : Prop :=
  reader.remaining = tokens.drop reader.position

variable {tokens : List Token} {reader final : Reader} {limit opened : Nat}

theorem reads_moved_ofTokens
    (tokens : List Token)
    (place : Nat) :
    Reads tokens ((ofTokens tokens).moved place) := by
  simp [Reads, ofTokens]

theorem Reads.moved
    (reads : Reads tokens reader)
    (count : Nat) :
    Reads tokens (reader.moved count) := by
  rw [Reads, remaining_moved, reads, List.drop_drop, position_moved]

theorem Reads.current_eq
    (reads : Reads tokens reader) :
    reader.current = tokens[reader.position]? := by
  rw [current, reads, List.head?_drop]

theorem Reads.position_lt
    {token : Token}
    (reads : Reads tokens reader)
    (current : reader.current = some token) :
    reader.position < tokens.length := by
  rw [reads.current_eq] at current
  exact (List.getElem?_eq_some_iff.mp current).1

theorem Reads.length_le
    (reads : Reads tokens reader)
    (atEnd : reader.atEnd = true) :
    tokens.length ≤ reader.position :=
  List.drop_eq_nil_iff.mp (reads.symm.trans (atEnd_iff.mp atEnd))

theorem Reads.succ_le_of_current
    {token : Token}
    (reads : Reads tokens reader)
    (limited : IsLimit tokens limit)
    (current : reader.current = some token) :
    reader.position + 1 ≤ limit :=
  (reads.position_lt current).trans_le limited.length_le

theorem Reads.succ_le
    (reads : Reads tokens reader)
    (limited : IsLimit tokens limit)
    (present : reader.atEnd = false) :
    reader.position + 1 ≤ limit := by
  rcases exists_current present with ⟨token, current⟩
  exact reads.succ_le_of_current limited current

/-- There is room behind a delimiter for what it takes, also if the delimiter is the last token. -/
theorem Reads.access_le
    (reads : Reads tokens reader)
    (limited : IsLimit tokens limit)
    (accesses : reader.checkProperty = true) :
    reader.position + 2 ≤ limit := by
  rcases checkProperty_iff.mp accesses with ⟨delimiter, current⟩
  have inside := reads.position_lt current
  by_cases last : reader.position + 1 = tokens.length
  -- what the last token takes counts as one place behind the end
  · have access : EndsInAccess tokens := by
      refine ⟨⟨.property, delimiter⟩, ?_, rfl⟩
      rw [reads.current_eq] at current
      rw [List.getLast?_eq_getElem?, ← last]
      exact current
    have := limited.accessed access
    omega
  · have := limited.length_le
    omega

section

variable {task : Task} {answer : Except UnterminatedCall (Option Node)}
  {arguments : Except UnterminatedCall (List Node)}

theorem Ends.position_le
    (ends : Ends task reader answer final) :
    (task.start reader).position ≤ final.position := by
  rcases ends.exists_moved with ⟨count, rfl⟩
  exact Nat.le_add_right _ _

theorem ArgumentsEnd.position_le
    (ends : ArgumentsEnd opened reader arguments final) :
    reader.position ≤ final.position := by
  rcases ends.exists_moved with ⟨count, rfl⟩
  exact Nat.le_add_right _ _

theorem Ends.reads
    (ends : Ends task reader answer final)
    (reads : Reads tokens reader) :
    Reads tokens final := by
  rcases ends.exists_moved with ⟨count, rfl⟩
  cases task with
  | statement => exact (reads.moved 1).moved count
  | chain name => exact reads.moved count
  | call name => exact (reads.moved 1).moved count

theorem ArgumentsEnd.reads
    (ends : ArgumentsEnd opened reader arguments final)
    (reads : Reads tokens reader) :
    Reads tokens final := by
  rcases ends.exists_moved with ⟨count, rfl⟩
  exact reads.moved count

end

/-! ## Bounds on what is reached -/

/--
The outcome stays within the limit.  If it is a failure, then no token remains
and it complains about a place from `opened` on.
-/
structure Bounded
    {Content : Type}
    (tokens : List Token)
    (limit opened : Nat)
    (answer : Except UnterminatedCall Content)
    (final : Reader) : Prop where
  position_le : final.position ≤ limit
  failed : ∀ failure, answer = .error failure →
    tokens.length ≤ final.position ∧ opened ≤ failure.opened ∧ failure.opened ≤ tokens.length

section

variable {Content Other : Type}

theorem Bounded.ok
    (position_le : final.position ≤ limit)
    (content : Content) :
    Bounded tokens limit opened (.ok content) final :=
  ⟨position_le, by simp⟩

theorem Bounded.map
    {answer : Except UnterminatedCall Content}
    (bounded : Bounded tokens limit opened answer final)
    (change : Content → Other) :
    Bounded tokens limit opened (answer.map change) final := by
  refine ⟨bounded.position_le, ?_⟩
  intro failure failed
  cases answer with
  | ok content => cases failed
  | error own =>
      cases failed
      exact bounded.failed failure rfl

theorem Bounded.error
    {failure : UnterminatedCall}
    (bounded : Bounded tokens limit opened (.error failure : Except _ Content) final) :
    Bounded tokens limit opened (.error failure : Except _ Other) final := by
  refine ⟨bounded.position_le, ?_⟩
  rintro _ ⟨⟩
  exact bounded.failed failure rfl

theorem Bounded.weaken
    {answer : Except UnterminatedCall Content}
    {before : Nat}
    (bounded : Bounded tokens limit opened answer final)
    (le : before ≤ opened) :
    Bounded tokens limit before answer final := by
  refine ⟨bounded.position_le, ?_⟩
  intro failure failed
  rcases bounded.failed failure failed with ⟨atEnd, lower, upper⟩
  exact ⟨atEnd, le.trans lower, upper⟩

end

mutual

/-- A task that can end within the limit does so, by induction on the rules. -/
theorem Ends.bounded
    {task : Task}
    {reader final : Reader}
    {answer : Except UnterminatedCall (Option Node)}
    (ends : Ends task reader answer final)
    (limited : IsLimit tokens limit)
    (reads : Reads tokens reader)
    (starts : (task.start reader).position ≤ limit) :
    Bounded tokens limit reader.position answer final := by
  match ends with
  | .beyond _ => exact .ok starts _
  | .text _ => exact .ok starts _
  | .skipped _ _ => exact .ok starts _
  | .name _ ends =>
      exact (ends.bounded limited (reads.moved 1) starts).weaken (Nat.le_succ _)
  | .plain _ _ => exact .ok starts _
  | .called _ opens ends =>
      exact ends.bounded limited reads (reads.succ_le_of_current limited (checkCall_iff.mp opens))
  | .access accesses _ ends =>
      have room := reads.access_le limited accesses
      exact ((ends.bounded limited (reads.moved 2) room).weaken (Nat.le_add_right _ _)).map _
  | .target accesses _ ends =>
      have room := reads.access_le limited accesses
      exact ((ends.bounded limited (reads.moved 1) room).weaken (Nat.le_succ _)).map _
  | .last ends _ =>
      exact .ok (ends.bounded limited (reads.moved 1) starts (Nat.lt_succ_self _)).position_le _
  | .more ends opens others =>
      have next := ends.reads (reads.moved 1)
      have starts := next.succ_le_of_current limited (checkCall_iff.mp opens)
      have before : reader.position ≤ _ := (Nat.le_succ _).trans ends.position_le
      exact ((others.bounded limited next starts).weaken before).map _
  | .unclosed ends =>
      exact (ends.bounded limited (reads.moved 1) starts (Nat.lt_succ_self _)).error
termination_by structural ends

theorem ArgumentsEnd.bounded
    {opened : Nat}
    {reader final : Reader}
    {answer : Except UnterminatedCall (List Node)}
    (ends : ArgumentsEnd opened reader answer final)
    (limited : IsLimit tokens limit)
    (reads : Reads tokens reader)
    (starts : reader.position ≤ limit)
    (behind : opened < reader.position) :
    Bounded tokens limit opened answer final := by
  match ends with
  | .closed closes =>
      exact .ok (reads.succ_le_of_current limited (checkCall_iff.mp closes)) _
  | .ranOut _ atEnd =>
      refine ⟨starts, ?_⟩
      rintro _ ⟨⟩
      have := limited.le_succ
      exact ⟨reads.length_le atEnd, Nat.le_refl _, by dsimp only; omega⟩
  | .cons _ present first others =>
      have starts := reads.succ_le limited present
      have further := (first.bounded limited reads starts).position_le
      have before := behind.trans first.position_le
      exact (others.bounded limited (first.reads reads) further before).map _
  | .inner _ present first =>
      have starts := reads.succ_le limited present
      exact ((first.bounded limited reads starts).weaken behind.le).error
termination_by structural ends

end

/-- Reading all statements does not stop before the end of the tokens. -/
theorem StatementsEnd.bounded
    {answer : Except UnterminatedCall (List Node)}
    (ends : StatementsEnd reader answer final)
    (limited : IsLimit tokens limit)
    (reads : Reads tokens reader)
    (starts : reader.position ≤ limit) :
    Bounded tokens limit reader.position answer final ∧ tokens.length ≤ final.position := by
  induction ends with
  | ranOut atEnd => exact ⟨.ok starts _, reads.length_le atEnd⟩
  | cons present first _ inductionHypothesis =>
      have starts := reads.succ_le limited present
      have further := (first.bounded limited reads starts).position_le
      rcases inductionHypothesis (first.reads reads) further with ⟨bounded, atEnd⟩
      exact ⟨(bounded.weaken ((Nat.le_succ _).trans first.position_le)).map _, atEnd⟩
  | inner present first =>
      have starts := reads.succ_le limited present
      have bounded := first.bounded limited reads starts
      exact ⟨bounded.error, (bounded.failed _ rfl).1⟩

/-! ## Progress -/

theorem lt_position_perform
    {task : Task}
    (noChain : ∀ name, task ≠ .chain name)
    (reader : Reader) :
    reader.position < (reader.perform task).2.position := by
  have moved := (ends_perform reader task).position_le
  cases task with
  | statement => exact moved
  | chain name => exact absurd rfl (noChain name)
  | call name => exact moved

theorem bounded_perform
    (reads : Reads tokens reader)
    (inside : reader.position ≤ tokens.length)
    (task : Task) :
    Bounded tokens (tokens.length + 1) reader.position
      (reader.perform task).1 (reader.perform task).2 := by
  have starts : (task.start reader).position ≤ tokens.length + 1 := by
    cases task <;> simp only [Task.start, position_moved] <;> omega
  exact (ends_perform reader task).bounded (isLimit_succ tokens) reads starts

/-- Without an access delimiter at the end the end itself is the limit. -/
theorem endsInAccess_of_beyond
    (reads : Reads tokens reader)
    (before : reader.position < tokens.length)
    (beyond : (reader.perform .statement).2.position = tokens.length + 1) :
    EndsInAccess tokens := by
  by_contra noAccess
  have bounded := (ends_perform reader .statement).bounded (isLimit_length noAccess) reads before
  have := bounded.position_le
  omega

theorem bounded_readStatements
    (reads : Reads tokens reader)
    (inside : reader.position ≤ tokens.length) :
    Bounded tokens (tokens.length + 1) reader.position
        reader.readStatements.1 reader.readStatements.2 ∧
      tokens.length ≤ reader.readStatements.2.position :=
  (statementsEnd_readStatements reader).bounded (isLimit_succ tokens) reads
    (inside.trans (Nat.le_succ _))

/-- The reader stands at the end of the tokens, or one place behind it. -/
def AtEndOf (tokens : List Token) (reader : Reader) : Prop :=
  reader.position = tokens.length ∨ reader.position = tokens.length + 1

theorem atEndOf_iff :
    AtEndOf tokens reader ↔
      tokens.length ≤ reader.position ∧ reader.position ≤ tokens.length + 1 := by
  rw [AtEndOf]
  omega

/--
If the outcome is a failure, then the reader stands at the end of the tokens,
and the failure is about a place between the given one and the end.
-/
def FailsAtEnd
    {Content : Type}
    (tokens : List Token)
    (place : Nat)
    (outcome : Except UnterminatedCall Content × Reader) : Prop :=
  ∀ failure, outcome.1 = .error failure →
    AtEndOf tokens outcome.2 ∧ place ≤ failure.opened ∧ failure.opened ≤ tokens.length

theorem Bounded.failsAtEnd
    {Content : Type}
    {place : Nat}
    {outcome : Except UnterminatedCall Content × Reader}
    (bounded : Bounded tokens (tokens.length + 1) place outcome.1 outcome.2) :
    FailsAtEnd tokens place outcome := by
  intro failure failed
  rcases bounded.failed failure failed with ⟨atEnd, inside⟩
  exact ⟨atEndOf_iff.mpr ⟨atEnd, bounded.position_le⟩, inside⟩

/--
Reading from a place inside the tokens ends, in one way only and with what the
reader answers, at most one place beyond the end of the tokens.  A statement
or a call moves the reader on.  A statement that begins before the end goes
beyond it only if the last token is an access delimiter.  Reading all
statements ends where the tokens do, and so does all that fails.
-/
theorem reading_progresses
    (tokens : List Token)
    (place : Nat)
    (inside : place ≤ tokens.length) :
    let reader := (ofTokens tokens).moved place
    (∀ task,
      (∀ answer final, Ends task reader answer final ↔ reader.perform task = (answer, final)) ∧
        ((∀ name, task ≠ .chain name) → place < (reader.perform task).2.position) ∧
        (reader.perform task).2.position ≤ tokens.length + 1 ∧
        FailsAtEnd tokens place (reader.perform task)) ∧
      (place < tokens.length →
        (reader.perform .statement).2.position = tokens.length + 1 → EndsInAccess tokens) ∧
      (∀ answer final,
        StatementsEnd reader answer final ↔ reader.readStatements = (answer, final)) ∧
      AtEndOf tokens reader.readStatements.2 ∧
      FailsAtEnd tokens place reader.readStatements := by
  intro reader
  have reads : Reads tokens reader := reads_moved_ofTokens tokens place
  have position : reader.position = place := Nat.zero_add place
  -- nothing else matters of how the reader got there
  clear_value reader
  subst position
  rcases bounded_readStatements reads inside with ⟨bounded, atEnd⟩
  refine ⟨?_, endsInAccess_of_beyond reads, fun _ _ => statementsEnd_iff,
    atEndOf_iff.mpr ⟨atEnd, bounded.position_le⟩, bounded.failsAtEnd⟩
  intro task
  have bounded := bounded_perform reads inside task
  exact ⟨fun _ _ => ends_iff, fun noChain => lt_position_perform noChain reader,
    bounded.position_le, bounded.failsAtEnd⟩

/-- The last token takes the reader beyond the end, and no parenthesis closes the list. -/
theorem reading_progresses_danglingDelimiter :
    let tokens : List Token :=
      [⟨.string, "x"⟩, ⟨.identifier, "f"⟩, ⟨.call, "("⟩, ⟨.identifier, "a"⟩, ⟨.property, "."⟩]
    let reader := (ofTokens tokens).moved 1
    1 < tokens.length ∧ reader.perform .statement = (.error ⟨2, 6⟩, ⟨6, []⟩) ∧
      EndsInAccess tokens ∧ FailsAtEnd tokens 1 (reader.perform .statement) := by
  intro tokens reader
  have read : reader.perform .statement = (.error ⟨2, 6⟩, ⟨6, []⟩) := by
    decide +kernel
  have progress := reading_progresses tokens 1 (by decide)
  exact ⟨by decide, read, progress.2.1 (by decide) (congrArg (·.2.position) read),
    (progress.1 .statement).2.2.2⟩

end Reader

end Hostcall.Node
