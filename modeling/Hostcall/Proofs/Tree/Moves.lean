import Hostcall.Proofs.Tree.Locality

/-!
# Reading by single moves

All that a reader answers can be found out by hand: by asking it about the
token at it and by moving it on over single tokens.  The rules below say how.
They know neither the token list nor how many tokens a reading takes, and they
do not say that a reading comes to an end: the accesses on a name, the
statements of an argument list, the argument lists of a call and the statements
of a program are read one after another until a question is answered otherwise.

Every reading does come to an end, since whatever is read again is read
further on.  It ends in one way only, with what the reader answers when it is
told to read all at once.
-/

namespace Hostcall.Node

/-- A name and what is accessed on it, which is nothing if that was dropped. -/
def owning (name : String) (property : Option Node) : Option Node :=
  some (.identifier name (property.getD .absent))

/-- The call of an argument list, and of those that follow it as a call of their own. -/
def linking (name : Option String) (params : List Node) (child : Option Node) : Option Node :=
  some (.call ⟨name, params⟩ (child.toList.flatMap links))

/-- Where a task ends at the earliest.  Statements and calls take a token in any case. -/
def Task.start : Task → Reader → Reader
  | .statement, reader => reader.moved 1
  | .chain _, reader => reader
  | .call _, reader => reader.moved 1

namespace Reader

/-! ## The rules -/

mutual

/-- How a task ends: with what answer, and where the reader stands afterwards. -/
inductive Ends : Task → Reader → Except UnterminatedCall (Option Node) → Reader → Prop where
  /-- Behind the last token the reader moves on as well. -/
  | beyond {reader}
      (nothing : reader.current = none) :
      Ends .statement reader (.ok none) (reader.moved 1)
  | text {reader value}
      (current : reader.current = some ⟨.string, value⟩) :
      Ends .statement reader (.ok (some (.text value))) (reader.moved 1)
  | skipped {reader token}
      (current : reader.current = some token)
      (delimiting : IsDelimiting token) :
      Ends .statement reader (.ok none) (reader.moved 1)
  | name {reader name answer final}
      (current : reader.current = some ⟨.identifier, name⟩)
      (ends : Ends (.chain name) (reader.moved 1) answer final) :
      Ends .statement reader answer final
  | plain {reader name}
      (noAccess : reader.checkProperty = false)
      (noCall : reader.checkCall "(" = false) :
      Ends (.chain name) reader (.ok (owning name none)) reader
  | called {reader name answer final}
      (noAccess : reader.checkProperty = false)
      (opens : reader.checkCall "(" = true)
      (ends : Ends (.call (some name)) reader answer final) :
      Ends (.chain name) reader answer final
  | access {reader name target answer final}
      (accesses : reader.checkProperty = true)
      (current : (reader.moved 1).current = some ⟨.identifier, target⟩)
      (ends : Ends (.chain target) (reader.moved 2) answer final) :
      Ends (.chain name) reader (answer.map (owning name)) final
  /-- What is accessed and no name is read like a statement, and ends the accesses. -/
  | target {reader name answer final}
      (accesses : reader.checkProperty = true)
      (noName : ∀ target, (reader.moved 1).current ≠ some ⟨.identifier, target⟩)
      (ends : Ends .statement (reader.moved 1) answer final) :
      Ends (.chain name) reader (answer.map (owning name)) final
  /-- The token at the reader counts as the opening parenthesis, whatever it is. -/
  | last {reader name params final}
      (ends : ArgumentsEnd reader.position (reader.moved 1) (.ok params) final)
      (noCall : final.checkCall "(" = false) :
      Ends (.call name) reader (.ok (linking name params none)) final
  | more {reader name params between answer final}
      (ends : ArgumentsEnd reader.position (reader.moved 1) (.ok params) between)
      (opens : between.checkCall "(" = true)
      (others : Ends (.call none) between answer final) :
      Ends (.call name) reader (answer.map (linking name params)) final
  | unclosed {reader name failure final}
      (ends : ArgumentsEnd reader.position (reader.moved 1) (.error failure) final) :
      Ends (.call name) reader (.error failure) final

/-- How the arguments end whose list was opened at the given place. -/
inductive ArgumentsEnd :
    Nat → Reader → Except UnterminatedCall (List Node) → Reader → Prop where
  | closed {opened reader}
      (closes : reader.checkCall ")" = true) :
      ArgumentsEnd opened reader (.ok []) (reader.moved 1)
  | ranOut {opened reader}
      (noClosing : reader.checkCall ")" = false)
      (atEnd : reader.atEnd = true) :
      ArgumentsEnd opened reader (.error ⟨opened, reader.position⟩) reader
  | cons {opened reader node between answer final}
      (noClosing : reader.checkCall ")" = false)
      (present : reader.atEnd = false)
      (first : Ends .statement reader (.ok node) between)
      (others : ArgumentsEnd opened between answer final) :
      ArgumentsEnd opened reader (answer.map (node.toList ++ ·)) final
  | inner {opened reader failure final}
      (noClosing : reader.checkCall ")" = false)
      (present : reader.atEnd = false)
      (first : Ends .statement reader (.error failure) final) :
      ArgumentsEnd opened reader (.error failure) final

end

/-- How all statements that remain end. -/
inductive StatementsEnd : Reader → Except UnterminatedCall (List Node) → Reader → Prop where
  | ranOut {reader}
      (atEnd : reader.atEnd = true) :
      StatementsEnd reader (.ok []) reader
  | cons {reader node between answer final}
      (present : reader.atEnd = false)
      (first : Ends .statement reader (.ok node) between)
      (others : StatementsEnd between answer final) :
      StatementsEnd reader (answer.map (node.toList ++ ·)) final
  | inner {reader failure final}
      (present : reader.atEnd = false)
      (first : Ends .statement reader (.error failure) final) :
      StatementsEnd reader (.error failure) final

/-! ## Readers only move on -/

mutual

theorem Ends.exists_moved
    {task : Task}
    {reader final : Reader}
    {answer : Except UnterminatedCall (Option Node)}
    (ends : Ends task reader answer final) :
    ∃ count, final = (task.start reader).moved count := by
  match ends with
  | .beyond _ => exact ⟨0, rfl⟩
  | .text _ => exact ⟨0, rfl⟩
  | .skipped _ _ => exact ⟨0, rfl⟩
  | .name _ ends => exact ends.exists_moved
  | .plain _ _ => exact ⟨0, rfl⟩
  | .called _ _ ends =>
      rcases ends.exists_moved with ⟨count, rfl⟩
      exact ⟨1 + count, moved_moved _ _ _⟩
  | .access _ _ ends =>
      rcases ends.exists_moved with ⟨count, rfl⟩
      exact ⟨2 + count, moved_moved _ _ _⟩
  | .target _ _ ends =>
      rcases ends.exists_moved with ⟨count, rfl⟩
      exact ⟨2 + count, by simp [Task.start]⟩
  | .last ends _ => exact ends.exists_moved
  | .more ends _ others =>
      rcases ends.exists_moved with ⟨count, next⟩
      rcases others.exists_moved with ⟨further, rfl⟩
      exact ⟨count + 1 + further, by simp [next, Task.start, Nat.add_assoc]⟩
  | .unclosed ends => exact ends.exists_moved
termination_by structural ends

theorem ArgumentsEnd.exists_moved
    {opened : Nat}
    {reader final : Reader}
    {answer : Except UnterminatedCall (List Node)}
    (ends : ArgumentsEnd opened reader answer final) :
    ∃ count, final = reader.moved count := by
  match ends with
  | .closed _ => exact ⟨1, rfl⟩
  | .ranOut _ _ => exact ⟨0, rfl⟩
  | .cons _ _ first others =>
      rcases first.exists_moved with ⟨count, next⟩
      rcases others.exists_moved with ⟨further, rfl⟩
      exact ⟨1 + count + further, by simp [next, Task.start]⟩
  | .inner _ _ first =>
      rcases first.exists_moved with ⟨count, rfl⟩
      exact ⟨1 + count, moved_moved _ _ _⟩
termination_by structural ends

end

/-! ## What the questions ask -/

theorem checkCall_iff
    {reader : Reader}
    {value : String} :
    reader.checkCall value = true ↔ reader.current = some ⟨.call, value⟩ := by
  cases current : reader.current <;> simp [checkCall, current]

theorem checkProperty_iff
    {reader : Reader} :
    reader.checkProperty = true ↔ ∃ value, reader.current = some ⟨.property, value⟩ := by
  cases current : reader.current with
  | none => simp [checkProperty, current]
  | some token =>
      rcases token with ⟨kind, value⟩
      simp [checkProperty, current]

theorem atEnd_iff
    {reader : Reader} :
    reader.atEnd = true ↔ reader.remaining = [] :=
  List.isEmpty_iff

theorem exists_current
    {reader : Reader}
    (present : reader.atEnd = false) :
    ∃ token, reader.current = some token := by
  cases current : reader.current with
  | some token => exact ⟨token, rfl⟩
  | none =>
      have nothing := List.head?_eq_none_iff.mp current
      simp [atEnd, nothing] at present

theorem exists_inside
    {reader : Reader}
    (noClosing : reader.checkCall ")" = false)
    (present : reader.atEnd = false) :
    ∃ token, reader.current = some token ∧ token ≠ ⟨.call, ")"⟩ := by
  rcases exists_current present with ⟨token, current⟩
  refine ⟨token, current, ?_⟩
  rintro rfl
  simp [checkCall_iff.mpr current] at noClosing

/-! ## Every reading ends -/

theorem length_pos_of_current
    {reader : Reader}
    {token : Token}
    (current : reader.current = some token) :
    0 < reader.remaining.length := by
  obtain ⟨following, remaining⟩ := List.head?_eq_some_iff.mp current
  simp [remaining]

/-- What remains behind a statement is less than what remained before it. -/
theorem Ends.length_lt
    {reader final : Reader}
    {answer : Except UnterminatedCall (Option Node)}
    (ends : Ends .statement reader answer final)
    (present : reader.atEnd = false) :
    final.remaining.length < reader.remaining.length := by
  rcases ends.exists_moved with ⟨count, rfl⟩
  rcases exists_current present with ⟨token, current⟩
  have positive := length_pos_of_current current
  simp only [Task.start, remaining_moved, List.length_drop]
  omega

mutual

/-- A task ends, since all that it reads further is read at a place further on. -/
theorem exists_ends
    (task : Task)
    (reader : Reader) :
    ∃ answer final, Ends task reader answer final := by
  match task with
  | .statement =>
      cases current : reader.current with
      | none => exact ⟨_, _, .beyond current⟩
      | some token =>
          rcases token with ⟨kind, value⟩
          cases kind with
          | string => exact ⟨_, _, .text current⟩
          | call => exact ⟨_, _, .skipped current (Or.inl rfl)⟩
          | property => exact ⟨_, _, .skipped current (Or.inr rfl)⟩
          | identifier =>
              have present := length_pos_of_current current
              rcases exists_ends (.chain value) (reader.moved 1) with ⟨_, _, ends⟩
              exact ⟨_, _, .name current ends⟩
  | .chain name =>
      cases accesses : reader.checkProperty with
      | true =>
          rcases checkProperty_iff.mp accesses with ⟨delimiter, delimits⟩
          have present := length_pos_of_current delimits
          by_cases isName : ∃ target, (reader.moved 1).current = some ⟨.identifier, target⟩
          · rcases isName with ⟨target, current⟩
            rcases exists_ends (.chain target) (reader.moved 2) with ⟨_, _, ends⟩
            exact ⟨_, _, .access accesses current ends⟩
          · rcases exists_ends .statement (reader.moved 1) with ⟨_, _, ends⟩
            exact ⟨_, _, .target accesses (not_exists.mp isName) ends⟩
      | false =>
          cases opens : reader.checkCall "(" with
          | false => exact ⟨_, _, .plain accesses opens⟩
          | true =>
              rcases exists_ends (.call (some name)) reader with ⟨_, _, ends⟩
              exact ⟨_, _, .called accesses opens ends⟩
  | .call name =>
      rcases exists_argumentsEnd reader.position (reader.moved 1) with ⟨answer, between, ends⟩
      cases answer with
      | error failure => exact ⟨_, _, .unclosed ends⟩
      | ok params =>
          cases opens : between.checkCall "(" with
          | false => exact ⟨_, _, .last ends opens⟩
          | true =>
              have present := length_pos_of_current (checkCall_iff.mp opens)
              have shorter : between.remaining.length < reader.remaining.length := by
                rcases ends.exists_moved with ⟨count, rfl⟩
                simp only [remaining_moved, List.length_drop] at present ⊢
                omega
              rcases exists_ends (.call none) between with ⟨_, _, others⟩
              exact ⟨_, _, .more ends opens others⟩
-- a name may become a call where it stands, and a call behind all tokens its arguments
termination_by 4 * reader.remaining.length + match task with
  | .statement => 0
  | .call _ => 2
  | .chain _ => 3

theorem exists_argumentsEnd
    (opened : Nat)
    (reader : Reader) :
    ∃ answer final, ArgumentsEnd opened reader answer final := by
  cases closes : reader.checkCall ")" with
  | true => exact ⟨_, _, .closed closes⟩
  | false =>
      cases atEnd : reader.atEnd with
      | true => exact ⟨_, _, .ranOut closes atEnd⟩
      | false =>
          rcases exists_ends .statement reader with ⟨answer, between, first⟩
          cases answer with
          | error failure => exact ⟨_, _, .inner closes atEnd first⟩
          | ok node =>
              have shorter := first.length_lt atEnd
              rcases exists_argumentsEnd opened between with ⟨_, _, others⟩
              exact ⟨_, _, .cons closes atEnd first others⟩
termination_by 4 * reader.remaining.length + 1

end

theorem exists_statementsEnd
    (reader : Reader) :
    ∃ answer final, StatementsEnd reader answer final := by
  cases atEnd : reader.atEnd with
  | true => exact ⟨_, _, .ranOut atEnd⟩
  | false =>
      rcases exists_ends .statement reader with ⟨answer, between, first⟩
      cases answer with
      | error failure => exact ⟨_, _, .inner atEnd first⟩
      | ok node =>
          have shorter := first.length_lt atEnd
          rcases exists_statementsEnd between with ⟨_, _, others⟩
          exact ⟨_, _, .cons atEnd first others⟩
termination_by reader.remaining.length

/-! ## What a reader reads at once -/

/-- The same outcome with another content. -/
def onContent
    {Content Other : Type}
    (change : Content → Other)
    (outcome : Except UnterminatedCall Content × Reader) :
    Except UnterminatedCall Other × Reader :=
  (outcome.1.map change, outcome.2)

theorem perform_statement
    (reader : Reader) :
    reader.perform .statement =
      match reader.current with
      | none => (.ok none, reader.moved 1)
      | some token =>
          match token.kind with
          | .string => (.ok (some (.text token.value)), reader.moved 1)
          | .identifier => (reader.moved 1).perform (.chain token.value)
          | .call => (.ok none, reader.moved 1)
          | .property => (.ok none, reader.moved 1) := by
  rcases reader with ⟨position, remaining⟩
  cases remaining with
  | nil => rfl
  | cons token following =>
      rcases token with ⟨kind, value⟩
      simp only [perform_eq_settle, current, List.head?_cons, Task.reading]
      cases kind with
      | string => simp [settle]
      | call => simp [settle]
      | property => simp [settle]
      | identifier =>
          simp only [readStatement_identifier, remaining_moved, List.drop_succ_cons, List.drop_zero]
          cases Node.readName value following <;>
            simp [settle, Except.map, UnterminatedCall.shift, Nat.add_assoc]

theorem remaining_of_current
    {reader : Reader}
    {token : Token}
    (current : reader.current = some token) :
    reader.remaining = token :: (reader.moved 1).remaining := by
  obtain ⟨following, remaining⟩ := List.head?_eq_some_iff.mp current
  simp [remaining]

theorem perform_chain_of_endsChain
    {reader : Reader}
    (ends : EndsChain reader.current)
    (name : String) :
    reader.perform (.chain name) = (.ok (owning name none), reader) := by
  rw [perform_eq_settle, Task.reading, readName_of_endsChain ends]
  rfl

theorem perform_chain_of_opening
    {reader : Reader}
    (opens : reader.current = some ⟨.call, "("⟩)
    (name : String) :
    reader.perform (.chain name) = reader.perform (.call (some name)) := by
  rw [perform_eq_settle, perform_eq_settle, Task.reading, Task.reading, remaining_of_current opens,
    readName_opening]
  cases readArgumentLists _ <;> rfl

theorem perform_chain_of_name
    {reader : Reader}
    {delimiter target : String}
    (accesses : reader.current = some ⟨.property, delimiter⟩)
    (current : (reader.moved 1).current = some ⟨.identifier, target⟩)
    (name : String) :
    reader.perform (.chain name) =
      onContent (owning name) ((reader.moved 2).perform (.chain target)) := by
  have remaining := remaining_of_current accesses
  rw [remaining_of_current current, moved_moved] at remaining
  rw [perform_eq_settle, perform_eq_settle, Task.reading, Task.reading, remaining,
    readName_identifier]
  cases Node.readName target (reader.moved 2).remaining <;>
    simp [settle, onContent, owning, Except.map, UnterminatedCall.shift, Nat.add_assoc]

/-- What is accessed and no name is read like a statement. -/
theorem perform_chain_of_target
    {reader : Reader}
    {delimiter : String}
    (accesses : reader.current = some ⟨.property, delimiter⟩)
    (noName : ∀ target, (reader.moved 1).current ≠ some ⟨.identifier, target⟩)
    (name : String) :
    reader.perform (.chain name) =
      onContent (owning name) ((reader.moved 1).perform .statement) := by
  have remaining := remaining_of_current accesses
  rw [perform_eq_settle, Task.reading, perform_statement]
  cases current : (reader.moved 1).current with
  | none =>
      rw [remaining, List.head?_eq_none_iff.mp current, readName_dangling]
      simp [settle, onContent, owning, Except.map]
  | some target =>
      rw [remaining, remaining_of_current current]
      rcases target with ⟨kind, value⟩
      cases kind with
      | identifier => exact absurd current (noName value)
      | string => simp [settle, onContent, owning, Except.map]
      | call =>
          rw [readName_of_isDelimiting (Or.inl rfl)]
          simp [settle, onContent, owning, Except.map]
      | property =>
          rw [readName_of_isDelimiting (Or.inr rfl)]
          simp [settle, onContent, owning, Except.map]

/--
Read arguments that begin the given number of tokens behind the reader.  Their
list was opened where the reader stands.
-/
def readArguments (reader : Reader) (distance : Nat) :
    Except UnterminatedCall (List Node) × Reader :=
  reader.settle ((Node.readArguments distance (reader.remaining.drop distance)).map
    fun read => ⟨read.content, distance + read.taken⟩)

theorem readArguments_of_closing
    {reader : Reader}
    {distance : Nat}
    (closes : (reader.moved distance).current = some ⟨.call, ")"⟩) :
    reader.readArguments distance = (.ok [], (reader.moved distance).moved 1) := by
  have remaining := remaining_of_current closes
  rw [remaining_moved] at remaining
  rw [readArguments, remaining, readArguments_closing, moved_moved]
  rfl

theorem readArguments_of_atEnd
    {reader : Reader}
    {distance : Nat}
    (atEnd : (reader.moved distance).remaining = []) :
    reader.readArguments distance =
      (.error ⟨reader.position, (reader.moved distance).position⟩, reader.moved distance) := by
  rw [remaining_moved] at atEnd
  rw [readArguments, atEnd, readArguments_nil]
  rfl

theorem readArguments_inside
    {reader : Reader}
    {distance : Nat}
    {token : Token}
    (current : (reader.moved distance).current = some token)
    (inside : token ≠ ⟨.call, ")"⟩) :
    reader.readArguments distance =
      match (reader.moved distance).perform .statement with
      | (.error failure, final) => (.error failure, final)
      | (.ok node, between) =>
          onContent (node.toList ++ ·)
            (reader.readArguments (between.position - reader.position)) := by
  have remaining := remaining_of_current current
  rw [perform_eq_settle, remaining, Task.reading]
  rw [remaining_moved] at remaining
  rw [readArguments, remaining, readArguments_of_inside inside]
  cases Node.readStatement token ((reader.moved distance).moved 1).remaining with
  | error failure => simp [settle, Except.map, UnterminatedCall.shift, Nat.add_assoc]
  | ok read =>
      have behind : ((reader.moved distance).moved 1).remaining.drop read.taken =
          reader.remaining.drop (distance + 1 + read.taken) := by
        simp
      have count : reader.position + distance + (1 + read.taken) - reader.position =
          distance + 1 + read.taken := by
        omega
      simp only [settle, position_moved, count, behind, readArguments]
      cases Node.readArguments (distance + 1 + read.taken)
          (reader.remaining.drop (distance + 1 + read.taken)) <;>
        simp [onContent, Except.map, Nat.add_assoc]

theorem perform_call
    (reader : Reader)
    (name : Option String) :
    reader.perform (.call name) =
      match reader.readArguments 1 with
      | (.error failure, final) => (.error failure, final)
      | (.ok params, between) =>
          if between.checkCall "(" then
            onContent (linking name params) (between.perform (.call none))
          else
            (.ok (linking name params none), between) := by
  rw [perform_eq_settle, Task.reading, readArguments, List.drop_one]
  cases found : Node.readArguments 1 reader.remaining.tail with
  | error failure =>
      rw [readArgumentLists, found]
      rfl
  | ok first =>
      cases remaining : reader.remaining with
      | nil => simp [remaining] at found
      | cons opening inside =>
          rw [remaining, List.tail_cons] at found
          have behind : (reader.moved (1 + first.taken)).remaining = inside.drop first.taken := by
            simp [remaining, Nat.add_comm 1]
          simp only [Except.map, settle]
          by_cases opens : (reader.moved (1 + first.taken)).current = some ⟨.call, "("⟩
          · obtain ⟨others, next⟩ : ∃ others, inside.drop first.taken = ⟨.call, "("⟩ :: others :=
              ⟨_, behind.symm.trans (remaining_of_current opens)⟩
            rw [if_pos (checkCall_iff.mpr opens), perform_eq_settle, Task.reading, behind, next,
              readArgumentLists_of_more found next opening]
            cases readArgumentLists (⟨.call, "("⟩ :: others) <;>
              simp [settle, onContent, Except.map, linking, ofArgumentLists, links,
                UnterminatedCall.shift, Nat.add_assoc]
          · rw [if_neg (mt checkCall_iff.mp opens)]
            rw [current, behind] at opens
            rw [readArgumentLists_of_last found opens opening]
            rfl

theorem readStatements_of_current
    {reader : Reader}
    {token : Token}
    (current : reader.current = some token) :
    reader.readStatements =
      match reader.perform .statement with
      | (.error failure, final) => (.error failure, final)
      | (.ok node, between) => onContent (node.toList ++ ·) between.readStatements := by
  rw [perform_eq_settle, readStatements, remaining_of_current current, Task.reading,
    Node.readStatements]
  cases Node.readStatement token (reader.moved 1).remaining with
  | error failure => rfl
  | ok read =>
      have behind : (reader.moved 1).remaining.drop read.taken =
          (reader.moved (1 + read.taken)).remaining := by
        rw [remaining_moved, remaining_moved, List.drop_drop]
      simp only [settle, readStatements, behind]
      cases Node.readStatements (reader.moved (1 + read.taken)).remaining <;>
        simp [onContent, Except.map, UnterminatedCall.shift, Nat.add_assoc]

/-! ## The rules agree with the reader -/

theorem endsChain_current
    {reader : Reader}
    (noAccess : reader.checkProperty = false)
    (noCall : reader.checkCall "(" = false) :
    EndsChain reader.current := by
  constructor
  · intro opens
    simp [checkCall_iff.mpr opens] at noCall
  · rintro ⟨kind, value⟩ current rfl
    simp [checkProperty_iff.mpr ⟨value, current⟩] at noAccess

mutual

theorem Ends.perform_eq
    {task : Task}
    {reader final : Reader}
    {answer : Except UnterminatedCall (Option Node)}
    (ends : Ends task reader answer final) :
    reader.perform task = (answer, final) := by
  match ends with
  | .beyond nothing => rw [perform_statement, nothing]
  | .text current => rw [perform_statement, current]
  | .skipped current delimiting =>
      rw [perform_statement, current]
      rcases delimiting with call | property
      · simp [call]
      · simp [property]
  | .name current ends =>
      rw [perform_statement, current]
      exact ends.perform_eq
  | .plain noAccess noCall =>
      exact perform_chain_of_endsChain (endsChain_current noAccess noCall) _
  | .called _ opens ends =>
      rw [perform_chain_of_opening (checkCall_iff.mp opens)]
      exact ends.perform_eq
  | .access accesses current ends =>
      rcases checkProperty_iff.mp accesses with ⟨delimiter, delimits⟩
      rw [perform_chain_of_name delimits current, ends.perform_eq]
      rfl
  | .target accesses noName ends =>
      rcases checkProperty_iff.mp accesses with ⟨delimiter, delimits⟩
      rw [perform_chain_of_target delimits noName, ends.perform_eq]
      rfl
  | .last ends noCall =>
      rw [perform_call, ends.readArguments_eq rfl rfl]
      simp [noCall]
  | .more ends opens others =>
      rw [perform_call, ends.readArguments_eq rfl rfl]
      simp [opens, others.perform_eq, onContent]
  | .unclosed ends => rw [perform_call, ends.readArguments_eq rfl rfl]
termination_by structural ends

theorem ArgumentsEnd.readArguments_eq
    {opened distance : Nat}
    {reader start final : Reader}
    {answer : Except UnterminatedCall (List Node)}
    (ends : ArgumentsEnd opened start answer final)
    (opens : opened = reader.position)
    (begins : start = reader.moved distance) :
    reader.readArguments distance = (answer, final) := by
  match ends with
  | .closed closes =>
      subst begins
      exact readArguments_of_closing (checkCall_iff.mp closes)
  | .ranOut _ atEnd =>
      subst opens begins
      exact readArguments_of_atEnd (atEnd_iff.mp atEnd)
  | @ArgumentsEnd.cons _ _ _ between _ _ noClosing present first others =>
      rcases exists_inside noClosing present with ⟨token, current, inside⟩
      rcases first.exists_moved with ⟨count, next⟩
      -- the other arguments begin where the statement ends, counted from the same parenthesis
      have moved : between = reader.moved (distance + 1 + count) := by
        simp [next, begins, Task.start]
      have found := first.perform_eq
      have rest := others.readArguments_eq opens moved
      have behind : between.position - reader.position = distance + 1 + count := by
        simp [moved]
      rw [begins] at current found
      rw [readArguments_inside current inside, found]
      simp only [behind, rest]
      rfl
  | .inner noClosing present first =>
      rcases exists_inside noClosing present with ⟨token, current, inside⟩
      have found := first.perform_eq
      rw [begins] at current found
      rw [readArguments_inside current inside, found]
termination_by structural ends

end

theorem StatementsEnd.readStatements_eq
    {reader final : Reader}
    {answer : Except UnterminatedCall (List Node)}
    (ends : StatementsEnd reader answer final) :
    reader.readStatements = (answer, final) := by
  induction ends with
  | ranOut atEnd =>
      rw [readStatements, atEnd_iff.mp atEnd, Node.readStatements]
      rfl
  | cons present first _ inductionHypothesis =>
      rcases exists_current present with ⟨token, current⟩
      rw [readStatements_of_current current, first.perform_eq]
      simp only [inductionHypothesis]
      rfl
  | inner present first =>
      rcases exists_current present with ⟨token, current⟩
      rw [readStatements_of_current current, first.perform_eq]

/-- A task ends by single moves exactly as the reader says when it performs it at once. -/
theorem ends_iff
    {task : Task}
    {reader final : Reader}
    {answer : Except UnterminatedCall (Option Node)} :
    Ends task reader answer final ↔ reader.perform task = (answer, final) := by
  constructor
  · exact Ends.perform_eq
  · intro performed
    rcases exists_ends task reader with ⟨own, reached, ends⟩
    cases ends.perform_eq.symm.trans performed
    exact ends

theorem statementsEnd_iff
    {reader final : Reader}
    {answer : Except UnterminatedCall (List Node)} :
    StatementsEnd reader answer final ↔ reader.readStatements = (answer, final) := by
  constructor
  · exact StatementsEnd.readStatements_eq
  · intro read
    rcases exists_statementsEnd reader with ⟨own, reached, ends⟩
    cases ends.readStatements_eq.symm.trans read
    exact ends

theorem ends_perform
    (reader : Reader)
    (task : Task) :
    Ends task reader (reader.perform task).1 (reader.perform task).2 :=
  ends_iff.mpr rfl

theorem statementsEnd_readStatements
    (reader : Reader) :
    StatementsEnd reader reader.readStatements.1 reader.readStatements.2 :=
  statementsEnd_iff.mpr rfl

end Reader

end Hostcall.Node
