import Hostcall.Tree.Reading

/-!
# Derivations of readings

A derivation says which tokens a reading takes and what it makes of them.  The
only thing that it knows about the tokens behind is the first of them: whether
a name or an argument list goes on depends on that one token.

The reader succeeds exactly where there is a derivation.  What the reader skips,
drops or takes can therefore be followed rule by rule, without offsets and
without the tokens that remain.  In particular a reading that ended with the
tokens ends as well before a token that continues no chain, if no delimiter is
left to take that token.
-/

namespace Hostcall.Node

/-! ## Derivations -/

mutual

/-- A token begins a statement, which takes the given tokens behind it. -/
inductive ReadsStatement : Token → List Token → Option Node → Option Token → Prop where
  | text {value next} :
      ReadsStatement ⟨.string, value⟩ [] (some (.text value)) next
  | name {name taken node next}
      (reads : ReadsName name taken node next) :
      ReadsStatement ⟨.identifier, name⟩ taken (some node) next
  /-- A token that begins no statement is skipped. -/
  | skipped {token next}
      (delimiting : IsDelimiting token) :
      ReadsStatement token [] none next

/-- A name takes the given tokens behind it. -/
inductive ReadsName : String → List Token → Node → Option Token → Prop where
  | plain {name next}
      (ends : EndsChain next) :
      ReadsName name [] (.identifier name .absent) next
  /-- A delimiter at the end of the tokens. -/
  | dangling {name delimiter} :
      ReadsName name [⟨.property, delimiter⟩] (.identifier name .absent) none
  /-- A delimiter takes the token behind it even when that is dropped. -/
  | dropped {name delimiter target next}
      (delimiting : IsDelimiting target) :
      ReadsName name [⟨.property, delimiter⟩, target] (.identifier name .absent) next
  | text {name delimiter value next} :
      ReadsName name [⟨.property, delimiter⟩, ⟨.string, value⟩]
        (.identifier name (.text value)) next
  | access {name delimiter target taken property next}
      (reads : ReadsName target taken property next) :
      ReadsName name (⟨.property, delimiter⟩ :: ⟨.identifier, target⟩ :: taken)
        (.identifier name property) next
  | call {name taken lists next}
      (reads : ReadsLists taken lists next) :
      ReadsName name (⟨.call, "("⟩ :: taken) (ofArgumentLists (some name) lists) next

/-- Argument lists, without the opening parenthesis of the first. -/
inductive ReadsLists : List Token → List Node × List (List Node) → Option Token → Prop where
  | last {taken params next}
      (reads : ReadsArguments taken params)
      (ends : next ≠ some ⟨.call, "("⟩) :
      ReadsLists taken (params, []) next
  | more {first params taken lists next}
      (reads : ReadsArguments first params)
      (others : ReadsLists taken lists next) :
      ReadsLists (first ++ ⟨.call, "("⟩ :: taken) (params, lists.1 :: lists.2) next

/-- Arguments up to and including the closing parenthesis. -/
inductive ReadsArguments : List Token → List Node → Prop where
  | close : ReadsArguments [⟨.call, ")"⟩] []
  | cons {token taken node others params}
      (inside : token ≠ ⟨.call, ")"⟩)
      (statement : ReadsStatement token taken node others.head?)
      (rest : ReadsArguments others params) :
      ReadsArguments (token :: (taken ++ others)) (node.toList ++ params)

end

/-- Statements up to the end of the tokens. -/
inductive ReadsStatements : List Token → List Node → Prop where
  | nil : ReadsStatements [] []
  | cons {token taken node others body}
      (statement : ReadsStatement token taken node others.head?)
      (rest : ReadsStatements others body) :
      ReadsStatements (token :: (taken ++ others)) (node.toList ++ body)

theorem ReadsArguments.ne_nil
    {tokens : List Token}
    {params : List Node}
    (reads : ReadsArguments tokens params) :
    tokens ≠ [] := by
  cases reads <;> simp

/-- Arguments decide for themselves what their first token is. -/
theorem ReadsArguments.head?_append
    {tokens : List Token}
    {params : List Node}
    (reads : ReadsArguments tokens params)
    (rest : List Token) :
    (tokens ++ rest).head? = tokens.head? := by
  cases reads <;> rfl

/-! ## What is read is derived -/

mutual

theorem reads_of_readStatement
    {token : Token}
    {following : List Token}
    {read : Reading (Option Node)}
    (found : readStatement token following = .ok read) :
    ReadsStatement token (following.take read.taken) read.content
      (following.drop read.taken).head? := by
  rcases token with ⟨kind, value⟩
  cases kind with
  | string =>
      rw [readStatement_string] at found
      cases found
      exact .text
  | identifier =>
      rw [readStatement_identifier] at found
      cases name : readName value following with
      | error failure => simp [name] at found
      | ok named =>
          simp only [name, Except.ok.injEq] at found
          subst read
          exact .name (reads_of_readName name)
  | call =>
      rw [readStatement_call] at found
      cases found
      exact .skipped (Or.inl rfl)
  | property =>
      rw [readStatement_property] at found
      cases found
      exact .skipped (Or.inr rfl)
termination_by (following.length, 3)

theorem reads_of_readName
    {name : String}
    {following : List Token}
    {read : Reading Node}
    (found : readName name following = .ok read) :
    ReadsName name (following.take read.taken) read.content (following.drop read.taken).head? := by
  by_cases ends : EndsChain following.head?
  · rw [readName_of_endsChain ends] at found
    cases found
    exact .plain ends
  · match following with
    | [] => simp at ends
    | ⟨.identifier, _⟩ :: _ => simp at ends
    | ⟨.string, _⟩ :: _ => simp at ends
    | ⟨.call, value⟩ :: behind =>
        obtain rfl : value = "(" := by simpa using ends
        rw [readName_opening] at found
        cases lists : readArgumentLists (⟨.call, "("⟩ :: behind) with
        | error failure => simp [lists] at found
        | ok more =>
            simp only [lists, Except.ok.injEq] at found
            subst read
            rcases reads_of_readArgumentLists lists with ⟨taken, counted, reads⟩
            simpa [counted] using ReadsName.call reads
    | [⟨.property, delimiter⟩] =>
        rw [readName_dangling] at found
        cases found
        exact .dangling
    | ⟨.property, delimiter⟩ :: ⟨.identifier, target⟩ :: others =>
        rw [readName_identifier] at found
        cases property : readName target others with
        | error failure => simp [property] at found
        | ok accessed =>
            simp only [property, Except.ok.injEq] at found
            subst read
            have reads := reads_of_readName property
            simpa [Nat.add_comm 2] using ReadsName.access reads
    | ⟨.property, delimiter⟩ :: ⟨.string, value⟩ :: others =>
        rw [readName_string] at found
        cases found
        exact .text
    | ⟨.property, delimiter⟩ :: ⟨.call, value⟩ :: others =>
        rw [readName_of_isDelimiting (Or.inl rfl)] at found
        cases found
        exact .dropped (Or.inl rfl)
    | ⟨.property, delimiter⟩ :: ⟨.property, value⟩ :: others =>
        rw [readName_of_isDelimiting (Or.inr rfl)] at found
        cases found
        exact .dropped (Or.inr rfl)
termination_by (following.length, 2)

theorem reads_of_readArgumentLists
    {opening : Token}
    {tokens : List Token}
    {read : Reading (List Node × List (List Node))}
    (found : readArgumentLists (opening :: tokens) = .ok read) :
    ∃ taken, read.taken = taken + 1 ∧
      ReadsLists (tokens.take taken) read.content (tokens.drop taken).head? := by
  cases arguments : readArguments 1 tokens with
  | error failure => simp [readArgumentLists_of_error arguments] at found
  | ok first =>
      have reads := reads_of_readArguments arguments
      by_cases more : (tokens.drop first.taken).head? = some ⟨.call, "("⟩
      · obtain ⟨others, next⟩ := List.head?_eq_some_iff.mp more
        rw [readArgumentLists_of_more arguments next] at found
        cases lists : readArgumentLists (⟨.call, "("⟩ :: others) with
        | error failure => simp [lists] at found
        | ok chained =>
            simp only [lists, Except.ok.injEq] at found
            subst read
            have shorter : others.length < tokens.length := by
              have counted := congrArg List.length next
              simp only [List.length_drop, List.length_cons] at counted
              omega
            rcases reads_of_readArgumentLists lists with ⟨taken, counted, chain⟩
            have front : tokens.take (first.taken + chained.taken) =
                tokens.take first.taken ++ ⟨.call, "("⟩ :: others.take taken := by
              rw [List.take_add, next, counted, List.take_succ_cons]
            have behind : tokens.drop (first.taken + chained.taken) = others.drop taken := by
              rw [← List.drop_drop, next, counted, List.drop_succ_cons]
            refine ⟨first.taken + chained.taken, by simp [Nat.add_assoc, Nat.add_comm 1], ?_⟩
            rw [front, behind]
            exact .more reads chain
      · rw [readArgumentLists_of_last arguments more] at found
        cases found
        exact ⟨first.taken, Nat.add_comm 1 _, .last reads more⟩
termination_by (tokens.length + 1, 1)

theorem reads_of_readArguments
    {distance : Nat}
    {tokens : List Token}
    {read : Reading (List Node)}
    (found : readArguments distance tokens = .ok read) :
    ReadsArguments (tokens.take read.taken) read.content := by
  match tokens with
  | [] => simp at found
  | token :: following =>
      by_cases closing : token = ⟨.call, ")"⟩
      · subst token
        rw [readArguments_closing] at found
        cases found
        exact .close
      · rw [readArguments_of_inside closing] at found
        cases statement : readStatement token following with
        | error failure => simp [statement] at found
        | ok first =>
            cases arguments : readArguments (distance + 1 + first.taken)
                (following.drop first.taken) with
            | error failure => simp [statement, arguments] at found
            | ok others =>
                simp only [statement, arguments, Except.ok.injEq] at found
                subst read
                have reads := reads_of_readStatement statement
                have rest := reads_of_readArguments arguments
                -- arguments are never empty, so the next token is the first of theirs
                have nonempty : others.taken ≠ 0 := by
                  intro none
                  rw [none, List.take_zero] at rest
                  exact rest.ne_nil rfl
                have next : (following.drop first.taken).head? =
                    ((following.drop first.taken).take others.taken).head? := by
                  rw [List.head?_take, if_neg nonempty]
                rw [next] at reads
                have front : (token :: following).take (1 + first.taken + others.taken) =
                    token :: (following.take first.taken ++
                      (following.drop first.taken).take others.taken) := by
                  rw [Nat.add_assoc, Nat.add_comm 1, List.take_succ_cons, List.take_add]
                rw [front]
                exact .cons closing reads rest
termination_by (tokens.length, 0)

end

/-- What is read of all tokens is derived. -/
theorem reads_of_readStatements
    {tokens : List Token}
    {read : Reading (List Node)}
    (found : readStatements tokens = .ok read) :
    ReadsStatements tokens read.content := by
  match tokens with
  | [] =>
      rw [readStatements] at found
      cases found
      exact .nil
  | token :: following =>
      rw [readStatements] at found
      cases statement : readStatement token following with
      | error failure => simp [statement] at found
      | ok first =>
          cases statements : readStatements (following.drop first.taken) with
          | error failure => simp [statement, statements] at found
          | ok others =>
              simp only [statement, statements, Except.ok.injEq] at found
              subst read
              have derivation :=
                ReadsStatements.cons (reads_of_readStatement statement)
                  (reads_of_readStatements statements)
              rwa [List.take_append_drop] at derivation
termination_by tokens.length

/-! ## What is derived is read -/

/-- The reading answers with the content and goes on with the rest of the tokens. -/
def LeadsTo
    {Content : Type}
    (outcome : Except UnterminatedCall (Reading Content))
    (content : Content)
    (tokens rest : List Token) : Prop :=
  ∃ taken, outcome = .ok ⟨content, taken⟩ ∧ tokens.drop taken = rest

mutual

theorem ReadsStatement.leadsTo
    {token : Token}
    {taken : List Token}
    {node : Option Node}
    {next : Option Token}
    (reads : ReadsStatement token taken node next)
    (rest : List Token)
    (follows : rest.head? = next) :
    LeadsTo (readStatement token (taken ++ rest)) node (taken ++ rest) rest := by
  match reads with
  | .text => exact ⟨0, readStatement_string _ _, rfl⟩
  | .name reads =>
      rcases reads.leadsTo rest follows with ⟨count, found, remaining⟩
      exact ⟨count, by rw [readStatement_identifier, found], remaining⟩
  | .skipped delimiting => exact ⟨0, readStatement_of_isDelimiting delimiting _, rfl⟩
termination_by structural reads

theorem ReadsName.leadsTo
    {name : String}
    {taken : List Token}
    {node : Node}
    {next : Option Token}
    (reads : ReadsName name taken node next)
    (rest : List Token)
    (follows : rest.head? = next) :
    LeadsTo (readName name (taken ++ rest)) node (taken ++ rest) rest := by
  match reads with
  | .plain ends =>
      rw [← follows] at ends
      exact ⟨0, readName_of_endsChain ends name, rfl⟩
  | .dangling =>
      obtain rfl := List.head?_eq_none_iff.mp follows
      exact ⟨2, readName_dangling name _, rfl⟩
  | .dropped delimiting => exact ⟨2, readName_of_isDelimiting delimiting name _ rest, rfl⟩
  | .text => exact ⟨2, readName_string name _ _ rest, rfl⟩
  | .access reads =>
      rcases reads.leadsTo rest follows with ⟨count, found, remaining⟩
      refine ⟨2 + count, ?_, ?_⟩
      · simp only [List.cons_append, readName_identifier, found]
      · rw [Nat.add_comm 2]
        exact remaining
  | .call reads =>
      rcases reads.leadsTo rest follows ⟨.call, "("⟩ with ⟨count, found, remaining⟩
      exact ⟨count, by simp only [List.cons_append, readName_opening, found], remaining⟩
termination_by structural reads

theorem ReadsLists.leadsTo
    {taken : List Token}
    {lists : List Node × List (List Node)}
    {next : Option Token}
    (reads : ReadsLists taken lists next)
    (rest : List Token)
    (follows : rest.head? = next)
    (opening : Token) :
    LeadsTo (readArgumentLists (opening :: (taken ++ rest))) lists
      (opening :: (taken ++ rest)) rest := by
  match reads with
  | .last reads ends =>
      rcases reads.leadsTo 1 rest with ⟨count, found, remaining⟩
      rw [← follows, ← remaining] at ends
      refine ⟨1 + count, readArgumentLists_of_last found ends opening, ?_⟩
      rw [Nat.add_comm 1]
      exact remaining
  | .more reads others =>
      rcases reads.leadsTo 1 (⟨.call, "("⟩ :: (_ ++ rest)) with ⟨count, found, remaining⟩
      rcases others.leadsTo rest follows ⟨.call, "("⟩ with ⟨further, chained, behind⟩
      rw [List.append_assoc, List.cons_append]
      refine ⟨1 + count + further, ?_, ?_⟩
      · rw [readArgumentLists_of_more found remaining, chained]
      · rw [Nat.add_assoc, Nat.add_comm 1, List.drop_succ_cons, ← List.drop_drop, remaining]
        exact behind
termination_by structural reads

theorem ReadsArguments.leadsTo
    {taken : List Token}
    {params : List Node}
    (reads : ReadsArguments taken params)
    (distance : Nat)
    (rest : List Token) :
    LeadsTo (readArguments distance (taken ++ rest)) params (taken ++ rest) rest := by
  match reads with
  | .close => exact ⟨1, readArguments_closing distance rest, rfl⟩
  | .cons inside statement reads =>
      rcases statement.leadsTo (_ ++ rest) (reads.head?_append rest) with ⟨count, found, remaining⟩
      rcases reads.leadsTo (distance + 1 + count) rest with ⟨further, arguments, behind⟩
      rw [List.cons_append, List.append_assoc]
      refine ⟨1 + count + further, ?_, ?_⟩
      · rw [readArguments_of_inside inside, found]
        simp only [remaining, arguments]
      · rw [Nat.add_assoc, Nat.add_comm 1, List.drop_succ_cons, ← List.drop_drop, remaining]
        exact behind
termination_by structural reads

end

theorem ReadsStatements.leadsTo
    {tokens : List Token}
    {body : List Node}
    (reads : ReadsStatements tokens body) :
    ∃ taken, readStatements tokens = .ok ⟨body, taken⟩ := by
  induction reads with
  | nil => exact ⟨0, by rw [readStatements]⟩
  | cons statement _ inductionHypothesis =>
      rcases statement.leadsTo _ rfl with ⟨count, found, remaining⟩
      rcases inductionHypothesis with ⟨further, others⟩
      refine ⟨1 + count + further, ?_⟩
      rw [readStatements, found]
      simp only [remaining, others]

/-- A token list has exactly the statements that are derived from it. -/
theorem parse_eq_ok_iff
    {tokens : List Token}
    {body : List Node} :
    parse tokens = .ok body ↔ ReadsStatements tokens body := by
  constructor
  · intro parsed
    cases found : readStatements tokens with
    | error failure => simp [parse, found] at parsed
    | ok read =>
        obtain rfl : read.content = body := by simpa [parse, found] using parsed
        exact reads_of_readStatements found
  · intro reads
    rcases reads.leadsTo with ⟨taken, found⟩
    rw [parse, found]

/-! ## Other tokens behind -/

mutual

/--
A name takes the same before all that ends its chain.  The exception is a
delimiter at the end of the tokens, which takes a token to be dropped as well.
-/
theorem ReadsName.followed_or_takes
    {name : String}
    {taken : List Token}
    {node : Node}
    {next following : Option Token}
    (reads : ReadsName name taken node next)
    (ends : EndsChain following) :
    ReadsName name taken node following ∨
      (∃ delimiter, taken.getLast? = some ⟨.property, delimiter⟩) ∧
        ∀ target further, IsDelimiting target →
          ReadsName name (taken ++ [target]) node further := by
  match reads with
  | .plain _ => exact Or.inl (.plain ends)
  | .dangling => exact Or.inr ⟨⟨_, rfl⟩, fun _ _ delimiting => .dropped delimiting⟩
  | .dropped delimiting => exact Or.inl (.dropped delimiting)
  | .text => exact Or.inl .text
  | .access reads =>
      rcases reads.followed_or_takes ends with followed | ⟨⟨delimiter, last⟩, takes⟩
      · exact Or.inl (.access followed)
      · refine Or.inr ⟨⟨delimiter, ?_⟩, fun target further delimiting => ?_⟩
        · rw [List.getLast?_cons, List.getLast?_cons, last]
          rfl
        · exact .access (takes target further delimiting)
  | .call reads => exact Or.inl (.call (reads.followed ends))
termination_by structural reads

theorem ReadsLists.followed
    {taken : List Token}
    {lists : List Node × List (List Node)}
    {next following : Option Token}
    (reads : ReadsLists taken lists next)
    (ends : EndsChain following) :
    ReadsLists taken lists following := by
  match reads with
  | .last reads _ => exact .last reads ends.1
  | .more reads others => exact .more reads (others.followed ends)
termination_by structural reads

end

theorem ReadsStatement.followed_or_takes
    {token : Token}
    {taken : List Token}
    {node : Option Node}
    {next following : Option Token}
    (reads : ReadsStatement token taken node next)
    (ends : EndsChain following) :
    ReadsStatement token taken node following ∨
      (∃ delimiter, taken.getLast? = some ⟨.property, delimiter⟩) ∧
        ∀ target further, IsDelimiting target →
          ReadsStatement token (taken ++ [target]) node further := by
  cases reads with
  | text => exact Or.inl .text
  | name reads =>
      rcases reads.followed_or_takes ends with followed | ⟨last, takes⟩
      · exact Or.inl (.name followed)
      · exact Or.inr ⟨last, fun target further delimiting =>
          .name (takes target further delimiting)⟩
  | skipped delimiting => exact Or.inl (.skipped delimiting)

end Hostcall.Node
