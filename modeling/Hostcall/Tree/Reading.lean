import Hostcall.Token.Basic
import Hostcall.Tree.Basic

/-!
# From tokens to trees

A tree is read by recursive descent with one token of lookahead.  A statement
is a string or a name.  A name may be followed by accesses and, after the last
accessed name, by argument lists.  Tokens that begin nothing are skipped
wherever a statement may begin.

Each reading function answers with what it read and with how many tokens it
took, so that the reading goes on behind them.  A delimiter at the very end
counts as if it took one token more than there are, for the name that is
missing behind it.  The one error is an argument list without its closing
parenthesis.
-/

namespace Hostcall

/--
An argument list that no parenthesis closes: the place of its opening
parenthesis, and the place where the tokens ran out.  Both are counted from
where the reading began.
-/
structure UnterminatedCall where
  opened : Nat
  reached : Nat
deriving DecidableEq, Repr

namespace UnterminatedCall

/-- The same failure, counted from a place that lies this many tokens before. -/
def shift (failure : UnterminatedCall) (distance : Nat) : UnterminatedCall :=
  ⟨distance + failure.opened, distance + failure.reached⟩

@[simp]
theorem shift_zero
    (failure : UnterminatedCall) :
    failure.shift 0 = failure := by
  simp [shift]

@[simp]
theorem shift_shift
    (failure : UnterminatedCall)
    (first second : Nat) :
    (failure.shift first).shift second = failure.shift (second + first) := by
  simp [shift, Nat.add_assoc]

/-- What is wrong, in words. -/
def message (failure : UnterminatedCall) : String :=
  "[callchain #" ++ toString failure.opened ++ "] Parse error: Unterminated call argument list"

end UnterminatedCall

/-- Something that was read, and the number of tokens that it took. -/
structure Reading (Content : Type) where
  content : Content
  taken : Nat
deriving DecidableEq, Repr

namespace Node

/-- A call by name from its argument lists, of which there is at least one. -/
def ofArgumentLists (name : Option String) (lists : List Node × List (List Node)) : Node :=
  .call ⟨name, lists.1⟩ (lists.2.map (Link.mk none))

mutual

/--
Read a statement that begins with a given token.  A token that begins no
statement is skipped.
-/
def readStatement (token : Token) (following : List Token) :
    Except UnterminatedCall (Reading (Option Node)) :=
  match token.kind with
  | .string => .ok ⟨some (.text token.value), 0⟩
  | .identifier =>
      match readName token.value following with
      | .error failure => .error failure
      | .ok read => .ok ⟨some read.content, read.taken⟩
  | .call => .ok ⟨none, 0⟩
  | .property => .ok ⟨none, 0⟩
termination_by 4 * following.length + 3

/--
Read what belongs to a name.  A delimiter takes the token behind it: a name
goes on from there, a string ends the accesses, and anything else is dropped.
-/
def readName (name : String) (following : List Token) :
    Except UnterminatedCall (Reading Node) :=
  match following with
  | [] => .ok ⟨.identifier name .absent, 0⟩
  | token :: behind =>
      if token.kind = .property then
        match behind with
        | [] => .ok ⟨.identifier name .absent, 2⟩
        | target :: others =>
            match target.kind with
            | .identifier =>
                match readName target.value others with
                | .error failure => .error (failure.shift 2)
                | .ok read => .ok ⟨.identifier name read.content, 2 + read.taken⟩
            | .string => .ok ⟨.identifier name (.text target.value), 2⟩
            | .call => .ok ⟨.identifier name .absent, 2⟩
            | .property => .ok ⟨.identifier name .absent, 2⟩
      else if token.isCall "(" then
        match readArgumentLists (token :: behind) with
        | .error failure => .error failure
        | .ok read => .ok ⟨ofArgumentLists (some name) read.content, read.taken⟩
      else
        .ok ⟨.identifier name .absent, 0⟩
termination_by 4 * following.length + 2

/--
Read an argument list whose opening parenthesis is the first token, and all
argument lists that follow on it at once.
-/
def readArgumentLists (tokens : List Token) :
    Except UnterminatedCall (Reading (List Node × List (List Node))) :=
  match readArguments 1 tokens.tail with
  | .error failure => .error failure
  | .ok first =>
      match _next : tokens.tail.drop first.taken with
      | [] => .ok ⟨(first.content, []), 1 + first.taken⟩
      | token :: others =>
          if token.isCall "(" then
            match readArgumentLists (token :: others) with
            | .error failure => .error (failure.shift (1 + first.taken))
            | .ok more =>
                .ok ⟨(first.content, more.content.1 :: more.content.2),
                  1 + first.taken + more.taken⟩
          else
            .ok ⟨(first.content, []), 1 + first.taken⟩
termination_by 4 * tokens.length + 1
decreasing_by
  · rw [List.length_tail]
    omega
  · have := congrArg List.length _next
    simp only [List.length_drop, List.length_tail, List.length_cons] at this ⊢
    omega

/--
Read arguments up to and including the closing parenthesis.  The opening
parenthesis lies the given number of tokens before, and failures are counted
from there.
-/
def readArguments (distance : Nat) (tokens : List Token) :
    Except UnterminatedCall (Reading (List Node)) :=
  match tokens with
  | [] => .error ⟨0, distance⟩
  | token :: following =>
      if token.isCall ")" then
        .ok ⟨[], 1⟩
      else
        match readStatement token following with
        | .error failure => .error (failure.shift (distance + 1))
        | .ok read =>
            match readArguments (distance + 1 + read.taken) (following.drop read.taken) with
            | .error failure => .error failure
            | .ok others =>
                .ok ⟨read.content.toList ++ others.content, 1 + read.taken + others.taken⟩
termination_by 4 * tokens.length

end

/-! ## What decides a reading -/

@[simp]
theorem readStatement_string
    (value : String)
    (following : List Token) :
    readStatement ⟨.string, value⟩ following = .ok ⟨some (.text value), 0⟩ := by
  rw [readStatement]

@[simp]
theorem readStatement_call
    (value : String)
    (following : List Token) :
    readStatement ⟨.call, value⟩ following = .ok ⟨none, 0⟩ := by
  rw [readStatement]

@[simp]
theorem readStatement_property
    (value : String)
    (following : List Token) :
    readStatement ⟨.property, value⟩ following = .ok ⟨none, 0⟩ := by
  rw [readStatement]

@[simp]
theorem readName_nil
    (name : String) :
    readName name [] = .ok ⟨.identifier name .absent, 0⟩ := by
  rw [readName]

@[simp]
theorem readArguments_nil
    (distance : Nat) :
    readArguments distance [] = .error ⟨0, distance⟩ := by
  rw [readArguments]

/-- The next token, if there is one, neither accesses a name nor calls it. -/
def EndsChain (next : Option Token) : Prop :=
  next ≠ some ⟨.call, "("⟩ ∧ ∀ token ∈ next, token.kind ≠ .property

@[simp]
theorem endsChain_none : EndsChain none := by
  simp [EndsChain]

@[simp]
theorem endsChain_some
    (token : Token) :
    EndsChain (some token) ↔ token ≠ ⟨.call, "("⟩ ∧ token.kind ≠ .property := by
  simp [EndsChain]

/-- A parenthesis or an access delimiter: it begins no statement and is no target. -/
def IsDelimiting (token : Token) : Prop :=
  token.kind = .call ∨ token.kind = .property

theorem IsDelimiting.kind_ne_identifier
    {token : Token}
    (delimiting : IsDelimiting token) :
    token.kind ≠ .identifier := by
  rcases delimiting with call | property
  · simp [call]
  · simp [property]

@[simp]
theorem readStatement_identifier
    (name : String)
    (following : List Token) :
    readStatement ⟨.identifier, name⟩ following =
      match readName name following with
      | .error failure => .error failure
      | .ok read => .ok ⟨some read.content, read.taken⟩ := by
  rw [readStatement]

theorem readStatement_of_isDelimiting
    {token : Token}
    (delimiting : IsDelimiting token)
    (following : List Token) :
    readStatement token following = .ok ⟨none, 0⟩ := by
  rcases token with ⟨kind, value⟩
  rcases delimiting with rfl | rfl
  · exact readStatement_call value following
  · exact readStatement_property value following

theorem readName_of_endsChain
    {following : List Token}
    (ends : EndsChain following.head?)
    (name : String) :
    readName name following = .ok ⟨.identifier name .absent, 0⟩ := by
  cases following with
  | nil => exact readName_nil name
  | cons token behind =>
      rcases (endsChain_some token).mp ends with ⟨noCall, noProperty⟩
      rw [readName.eq_def]
      dsimp only
      rw [if_neg noProperty, if_neg (by simpa using noCall)]

@[simp]
theorem readName_dangling
    (name delimiter : String) :
    readName name [⟨.property, delimiter⟩] = .ok ⟨.identifier name .absent, 2⟩ := by
  rw [readName, if_pos rfl]

theorem readName_of_isDelimiting
    {target : Token}
    (delimiting : IsDelimiting target)
    (name delimiter : String)
    (others : List Token) :
    readName name (⟨.property, delimiter⟩ :: target :: others) =
      .ok ⟨.identifier name .absent, 2⟩ := by
  rcases target with ⟨kind, value⟩
  rcases delimiting with rfl | rfl <;> rw [readName, if_pos rfl]

@[simp]
theorem readName_string
    (name delimiter value : String)
    (others : List Token) :
    readName name (⟨.property, delimiter⟩ :: ⟨.string, value⟩ :: others) =
      .ok ⟨.identifier name (.text value), 2⟩ := by
  rw [readName, if_pos rfl]

@[simp]
theorem readName_identifier
    (name delimiter target : String)
    (others : List Token) :
    readName name (⟨.property, delimiter⟩ :: ⟨.identifier, target⟩ :: others) =
      match readName target others with
      | .error failure => .error (failure.shift 2)
      | .ok read => .ok ⟨.identifier name read.content, 2 + read.taken⟩ := by
  rw [readName, if_pos rfl]

@[simp]
theorem readName_opening
    (name : String)
    (behind : List Token) :
    readName name (⟨.call, "("⟩ :: behind) =
      match readArgumentLists (⟨.call, "("⟩ :: behind) with
      | .error failure => .error failure
      | .ok read => .ok ⟨ofArgumentLists (some name) read.content, read.taken⟩ := by
  rw [readName.eq_def]
  dsimp only
  rw [if_neg (by simp), if_pos (by simp)]

theorem readArgumentLists_of_error
    {failure : UnterminatedCall}
    {tokens : List Token}
    (found : readArguments 1 tokens = .error failure)
    (opening : Token) :
    readArgumentLists (opening :: tokens) = .error failure := by
  rw [readArgumentLists, List.tail_cons, found]

/-- An argument list is the last one when no parenthesis opens another behind it. -/
theorem readArgumentLists_of_last
    {first : Reading (List Node)}
    {tokens : List Token}
    (found : readArguments 1 tokens = .ok first)
    (ends : (tokens.drop first.taken).head? ≠ some ⟨.call, "("⟩)
    (opening : Token) :
    readArgumentLists (opening :: tokens) = .ok ⟨(first.content, []), 1 + first.taken⟩ := by
  rw [readArgumentLists, List.tail_cons, found]
  dsimp only
  split
  · rfl
  · next token others next =>
      rw [next] at ends
      rw [if_neg (by simpa using ends)]

theorem readArgumentLists_of_more
    {first : Reading (List Node)}
    {tokens others : List Token}
    (found : readArguments 1 tokens = .ok first)
    (next : tokens.drop first.taken = ⟨.call, "("⟩ :: others)
    (opening : Token) :
    readArgumentLists (opening :: tokens) =
      match readArgumentLists (⟨.call, "("⟩ :: others) with
      | .error failure => .error (failure.shift (1 + first.taken))
      | .ok more =>
          .ok ⟨(first.content, more.content.1 :: more.content.2),
            1 + first.taken + more.taken⟩ := by
  rw [readArgumentLists, List.tail_cons, found]
  dsimp only
  split
  · next noMore => simp [next] at noMore
  · next token rest same =>
      rcases List.cons.inj (next.symm.trans same) with ⟨rfl, rfl⟩
      rw [if_pos (by simp)]

@[simp]
theorem readArguments_closing
    (distance : Nat)
    (following : List Token) :
    readArguments distance (⟨.call, ")"⟩ :: following) = .ok ⟨[], 1⟩ := by
  rw [readArguments, if_pos (by simp)]

theorem readArguments_of_inside
    {token : Token}
    (inside : token ≠ ⟨.call, ")"⟩)
    (distance : Nat)
    (following : List Token) :
    readArguments distance (token :: following) =
      match readStatement token following with
      | .error failure => .error (failure.shift (distance + 1))
      | .ok read =>
          match readArguments (distance + 1 + read.taken) (following.drop read.taken) with
          | .error failure => .error failure
          | .ok others =>
              .ok ⟨read.content.toList ++ others.content, 1 + read.taken + others.taken⟩ := by
  rw [readArguments, if_neg (by simpa using inside)]

/-! ## All statements -/

/-- Read statements to the end of the tokens. -/
def readStatements (tokens : List Token) :
    Except UnterminatedCall (Reading (List Node)) :=
  match tokens with
  | [] => .ok ⟨[], 0⟩
  | token :: following =>
      match readStatement token following with
      | .error failure => .error (failure.shift 1)
      | .ok read =>
          match readStatements (following.drop read.taken) with
          | .error failure => .error (failure.shift (1 + read.taken))
          | .ok others =>
              .ok ⟨read.content.toList ++ others.content, 1 + read.taken + others.taken⟩
termination_by tokens.length
decreasing_by
  simp only [List.length_drop, List.length_cons]
  omega

/-- The statements of a token list, or the argument list that it leaves open. -/
def parse (tokens : List Token) : Except UnterminatedCall (List Node) :=
  match readStatements tokens with
  | .error failure => .error failure
  | .ok read => .ok read.content

end Node

end Hostcall
