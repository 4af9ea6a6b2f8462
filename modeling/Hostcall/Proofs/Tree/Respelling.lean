import Hostcall.Proofs.Tree.Renaming
import Hostcall.Tree.Reading
import Mathlib.Data.List.Forall2

/-!
# Respelled tokens

The reader looks at the kinds of tokens, and of their texts it only tells the
two parentheses from each other and from everything else.  So names and strings
may be exchanged for others, different ones even for the same, and delimiters
may be spelled in any way: the reader makes the same tree with the other names
and strings in it, or complains about the same argument list.

This is an induction on the reader itself, since it also covers the readings
that fail.
-/

namespace Hostcall

variable {names strings : String → String}

/-! ## Tokens with other texts -/

/--
The second token is the first one with another text, which the reader cannot
tell from the first.
-/
inductive Token.Respelled (names strings : String → String) : Token → Token → Prop where
  | identifier {name} :
      Respelled names strings ⟨.identifier, name⟩ ⟨.identifier, names name⟩
  | string {value} :
      Respelled names strings ⟨.string, value⟩ ⟨.string, strings value⟩
  /-- Any delimiter stands for any other. -/
  | property {delimiter delimiter'} :
      Respelled names strings ⟨.property, delimiter⟩ ⟨.property, delimiter'⟩
  | parenthesis {value}
      (parenthesis : value = "(" ∨ value = ")") :
      Respelled names strings ⟨.call, value⟩ ⟨.call, value⟩
  /-- A call token that is no parenthesis stands for any other such token. -/
  | stray {value value'}
      (stray : value ≠ "(" ∧ value ≠ ")")
      (stray' : value' ≠ "(" ∧ value' ≠ ")") :
      Respelled names strings ⟨.call, value⟩ ⟨.call, value'⟩

namespace Token.Respelled

variable {token token' : Token}

theorem kind_eq
    (respelled : Respelled names strings token token') :
    token'.kind = token.kind := by
  cases respelled <;> rfl

/-- The two parentheses keep their texts, and nothing else becomes one of them. -/
theorem eq_parenthesis_iff
    (respelled : Respelled names strings token token')
    {value : String}
    (parenthesis : value = "(" ∨ value = ")") :
    token' = ⟨.call, value⟩ ↔ token = ⟨.call, value⟩ := by
  cases respelled with
  | identifier => simp
  | string => simp
  | property => simp
  | parenthesis => rfl
  | stray stray stray' =>
      rcases parenthesis with rfl | rfl
      · simp [stray.1, stray'.1]
      · simp [stray.2, stray'.2]

end Token.Respelled

namespace Node

/-- Argument lists with other names and strings in them. -/
def renamedLists
    (names strings : String → String)
    (lists : List Node × List (List Node)) :
    List Node × List (List Node) :=
  (lists.1.map (renamed names strings), lists.2.map (List.map (renamed names strings)))

theorem renamed_ofArgumentLists
    (name : String)
    (lists : List Node × List (List Node)) :
    renamed names strings (ofArgumentLists (some name) lists) =
      ofArgumentLists (some (names name)) (renamedLists names strings lists) := by
  simp [ofArgumentLists, renamed, renamedLink, renamedLists]

/-! ## Readings of respelled tokens -/

/-- The same outcome, but for what was read. -/
def mapped
    {Content Result : Type}
    (change : Content → Result) :
    Except UnterminatedCall (Reading Content) → Except UnterminatedCall (Reading Result)
  | .error failure => .error failure
  | .ok read => .ok ⟨change read.content, read.taken⟩

/-- The next token opens an argument list, or ends a chain, in the one spelling as in the other. -/
theorem head?_eq_opening_iff_respelled
    {tokens tokens' : List Token}
    (respelled : List.Forall₂ (Token.Respelled names strings) tokens tokens') :
    tokens'.head? = some ⟨.call, "("⟩ ↔ tokens.head? = some ⟨.call, "("⟩ := by
  cases respelled with
  | nil => rfl
  | cons first _ => simpa using first.eq_parenthesis_iff (Or.inl rfl)

theorem endsChain_respelled
    {tokens tokens' : List Token}
    (respelled : List.Forall₂ (Token.Respelled names strings) tokens tokens')
    (ends : EndsChain tokens.head?) :
    EndsChain tokens'.head? := by
  refine ⟨fun opening => ends.1 ((head?_eq_opening_iff_respelled respelled).mp opening), ?_⟩
  cases respelled with
  | nil => simp
  | cons first _ => simpa [first.kind_eq] using ends.2

mutual

theorem readStatement_respelled
    {token token' : Token}
    {following following' : List Token}
    (first : Token.Respelled names strings token token')
    (behind : List.Forall₂ (Token.Respelled names strings) following following') :
    readStatement token' following' =
      mapped (Option.map (renamed names strings)) (readStatement token following) := by
  cases first with
  | @identifier name =>
      rw [readStatement_identifier, readStatement_identifier, readName_respelled behind name]
      cases readName name following <;> rfl
  | string =>
      rw [readStatement_string, readStatement_string]
      rfl
  | property =>
      rw [readStatement_property, readStatement_property]
      rfl
  | parenthesis =>
      rw [readStatement_call, readStatement_call]
      rfl
  | stray =>
      rw [readStatement_call, readStatement_call]
      rfl
termination_by (following.length, 3)

theorem readName_respelled
    {following following' : List Token}
    (behind : List.Forall₂ (Token.Respelled names strings) following following')
    (name : String) :
    readName (names name) following' =
      mapped (renamed names strings) (readName name following) := by
  by_cases ends : EndsChain following.head?
  · rw [readName_of_endsChain ends, readName_of_endsChain (endsChain_respelled behind ends)]
    rfl
  · match following, following', behind with
    | _, _, .nil => simp at ends
    | _, _, .cons .identifier _ => simp at ends
    | _, _, .cons .string _ => simp at ends
    | _, _, .cons (.stray stray _) _ => simp [stray] at ends
    | _, _, .cons (.parenthesis parenthesis) others =>
        obtain rfl : _ = "(" := by simpa using ends
        rw [readName_opening, readName_opening,
          readArgumentLists_respelled others ⟨.call, "("⟩ ⟨.call, "("⟩]
        cases readArgumentLists _ with
        | error failure => rfl
        | ok lists => simp only [mapped, renamed_ofArgumentLists]
    | _, _, .cons .property .nil =>
        rw [readName_dangling, readName_dangling]
        rfl
    | _ :: ⟨.identifier, target⟩ :: _, _, .cons .property (.cons .identifier others) =>
        rw [readName_identifier, readName_identifier, readName_respelled others target]
        cases readName target _ <;> rfl
    | _, _, .cons .property (.cons .string _) =>
        rw [readName_string, readName_string]
        rfl
    | _, _, .cons .property (.cons .property _) =>
        rw [readName_of_isDelimiting (Or.inr rfl), readName_of_isDelimiting (Or.inr rfl)]
        rfl
    | _, _, .cons .property (.cons (.parenthesis _) _) =>
        rw [readName_of_isDelimiting (Or.inl rfl), readName_of_isDelimiting (Or.inl rfl)]
        rfl
    | _, _, .cons .property (.cons (.stray _ _) _) =>
        rw [readName_of_isDelimiting (Or.inl rfl), readName_of_isDelimiting (Or.inl rfl)]
        rfl
termination_by (following.length, 2)

theorem readArgumentLists_respelled
    {tokens tokens' : List Token}
    (behind : List.Forall₂ (Token.Respelled names strings) tokens tokens')
    (opening opening' : Token) :
    readArgumentLists (opening' :: tokens') =
      mapped (renamedLists names strings) (readArgumentLists (opening :: tokens)) := by
  have respelled := readArguments_respelled behind 1
  cases arguments : readArguments 1 tokens with
  | error failure =>
      rw [arguments] at respelled
      rw [readArgumentLists_of_error arguments, readArgumentLists_of_error respelled]
      rfl
  | ok first =>
      rw [arguments] at respelled
      have further := List.forall₂_drop first.taken behind
      by_cases more : (tokens.drop first.taken).head? = some ⟨.call, "("⟩
      · have more' := (head?_eq_opening_iff_respelled further).mpr more
        obtain ⟨others, next⟩ := List.head?_eq_some_iff.mp more
        obtain ⟨others', next'⟩ := List.head?_eq_some_iff.mp more'
        have shorter : others.length < tokens.length := by
          have counted := congrArg List.length next
          simp only [List.length_drop, List.length_cons] at counted
          omega
        rw [next, next', List.forall₂_cons] at further
        rw [readArgumentLists_of_more arguments next, readArgumentLists_of_more respelled next',
          readArgumentLists_respelled further.2 ⟨.call, "("⟩ ⟨.call, "("⟩]
        cases readArgumentLists (⟨.call, "("⟩ :: others) <;> rfl
      · have more' := mt (head?_eq_opening_iff_respelled further).mp more
        rw [readArgumentLists_of_last arguments more, readArgumentLists_of_last respelled more']
        rfl
termination_by (tokens.length + 1, 1)

theorem readArguments_respelled
    {tokens tokens' : List Token}
    (behind : List.Forall₂ (Token.Respelled names strings) tokens tokens')
    (distance : Nat) :
    readArguments distance tokens' =
      mapped (List.map (renamed names strings)) (readArguments distance tokens) := by
  match tokens, tokens', behind with
  | _, _, .nil =>
      rw [readArguments_nil]
      rfl
  | token :: following, _, .cons first others =>
      by_cases closing : token = ⟨.call, ")"⟩
      · obtain rfl := (first.eq_parenthesis_iff (Or.inr rfl)).mpr closing
        subst token
        rw [readArguments_closing, readArguments_closing]
        rfl
      · have closing' := mt (first.eq_parenthesis_iff (Or.inr rfl)).mp closing
        rw [readArguments_of_inside closing, readArguments_of_inside closing',
          readStatement_respelled first others]
        cases readStatement token following with
        | error failure => rfl
        | ok read =>
            have further := List.forall₂_drop read.taken others
            simp only [mapped, readArguments_respelled further]
            cases readArguments (distance + 1 + read.taken) (following.drop read.taken) with
            | error failure => rfl
            | ok rest => simp only [Option.toList_map, List.map_append]
termination_by (tokens.length, 0)

end

theorem readStatements_respelled
    {tokens tokens' : List Token}
    (respelled : List.Forall₂ (Token.Respelled names strings) tokens tokens') :
    readStatements tokens' =
      mapped (List.map (renamed names strings)) (readStatements tokens) := by
  match tokens, tokens', respelled with
  | _, _, .nil =>
      rw [readStatements]
      rfl
  | token :: following, _, .cons first others =>
      rw [readStatements, readStatements, readStatement_respelled first others]
      cases readStatement token following with
      | error failure => rfl
      | ok read =>
          have further := List.forall₂_drop read.taken others
          simp only [mapped, readStatements_respelled further]
          cases readStatements (following.drop read.taken) with
          | error failure => rfl
          | ok rest => simp only [Option.toList_map, List.map_append]
termination_by tokens.length

/--
Whatever names and strings stand in a token list and however its delimiters are
spelled, the reader makes the same statements, but for the names and strings in
them, or complains about the same argument list.
-/
theorem parse_respelled
    {tokens tokens' : List Token}
    (respelled : List.Forall₂ (Token.Respelled names strings) tokens tokens') :
    parse tokens' = (parse tokens).map (List.map (renamed names strings)) := by
  rw [parse, parse, readStatements_respelled respelled]
  cases readStatements tokens <;> rfl

/-- Two names become one, and neither brackets nor stray call tokens are told apart. -/
theorem parse_respelled_brackets :
    List.Forall₂ (Token.Respelled (fun _ => "n") (· ++ "!"))
        [⟨.identifier, "a"⟩, ⟨.property, "."⟩, ⟨.identifier, "b"⟩, ⟨.call, "("⟩, ⟨.call, "<"⟩,
          ⟨.string, "s"⟩, ⟨.call, ")"⟩]
        [⟨.identifier, "n"⟩, ⟨.property, "]"⟩, ⟨.identifier, "n"⟩, ⟨.call, "("⟩, ⟨.call, ">"⟩,
          ⟨.string, "s!"⟩, ⟨.call, ")"⟩] ∧
      parse
        [⟨.identifier, "n"⟩, ⟨.property, "]"⟩, ⟨.identifier, "n"⟩, ⟨.call, "("⟩, ⟨.call, ">"⟩,
          ⟨.string, "s!"⟩, ⟨.call, ")"⟩] =
        .ok [.identifier "n" (.call ⟨some "n", [.text "s!"]⟩ [])] := by
  have respelled : List.Forall₂ (Token.Respelled (fun _ => "n") (· ++ "!"))
      [⟨.identifier, "a"⟩, ⟨.property, "."⟩, ⟨.identifier, "b"⟩, ⟨.call, "("⟩, ⟨.call, "<"⟩,
        ⟨.string, "s"⟩, ⟨.call, ")"⟩]
      [⟨.identifier, "n"⟩, ⟨.property, "]"⟩, ⟨.identifier, "n"⟩, ⟨.call, "("⟩, ⟨.call, ">"⟩,
        ⟨.string, "s!"⟩, ⟨.call, ")"⟩] :=
    .cons .identifier <| .cons .property <| .cons .identifier <| .cons (.parenthesis (by simp)) <|
      .cons (.stray (by simp) (by simp)) <| .cons .string <| .cons (.parenthesis (by simp)) .nil
  have parsed : parse
      [⟨.identifier, "a"⟩, ⟨.property, "."⟩, ⟨.identifier, "b"⟩, ⟨.call, "("⟩, ⟨.call, "<"⟩,
        ⟨.string, "s"⟩, ⟨.call, ")"⟩] =
      .ok [.identifier "a" (.call ⟨some "b", [.text "s"]⟩ [])] := by
    decide +kernel
  refine ⟨respelled, ?_⟩
  rw [parse_respelled respelled, parsed]
  rfl

end Node

end Hostcall
