import Hostcall.Proofs.Tree.Nesting

/-!
# Completing token lists

Closing parentheses at the end of a token list close the argument lists that it
leaves open, the innermost first.  A delimiter at the very end takes the first
of them, so that it closes nothing.  Once nothing is open, further parentheses
are skipped or dropped and leave the statements as they are.

So every token list can be completed by closing parentheses alone, from a least
number of them on, and to the same statements by any such number.
-/

namespace Hostcall.Node

/-! ## What is missing -/

namespace Nesting

/--
How many closing parentheses are missing.  It takes one for every open argument
list and one more for a delimiter that takes what follows it.
-/
def missing (nesting : Nesting) : Nat :=
  match nesting.opened with
  | [] => 0
  | _ :: outer => outer.length + 1 + if nesting.mode = .delimiter then 1 else 0

theorem missing_eq_zero_iff
    {nesting : Nesting} :
    nesting.missing = 0 ↔ nesting.opened = [] := by
  unfold missing
  split
  · next nothingOpen => simp [nothingOpen]
  · next someOpen => simp [someOpen]

theorem missing_step_closing
    (nesting : Nesting)
    (place : Nat) :
    (nesting.step place ⟨.call, ")"⟩).missing = nesting.missing - 1 := by
  rcases nesting with ⟨mode, opened⟩
  cases opened with
  | nil => cases mode <;> rfl
  | cons innermost outer => cases mode <;> cases outer <;> rfl

theorem missing_run_closing
    (nesting : Nesting)
    (place count : Nat) :
    (nesting.run place (List.replicate count ⟨.call, ")"⟩)).missing = nesting.missing - count := by
  induction count generalizing nesting place with
  | zero => rfl
  | succ count inductionHypothesis =>
      rw [List.replicate_succ, run_cons, inductionHypothesis, missing_step_closing, Nat.sub_sub,
        Nat.add_comm 1]

end Nesting

/-- So many closing parentheses are enough exactly when no more are missing. -/
theorem exists_parse_append_closing_iff
    (tokens : List Token)
    (count : Nat) :
    (∃ body, parse (tokens ++ List.replicate count ⟨.call, ")"⟩) = .ok body) ↔
      (nesting tokens).missing ≤ count := by
  rw [(parse_iff_nesting _).1, ← Nesting.missing_eq_zero_iff, nesting, Nesting.run_append,
    Nesting.missing_run_closing, Nat.sub_eq_zero_iff_le, nesting]

/-! ## Surplus parentheses -/

theorem ReadsStatements.append_closing
    {tokens : List Token}
    {body : List Node}
    (reads : ReadsStatements tokens body) :
    ReadsStatements (tokens ++ [⟨.call, ")"⟩]) body := by
  induction reads with
  | nil => exact .cons (.skipped (Or.inl rfl)) .nil
  | @cons token taken node others body statement rest inductionHypothesis =>
      rw [List.cons_append, List.append_assoc]
      cases others with
      | nil =>
          -- the last statement leaves the parenthesis, which is skipped, or drops it
          have ends : EndsChain (some ⟨.call, ")"⟩) := by simp
          rcases statement.followed_or_takes ends with followed | ⟨_, takes⟩
          · exact .cons followed inductionHypothesis
          · simpa using ReadsStatements.cons (takes ⟨.call, ")"⟩ none (Or.inl rfl)) rest
      | cons first others => exact .cons statement inductionHypothesis

/-- Closing parentheses behind a program do not change it. -/
theorem parse_append_surplus
    {tokens : List Token}
    {body : List Node}
    (parsed : parse tokens = .ok body)
    (count : Nat) :
    parse (tokens ++ List.replicate count ⟨.call, ")"⟩) = .ok body := by
  induction count with
  | zero => simpa using parsed
  | succ count inductionHypothesis =>
      rw [List.replicate_succ', ← List.append_assoc, parse_eq_ok_iff]
      exact (parse_eq_ok_iff.mp inductionHypothesis).append_closing

/-! ## Completion -/

/--
A token list is completed by closing parentheses exactly if at least as many
are appended as are missing, and always to the same statements.  None are
missing exactly if the list can be read as it is.
-/
theorem parse_append_closing
    (tokens : List Token) :
    ∃ body,
      (∀ count other, parse (tokens ++ List.replicate count ⟨.call, ")"⟩) = .ok other ↔
        (nesting tokens).missing ≤ count ∧ other = body) ∧
      ((nesting tokens).missing = 0 ↔ ∃ other, parse tokens = .ok other) := by
  obtain ⟨body, least⟩ := (exists_parse_append_closing_iff tokens _).mpr (Nat.le_refl _)
  have completed {count : Nat} (enough : (nesting tokens).missing ≤ count) :
      parse (tokens ++ List.replicate count ⟨.call, ")"⟩) = .ok body := by
    have surplus := parse_append_surplus least (count - (nesting tokens).missing)
    rwa [List.append_assoc, List.replicate_append_replicate, Nat.add_sub_cancel' enough] at surplus
  refine ⟨body, fun count other => ⟨fun parsed => ?_, ?_⟩, ?_⟩
  · have reached := (exists_parse_append_closing_iff tokens count).mp ⟨other, parsed⟩
    exact ⟨reached, Except.ok.inj (parsed.symm.trans (completed reached))⟩
  · rintro ⟨reached, rfl⟩
    exact completed reached
  · rw [Nesting.missing_eq_zero_iff, (parse_iff_nesting tokens).1]

-- The delimiter takes the first parenthesis, and the two lists take one each.
example :
    (nesting
      [⟨.identifier, "f"⟩, ⟨.call, "("⟩, ⟨.identifier, "g"⟩, ⟨.call, "("⟩, ⟨.identifier, "a"⟩,
        ⟨.property, "."⟩]).missing = 3 :=
  rfl

end Hostcall.Node
