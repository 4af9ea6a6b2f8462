import Hostcall.Proofs.Evaluation.Composition
import Hostcall.Proofs.Evaluation.Trace

/-!
# Accounts

The trace of an evaluation accounts for how it ends.  When everything went
well, the names of the schedule were looked up, each in its turn, and nothing
raised.  When an error ended the evaluation, its names are the beginning of
the schedule, and the last act raised that error, while no act before it
raised.

Tracing itself changes nothing: without the trace, the outcome is that of the
evaluation proper.
-/

namespace Hostcall

variable {State Fault Ref Content Result : Type}

namespace Trace

@[simp]
theorem names_append
    (trace others : Trace State Ref) :
    Trace.names (trace ++ others) = trace.names ++ others.names :=
  List.filterMap_append

end Trace

namespace Host

/-- The trace explains the outcome of a computation with the given schedule. -/
inductive Explains
    (host : Host State Fault Ref)
    (schedule : List String) :
    Trace State Ref → EStateM.Result Fault State Content → Prop where
  | returned {trace content after}
      (names : trace.names = schedule)
      (quiet : ∀ event ∈ trace, ¬host.RaisesAt event) :
      Explains host schedule trace (.ok content after)
  | raised {earlier last fault after}
      (names : Trace.names (earlier ++ [last]) <+: schedule)
      (quiet : ∀ event ∈ earlier, ¬host.RaisesAt event)
      (raises : host.Raises last.act last.state fault after) :
      Explains host schedule (earlier ++ [last]) (.error fault after)

variable {host : Host State Fault Ref}

theorem Explains.names_eq
    {schedule : List String}
    {trace : Trace State Ref}
    {content : Content}
    {after : State}
    (explains : host.Explains schedule trace (.ok content after)) :
    trace.names = schedule := by
  cases explains with
  | returned names _ => exact names

theorem Explains.quiet
    {schedule : List String}
    {trace : Trace State Ref}
    {content : Content}
    {after : State}
    (explains : host.Explains schedule trace (.ok content after)) :
    ∀ event ∈ trace, ¬host.RaisesAt event := by
  cases explains with
  | returned _ quiet => exact quiet

theorem Explains.names_begin
    {schedule : List String}
    {trace : Trace State Ref}
    {fault : Fault}
    {after : State}
    (explains : host.Explains schedule trace
      (.error fault after : EStateM.Result Fault State Content)) :
    trace.names <+: schedule := by
  cases explains with
  | raised names _ _ => exact names

theorem explains_nothing
    (content : Content)
    (state : State) :
    host.Explains [] [] (.ok content state) := by
  apply Explains.returned
  · rfl
  · intro event member
    cases member

theorem explains_act
    (act : Act Ref)
    (state : State) :
    host.Explains act.name?.toList [⟨act, state⟩] (host.perform act state) := by
  have names : Trace.names [(⟨act, state⟩ : Event State Ref)] = act.name?.toList := by
    cases act <;> rfl
  cases performed : host.perform act state with
  | ok value after =>
      apply Explains.returned names
      rintro event member ⟨fault, failed, raises⟩
      obtain rfl := List.mem_singleton.mp member
      rw [perform_eq_error_iff.mpr raises] at performed
      cases performed
  | error fault after =>
      have own : host.Explains act.name?.toList ([] ++ [⟨act, state⟩])
          (.error fault after : EStateM.Result Fault State (Value Ref)) := by
        apply Explains.raised
        · exact names ▸ List.prefix_rfl
        · intro event member
          cases member
        · exact perform_eq_error_iff.mp performed
      exact own

/-- The trace of a computation behind another one goes on explaining. -/
theorem Explains.append
    {schedule schedule' : List String}
    {trace others : Trace State Ref}
    {outcome : EStateM.Result Fault State Content}
    (names : trace.names = schedule)
    (quiet : ∀ event ∈ trace, ¬host.RaisesAt event)
    (second : host.Explains schedule' others outcome) :
    host.Explains (schedule ++ schedule') (trace ++ others) outcome := by
  cases second with
  | returned namesBehind quietBehind =>
      apply Explains.returned
      · rw [Trace.names_append, names, namesBehind]
      · exact List.forall_mem_append.mpr ⟨quiet, quietBehind⟩
  | @raised earlier last _ _ namesBehind quietBehind raises =>
      rw [← List.append_assoc]
      apply Explains.raised
      · rw [List.append_assoc, Trace.names_append, names]
        exact (List.prefix_append_right_inj schedule).mpr namesBehind
      · exact List.forall_mem_append.mpr ⟨quiet, quietBehind⟩
      · exact raises

/-- A traced computation does what the plain one does, and its trace explains the outcome. -/
def Accounts
    (host : Host State Fault Ref)
    (schedule : List String)
    (computation : EStateM Fault (State × Trace State Ref) Content)
    (plain : EStateM Fault State Content) :
    Prop :=
  ∀ state, ∃ trace, Takes computation state trace (plain state) ∧
    host.Explains schedule trace (plain state)

theorem Accounts.bind
    {names others : List String}
    {first : EStateM Fault (State × Trace State Ref) Content}
    {first' : EStateM Fault State Content}
    {next : Content → EStateM Fault (State × Trace State Ref) Result}
    {next' : Content → EStateM Fault State Result}
    (before : host.Accounts names first first')
    (after : ∀ content, host.Accounts others (next content) (next' content)) :
    host.Accounts (names ++ others) (first >>= next) (first' >>= next') := by
  intro state
  rcases before state with ⟨trace, takes, explains⟩
  simp only [Bind.bind, EStateM.bind]
  cases ended : first' state with
  | ok content middle =>
      rw [ended] at takes explains
      rcases after content middle with ⟨behind, takesBehind, explainsBehind⟩
      cases explains with
      | returned names quiet =>
          exact ⟨trace ++ behind, takes.andThen takesBehind, .append names quiet explainsBehind⟩
  | error fault middle =>
      rw [ended] at takes explains
      cases explains with
      | raised names quiet raises =>
          exact ⟨_, takes.raised,
            .raised (names.trans (List.prefix_append _ _)) quiet raises⟩

/-- Tracing accounts for everything that is put together from lookups and calls. -/
theorem composes_accounts
    (host : Host State Fault Ref) :
    Composes host.Accounts host.tracing host.access where
  pure content state := ⟨[], .pure content, explains_nothing content state⟩
  bind := Accounts.bind
  lookup container name state :=
    ⟨_, host.takes_lookup container name state, explains_act (.lookup container name) state⟩
  invoke callee arguments state := by
    by_cases callable : ∃ ref, callee = .object ref ∧ host.callable ref = true
    · rcases callable with ⟨ref, rfl, callable⟩
      rw [access_invoke_of_callable callable]
      exact ⟨_, takes_call callable arguments state, explains_act (.call ref arguments) state⟩
    · have notCallable : ∀ ref, callee = .object ref → host.callable ref = false := by
        intro ref same
        rw [← Bool.not_eq_true]
        exact fun callableRef => callable ⟨ref, same, callableRef⟩
      rw [access_invoke_of_not_callable notCallable]
      exact ⟨[], takes_skip notCallable arguments state, explains_nothing Value.null state⟩

/-- The trace of an account is the one that the traced computation leaves. -/
theorem Accounts.explains_traceOf
    {schedule : List String}
    {computation : EStateM Fault (State × Trace State Ref) Content}
    {plain : EStateM Fault State Content}
    (accounts : host.Accounts schedule computation plain)
    (state : State) :
    Takes computation state (traceOf (computation (state, []))) (plain state) ∧
      host.Explains schedule (traceOf (computation (state, []))) (plain state) := by
  rcases accounts state with ⟨trace, takes, explains⟩
  rw [takes.traceOf_eq]
  exact ⟨takes, explains⟩

variable (host)

/-- Tracing an evaluation does not change its outcome. -/
theorem takes_evaluate
    (node : Node)
    (scope invoked : Value Ref)
    (state : State) :
    Takes (host.tracing.evaluate node scope invoked) state
      (host.evaluationTrace node scope invoked state)
      (host.access.evaluate node scope invoked state) :=
  ((host.composes_accounts.evaluate node scope invoked).explains_traceOf state).1

/-- Tracing the execution of statements does not change its outcome. -/
theorem takes_execute
    (body : List Node)
    (scope : Value Ref)
    (state : State) :
    Takes (host.tracing.execute body scope) state
      (host.executionTrace body scope state)
      (host.access.execute body scope state) :=
  ((host.composes_accounts.execute body scope).explains_traceOf state).1

/-- Executing statements follows their schedule, as far as no act raises. -/
theorem explains_execute
    (body : List Node)
    (scope : Value Ref)
    (state : State) :
    host.Explains (Node.nodesSchedule body) (host.executionTrace body scope state)
      (host.access.execute body scope state) :=
  ((host.composes_accounts.execute body scope).explains_traceOf state).2

/-! ## Runs -/

variable {host} {scope : Value Ref} {source : String}

theorem runTrace_of_error
    {error : SourceError}
    (failed : readSource source = .error error)
    (state : State) :
    host.runTrace scope source state = [] := by
  rw [runTrace, Access.run_of_error failed]
  rfl

theorem runTrace_of_ok
    {body : List Node}
    (read : readSource source = .ok body)
    (state : State) :
    host.runTrace scope source state = host.executionTrace body scope state := by
  rw [runTrace, Access.run_of_ok read, executionTrace]
  simp only [EStateM.adaptExcept]
  cases host.tracing.execute body scope (state, []) <;> rfl

/-- A traced run ends as the run itself, and leaves its trace. -/
theorem tracing_run
    (state : State) :
    host.tracing.run scope source (state, []) =
      traced (host.access.run scope source state) (host.runTrace scope source state) := by
  cases read : readSource source with
  | error error =>
      rw [runTrace_of_error read, Access.run_of_error read, Access.run_of_error read]
      rfl
  | ok body =>
      rcases host.composes_accounts.execute body scope state with ⟨trace, takes, _⟩
      rw [runTrace_of_ok read, Access.run_of_ok read, Access.run_of_ok read, executionTrace,
        takes.traceOf_eq]
      simp only [EStateM.adaptExcept, takes [], List.nil_append]
      cases host.access.execute body scope state <;> rfl

end Host

end Hostcall
