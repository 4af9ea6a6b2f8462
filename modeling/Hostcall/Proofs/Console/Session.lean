import Hostcall.Console.Session
import Hostcall.Proofs.Console.Processing
import Hostcall.Proofs.Evaluation.Account
import Hostcall.Proofs.Tree.Outline
import Mathlib.Data.List.Forall2

/-!
# Sessions

A session answers every line as if the program of that line were run alone, on
a host that nothing has happened to.  Only its reports of what went wrong are
worded differently.  What a session shows is therefore the answers to its
lines, one after another, each behind a prompt.
-/

namespace Hostcall.Console

/-! ## Texts of one line -/

/-- There is no line feed in the text. -/
def OneLine (text : String) : Prop :=
  '\n' ∉ text.toList

theorem oneLine_toString
    (number : Nat) :
    OneLine (toString number) := by
  intro member
  change '\n' ∈ number.repr.toList at member
  rw [Nat.toList_repr] at member
  exact absurd (Nat.isDigit_of_mem_toDigits (by decide) (by decide) member) (by decide)

/-- If a text begins with a line feed, a line feed in it is the first character or lies behind. -/
theorem eq_nil_of_lineFeed
    {line between line' : List Char}
    (oneLine : '\n' ∉ line)
    (same : '\n' :: line = between ++ '\n' :: line') :
    between = [] ∧ line = line' := by
  cases between with
  | nil => exact ⟨rfl, (List.cons.inj same).2⟩
  | cons character between =>
      obtain ⟨_, behind⟩ := List.cons.inj same
      rw [behind] at oneLine
      exact absurd (List.mem_append_right between List.mem_cons_self) oneLine

/-- A text divides in one way into its last line and what stands before it. -/
theorem append_lineFeed_inj
    {front front' line line' : List Char}
    (oneLine : '\n' ∉ line)
    (oneLine' : '\n' ∉ line')
    (same : front ++ '\n' :: line = front' ++ '\n' :: line') :
    front = front' ∧ line = line' := by
  rcases List.append_eq_append_iff.mp same with ⟨between, rfl, behind⟩ | ⟨between, rfl, behind⟩
  · obtain ⟨rfl, rfl⟩ := eq_nil_of_lineFeed oneLine behind
    exact ⟨(List.append_nil front).symm, rfl⟩
  · obtain ⟨rfl, rfl⟩ := eq_nil_of_lineFeed oneLine' behind
    exact ⟨List.append_nil front', rfl⟩

/-! ## Wording -/

/--
What a session shows for a program, by the exit code of running it alone and by
what that shows.  Only the report of what went wrong is worded anew.  It is the
last line, and nothing stands before it if the text is no program.
-/
inductive Reworded : Nat → String → String → Prop where
  | completed {shown} :
      Reworded 0 shown shown
  | unread {message} :
      Reworded 1 ("[callchain] " ++ message ++ "\n") ("[Error] " ++ message ++ "\n")
  | failed {before message}
      (oneLine : OneLine message) :
      Reworded 2
        (before ++ "\n[callchain] Host function error: " ++ message ++ "\n")
        (before ++ "[Host Error] " ++ message ++ "\n")

theorem report_inj
    {before before' message message' : String}
    (oneLine : OneLine message)
    (oneLine' : OneLine message')
    (same : before ++ "\n[callchain] Host function error: " ++ message ++ "\n" =
      before' ++ "\n[callchain] Host function error: " ++ message' ++ "\n") :
    before = before' ∧ message = message' := by
  have marked {text : String} (one : OneLine text) :
      '\n' ∉ "[callchain] Host function error: ".toList ++ text.toList := by
    simpa [OneLine] using one
  have report (front text : String) :
      (front ++ "\n[callchain] Host function error: " ++ text).toList =
        front.toList ++ '\n' :: ("[callchain] Host function error: ".toList ++ text.toList) := by
    simp
  have characters := congrArg String.toList ((String.append_left_inj "\n").mp same)
  rw [report, report] at characters
  obtain ⟨front, behind⟩ := append_lineFeed_inj (marked oneLine) (marked oneLine') characters
  exact ⟨String.toList_injective front,
    String.toList_injective (List.append_cancel_left behind)⟩

theorem Reworded.unique
    {code : Nat}
    {shown text text' : String}
    (first : Reworded code shown text)
    (second : Reworded code shown text') :
    text = text' := by
  generalize same : shown = shown' at second
  cases first with
  | completed =>
      cases second
      exact same
  | unread =>
      cases second
      simp only [String.append_left_inj, String.append_right_inj] at same
      rw [same]
  | failed oneLine =>
      cases second with
      | failed oneLine' =>
          obtain ⟨rfl, rfl⟩ := report_inj oneLine oneLine' same
          rfl

/-! ## The errors of a program are reported in one line -/

theorem oneLine_unwantedArguments
    {failure : Demo.UnwantedArguments}
    (callee : OneLine failure.callee) :
    OneLine failure.message := by
  have number : OneLine (if failure.given = 1 then " was given" else " were given") := by
    split <;> simp [OneLine]
  unfold Demo.UnwantedArguments.message
  simp only [OneLine, String.toList_append, List.mem_append, not_or]
  refine ⟨⟨⟨⟨?_, callee⟩, ?_⟩, oneLine_toString failure.given⟩, number⟩ <;> simp

/-- Only the functions without parameters raise. -/
theorem oneLine_of_call_eq_error
    {object : Demo.Object}
    {arguments : List (Value Demo.Object)}
    {transcript after : Transcript}
    {failure : Demo.UnwantedArguments}
    (failed : demoHost.call object arguments transcript = .error failure after) :
    OneLine failure.message := by
  apply oneLine_unwantedArguments
  cases object with
  | root => cases failed
  | console => cases failed
  | log => cases failed
  | testLog => cases failed
  | secondCall =>
      cases arguments with
      | nil => cases failed
      | cons argument others =>
          cases failed
          simp [OneLine]
  | thirdCall =>
      cases arguments with
      | nil => cases failed
      | cons argument others =>
          cases failed
          simp [OneLine]

theorem oneLine_of_runBody
    {body : List Node}
    {transcript after : Transcript}
    {trouble : Trouble}
    (failed : runBody body transcript = .error trouble after) :
    ∃ failure, trouble = .host failure ∧ OneLine failure.message := by
  simp only [runBody] at failed
  have explains := demoHost.explains_execute body Demo.scope transcript
  cases executed : demoHost.access.execute body Demo.scope transcript with
  | ok _ finish =>
      rw [executed] at failed
      cases failed
  | error failure finish =>
      rw [executed] at failed explains
      cases failed
      refine ⟨failure, rfl, ?_⟩
      generalize demoHost.executionTrace body Demo.scope transcript = acts at explains
      cases explains with
      | @raised earlier last _ _ _ _ raises =>
          rcases last with ⟨act, asked⟩
          cases raises with
          | lookup raised _ => cases raised
          | call raised => exact oneLine_of_call_eq_error raised

theorem oneLine_of_showOutline
    {indent : Indent}
    {body : List Node}
    (wellFormed : ∀ statement ∈ body, statement.WellFormed)
    {transcript after : Transcript}
    {trouble : Trouble}
    (failed : showOutline indent body transcript = .error trouble after) :
    ∃ failure, trouble = .outline failure ∧ OneLine failure.message := by
  simp only [showOutline] at failed
  cases outlined : (Node.program body).outline indent 0 with
  | ok outline =>
      rw [outlined] at failed
      cases failed
  | error failure =>
      rw [outlined] at failed
      cases failed
      have made : ∀ statement ∈ body, statement.MadeOf Token.IsProper := fun statement member =>
        Node.madeOf_isProper_iff.mpr (wellFormed statement member)
      rcases Node.spaces_of_outline_eq_error made outlined with ⟨shortage, rfl, _⟩
      refine ⟨_, rfl, ?_⟩
      cases shortage <;> simp [OneLine, OutlineError.message, Text.SpacesError.message]

/--
Either the text cannot be read, and then nothing was shown, or what goes wrong
is reported in one line.
-/
theorem reportable
    {view : View}
    {source : String}
    {trouble : Trouble}
    {after : Transcript}
    (failed : process view source .empty = .error trouble after) :
    (∃ error, trouble = .source error ∧ after.shown = "") ∨
      (∀ error, trouble ≠ .source error) ∧ OneLine trouble.message := by
  by_cases tokens : view = .tokens
  · subst tokens
    rcases process_tokens source .empty with ⟨failure, ended⟩ | ⟨finish, ended⟩
    · rw [ended] at failed
      cases failed
      exact Or.inl ⟨_, rfl, rfl⟩
    · rw [ended] at failed
      cases failed
  · cases read : readSource source with
    | error error =>
        rcases process_of_error tokens read .empty with ⟨finish, nothing, ended⟩
        rw [ended] at failed
        cases failed
        exact Or.inl ⟨error, rfl, nothing⟩
    | ok body =>
        rcases process_of_ok tokens read .empty with ⟨start, _, ended⟩
        rw [ended] at failed
        cases view with
        | tokens => exact absurd rfl tokens
        | outline indent =>
            have wellFormed := Node.wellFormed_of_readSource read
            rcases oneLine_of_showOutline wellFormed failed with ⟨failure, rfl, oneLine⟩
            exact Or.inr ⟨by simp, oneLine⟩
        | run =>
            rcases oneLine_of_runBody failed with ⟨failure, rfl, oneLine⟩
            exact Or.inr ⟨by simp, oneLine⟩

/-! ## Answers -/

/-- A session takes a text through the same stages as the tool takes a program of its own. -/
theorem takeText_eq_process
    (view : View)
    (source : String) :
    takeText view source = process view source := by
  cases view with
  | tokens => simp only [takeText, process, takeTokens, if_true]
  | outline indent => simp only [takeText, process, takeTokens, takeBody, reduceCtorEq, if_false]
  | run => simp only [takeText, runText, process, takeTokens, takeBody, reduceCtorEq, if_false]

/-- What a session shows for a program is what running it alone shows, worded anew. -/
theorem reworded_processLine
    (view : View)
    (source : String) :
    Reworded (runSource view source .empty).1 (runSource view source .empty).2.shown
      (processLine view source .empty).shown := by
  simp only [runSource, processLine, takeText_eq_process]
  cases ended : process view source .empty with
  | ok _ after => exact .completed
  | error trouble after =>
      rcases reportable ended with ⟨error, rfl, nothing⟩ | ⟨noSource, oneLine⟩
      · have report : Reworded 1 ("[callchain] " ++ error.message ++ "\n")
            ("[Error] " ++ error.message ++ "\n") := .unread
        simpa [nothing] using report
      · have report : Reworded 2
            (after.shown ++ "\n[callchain] Host function error: " ++ trouble.message ++ "\n")
            (after.shown ++ "[Host Error] " ++ trouble.message ++ "\n") := .failed oneLine
        cases trouble with
        | source error => exact absurd rfl (noSource error)
        | outline failure => simpa [String.append_assoc] using report
        | host failure => simpa [String.append_assoc] using report

theorem processLine_eq_append
    (view : View)
    (source : String)
    (transcript : Transcript) :
    processLine view source transcript = transcript ++ processLine view source .empty := by
  have added := adds_process view source transcript .empty
  rw [Transcript.append_empty] at added
  simp only [processLine, takeText_eq_process, added]
  cases process view source .empty with
  | ok _ after => rfl
  | error trouble after =>
      cases trouble <;> simp only [Transcript.followedBy, Transcript.append_writeLine]

/-- The answer to a line: nothing, or what a session shows for the program. -/
inductive Answers (view : View) (line : String) : String → Prop where
  | blank
      (blank : Text.stripped line = "") :
      Answers view line ""
  | program {answer}
      (present : Text.stripped line ≠ "")
      (reworded :
        Reworded (runSource view (Text.stripped line) .empty).1
          (runSource view (Text.stripped line) .empty).2.shown answer) :
      Answers view line answer

/-- What the session shows for a line on an empty transcript. -/
def answer (view : View) (line : String) : String :=
  if Text.stripped line = "" then ""
  else (processLine view (Text.stripped line) .empty).shown

theorem answers_iff
    {view : View}
    {line text : String} :
    Answers view line text ↔ answer view line = text := by
  rw [answer]
  constructor
  · intro answers
    cases answers with
    | blank blank => exact if_pos blank
    | program present reworded =>
        rw [if_neg present]
        exact (reworded_processLine view _).unique reworded
  · rintro rfl
    split
    · next blank => exact .blank blank
    · next present => exact .program present (reworded_processLine view _)

/-! ## Lines -/

/-- What stands between the line feeds of a text; nothing stands behind one at the very end. -/
def typedLines (input : String) : List String :=
  let pieces := input.toList.splitOn '\n'
  (if pieces.getLast? = some [] then pieces.dropLast else pieces).map String.ofList

/-- The line ends the session. -/
def leaves (line : String) : Bool :=
  Text.stripped line == "quit" || Text.stripped line == "exit"

/-- What is shown last, by the lines that were typed. -/
def parting (lines : List String) : String :=
  if lines.any leaves then farewell ++ "\n" else "\n" ++ farewell ++ "\n"

theorem lines_eq_splitOn
    (text : List Char) :
    Text.lines text =
      if (text.splitOn '\n').getLast? = some [] then (text.splitOn '\n').dropLast
      else text.splitOn '\n' := by
  induction text with
  | nil => rfl
  | cons character rest inductionHypothesis =>
      rcases List.exists_cons_of_ne_nil (List.splitOn_ne_nil '\n' rest) with
        ⟨piece, others, pieces⟩
      rw [Text.lines, inductionHypothesis, List.splitOn_cons_eq_if_modifyHead, pieces]
      by_cases lineFeed : character = '\n'
      · simp only [lineFeed, List.getLast?_cons_cons, beq_self_eq_true, if_true]
        split <;> simp
      · cases others with
        | nil => cases piece <;> simp [lineFeed]
        | cons next others =>
            by_cases ends : (next :: others).getLast? = some []
            · simp [lineFeed, List.getLast?_cons_cons, ends]
            · simp [lineFeed, List.getLast?_cons_cons, ends]

/-! ## Sessions -/

theorem answerLine_of_leaves
    {line : String}
    (leaving : leaves line = true)
    (view : View)
    (transcript : Transcript) :
    answerLine view line transcript = (.ends, transcript.writeLine farewell) := by
  simp only [leaves, Bool.or_eq_true, beq_iff_eq] at leaving
  have present : Text.stripped line ≠ "" := by
    rcases leaving with quit | exit
    · simp [quit]
    · simp [exit]
  simp only [answerLine, if_neg present, if_pos leaving]

theorem answerLine_of_stays
    {line : String}
    (staying : leaves line = false)
    (view : View)
    (transcript : Transcript) :
    ∃ after, answerLine view line transcript = (.goesOn, after) ∧
      after.shown = transcript.shown ++ answer view line := by
  simp only [leaves, Bool.or_eq_false_iff, beq_eq_false_iff_ne] at staying
  by_cases blank : Text.stripped line = ""
  · exact ⟨transcript, by simp only [answerLine, if_pos blank], by simp [answer, blank]⟩
  · refine ⟨processLine view (Text.stripped line) transcript, ?_, ?_⟩
    · simp only [answerLine, if_neg blank, if_neg (not_or.mpr staying)]
    · rw [processLine_eq_append, Transcript.shown_append, answer, if_neg blank]

theorem shown_answerLines
    (view : View)
    (lines : List String)
    (transcript : Transcript) :
    (answerLines view lines transcript).shown =
      transcript.shown ++
        String.join ((lines.takeWhile (!leaves ·)).map fun line => prompt ++ answer view line) ++
        prompt ++ parting lines := by
  induction lines generalizing transcript with
  | nil => simp [answerLines, parting, String.append_assoc]
  | cons line others inductionHypothesis =>
      rw [answerLines]
      cases leaving : leaves line with
      | true =>
          rw [answerLine_of_leaves leaving]
          simp [parting, leaving, String.append_assoc]
      | false =>
          rcases answerLine_of_stays leaving view (transcript.write prompt) with
            ⟨after, answered, shown⟩
          simp only [answered, inductionHypothesis, shown]
          simp [parting, leaving, String.append_assoc]

/--
A session shows its banner, then a prompt and an answer for every line up to
the first that ends it, and then one more prompt and a farewell.  The answer to
a line depends on this line alone.
-/
theorem session_shown
    (view : View)
    (input : String) :
    ∃ answers : List String,
      (∀ texts, List.Forall₂ (Answers view) ((typedLines input).takeWhile (!leaves ·)) texts ↔
        texts = answers) ∧
      (session view input).shown =
        banner ++ String.join (answers.map (prompt ++ ·)) ++ prompt ++
          parting (typedLines input) := by
  refine ⟨((typedLines input).takeWhile (!leaves ·)).map (answer view), ?_, ?_⟩
  · intro texts
    have answered : Answers view = fun line text => answer view line = text := by
      funext line text
      exact propext answers_iff
    rw [answered, ← List.forall₂_map_left_iff, List.forall₂_eq_eq_eq]
    exact eq_comm
  · have lines : (Text.lines input.toList).map String.ofList = typedLines input := by
      rw [typedLines, lines_eq_splitOn]
    rw [session, lines, shown_answerLines, List.map_map]
    rfl

example :
    (session .run "testLog(globalValue)\n \nmyConsole.log(\nexit\nx").shown =
      banner ++ "> ==> hello word4\n> > [Error] [callchain #3] Parse error: " ++
        "Unterminated call argument list\n> [callchain] Goodbye.\n" := by
  decide +kernel

end Hostcall.Console
