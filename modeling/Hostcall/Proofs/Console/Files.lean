import Hostcall.Console.Command
import Hostcall.Proofs.Console.ExitCode
import Hostcall.Proofs.Token.LineEndings
import Hostcall.Proofs.Tree.Respelling

/-!
# Programs from files

A program file holds the bytes of a text, and its line endings are unified when
it is read.  That changes nothing but strings.  How a program ends does not
depend on its strings: they keep no tree from being read, take no room in the
indentation of an outline, and the demonstration host does not look at them.
So a file ends as its text does, and it shows the same if there is nothing to
unify inside the strings.

Each stage behind the scanner is followed for the tokens alone, since a text
and the text of its file differ in their numbers of characters.
-/

namespace Hostcall

/-! ## Trees with other strings -/

namespace Node

theorem overfull_renamed
    {strings : String → String}
    (node : Node) :
    (node.renamed id strings).Overfull ↔ node.Overfull := by
  cases node with
  | call first chained => simp [renamed, renamedLink_eq, Overfull, ← List.map_take]
  | text | identifier | program | absent | foreign => rfl

end Node

/-! ## Tokens with unified line endings -/

/-- Of a token's texts only strings are changed. -/
theorem Token.respelled_unified
    (token : Token) :
    Respelled id Text.unified token token.unified := by
  rcases token with ⟨kind, value⟩
  cases kind with
  | identifier => exact .identifier
  | string => exact .string
  | property => exact .property
  | call =>
      by_cases parenthesis : value = "(" ∨ value = ")"
      · exact .parenthesis parenthesis
      · exact .stray (not_or.mp parenthesis) (not_or.mp parenthesis)

/-- The tokens of a file are read as those of its text, but for the strings. -/
theorem Node.parse_unified
    (tokens : List Token) :
    parse (tokens.map Token.unified) =
      (parse tokens).map (List.map (renamed id Text.unified)) := by
  have respelled : List.Forall₂ (Token.Respelled id Text.unified) tokens
      (tokens.map Token.unified) :=
    List.forall₂_map_right_iff.mpr (List.forall₂_same.mpr fun token _ => token.respelled_unified)
  rw [parse, parse, readStatements_respelled respelled]
  cases readStatements tokens <;> rfl

namespace Console

/-! ## Stages behind the scanner -/

/-- The report of how a program ended, with the exit code. -/
def report : EStateM.Result Trouble Transcript Unit → Nat × Transcript
  | .ok _ after => (0, after)
  | .error (.source error) after => (1, after.writeLine ("[callchain] " ++ error.message))
  | .error trouble after =>
      (2, after.writeLine ("\n[callchain] Host function error: " ++ trouble.message))

theorem report_followedBy
    (earlier : Transcript)
    (ended : EStateM.Result Trouble Transcript Unit) :
    report (earlier.followedBy ended) = ((report ended).1, earlier ++ (report ended).2) := by
  cases ended with
  | ok _ after => rfl
  | error trouble after =>
      cases trouble <;> simp only [Transcript.followedBy, report, Transcript.append_writeLine]

/-- Beside a note, everything that is reported of a text is reported of its tokens. -/
theorem runSource_of_tokenize
    {source : String}
    {tokens : List Token}
    (tokenized : Token.tokenize source = .ok tokens)
    (view : View) :
    (runSource view source .empty).1 = (report (takeTokens view tokens .empty)).1 ∧
      (runSource view source .empty).2.shown =
        (report (takeTokens view tokens .empty)).2.shown := by
  have ran : runSource view source .empty =
      report (takeTokens view tokens
        (Transcript.empty.note (.scanned tokens.length source.length))) :=
    congrArg report (process_of_tokenize tokenized view .empty)
  have behind := adds_takeTokens view tokens
    (Transcript.empty.note (.scanned tokens.length source.length)) .empty
  rw [Transcript.append_empty] at behind
  rw [ran, behind, report_followedBy, Transcript.shown_append]
  exact ⟨rfl, String.empty_append⟩

/-! ## Exit codes -/

theorem code_showOutline
    (indent : Indent)
    (body : List Node)
    (transcript : Transcript) :
    (report (showOutline indent body transcript)).1 =
      if failure? ((Node.program body).outline indent 0) = none then 0 else 2 := by
  simp only [showOutline]
  cases (Node.program body).outline indent 0 <;> rfl

theorem code_runBody
    {body : List Node}
    (wellFormed : ∀ statement ∈ body, statement.WellFormed)
    (transcript : Transcript) :
    (report (runBody body transcript)).1 =
      if ∃ node ∈ Node.positionsOn "myConsole" body, node.Overfull then 2 else 0 := by
  have foreseen : Foreseen (∃ statement ∈ body, statement.Stumbles) (fun _ => True)
      (demoHost.access.execute body Demo.scope) := Demo.foreseen_execute wellFormed
  rw [Node.exists_stumbles_iff] at foreseen
  have told := foreseen transcript
  simp only [runBody]
  cases executed : demoHost.access.execute body Demo.scope transcript with
  | ok _ after =>
      rw [executed] at told
      exact (if_neg told.1).symm
  | error failure after =>
      rw [executed] at told
      exact (if_pos told).symm

/-- Strings do not matter to the exit code. -/
theorem code_unified
    {tokens : List Token}
    (proper : ∀ token ∈ tokens, token.IsProper)
    (properUnified : ∀ token ∈ tokens.map Token.unified, token.IsProper)
    (view : View) :
    (report (takeTokens view (tokens.map Token.unified) .empty)).1 =
      (report (takeTokens view tokens .empty)).1 := by
  have parsedUnified := Node.parse_unified tokens
  by_cases isTokens : view = .tokens
  · simp only [takeTokens, if_pos isTokens, showTokens, report]
  rw [takeTokens, takeTokens, if_neg isTokens, if_neg isTokens]
  cases parsed : Node.parse tokens with
  | error failure =>
      rw [parsed] at parsedUnified
      rw [bind_of_error (readTokens_of_error parsed _),
        bind_of_error (readTokens_of_error parsedUnified _)]
  | ok body =>
      rw [parsed] at parsedUnified
      rw [bind_of_ok (readTokens_of_ok parsed _), bind_of_ok (readTokens_of_ok parsedUnified _)]
      have ran (start start' : Transcript) :
          (report (runBody (body.map (Node.renamed id Text.unified)) start)).1 =
            (report (runBody body start')).1 := by
        rw [code_runBody (Node.wellFormed_of_parse proper parsed),
          code_runBody (Node.wellFormed_of_parse properUnified parsedUnified),
          Node.positionsOn_renamed]
        simp [Node.overfull_renamed]
      cases view with
      | outline indent =>
          have outlined :
              failure? (((Node.program body).renamed id Text.unified).outline indent 0) =
                failure? ((Node.program body).outline indent 0) :=
            Node.failure?_outline_renamed indent 0 (.program body)
          rw [Node.renamed, Node.renamedAll_eq_map] at outlined
          rw [takeBody, takeBody, code_showOutline, code_showOutline, outlined]
      | run | tokens => exact ran _ _

/-! ## Files -/

theorem textOfBytes_toUTF8
    (source : String) :
    textOfBytes source.toUTF8 = .ok (Text.unified source) := by
  rw [textOfBytes, Text.Utf8.decode_toUTF8]
  rfl

/--
A text that is read from a file has the same tokens but for the line endings in
its strings.  Whatever the view, the file is processed with the exit code of the
text, and it shows the same if no string of the text holds a carriage return.
-/
theorem runFile_toUTF8
    (view : View)
    (path source : String) :
    (match Token.tokenize source with
      | .ok tokens =>
          Token.tokenize (Text.unified source) = .ok (tokens.map Token.unified)
      | .error _ => ∃ failure, Token.tokenize (Text.unified source) = .error failure) ∧
      ∃ transcript,
        runFile view path (.ok source.toUTF8) =
          (.exit (runSource view source .empty).1, transcript) ∧
        ∀ tokens, Token.tokenize source = .ok tokens →
          (∀ token ∈ tokens, token.kind = .string → '\r' ∉ token.value.toList) →
            transcript.shown = (runSource view source .empty).2.shown := by
  have ran : runFile view path (.ok source.toUTF8) =
      (.exit (runSource view (Text.unified source) .empty).1,
        (runSource view (Text.unified source) .empty).2) := by
    simp only [runFile, textOfBytes_toUTF8]
  rw [ran]
  cases tokenized : Token.tokenize source with
  | error failure =>
      rcases Token.tokenize_unified_of_error tokenized with ⟨failure', tokenized'⟩
      have code : (runSource view (Text.unified source) .empty).1 =
          (runSource view source .empty).1 := by
        simp only [runSource, process_of_tokenize_error tokenized,
          process_of_tokenize_error tokenized']
      exact ⟨⟨failure', tokenized'⟩, _, by rw [code], by simp⟩
  | ok tokens =>
      have tokenized' := Token.tokenize_unified_of_ok tokenized
      rcases runSource_of_tokenize tokenized view with ⟨code, shown⟩
      rcases runSource_of_tokenize tokenized' view with ⟨code', shown'⟩
      have kept := code_unified (Token.isProper_of_tokenize tokenized)
        (Token.isProper_of_tokenize tokenized') view
      refine ⟨tokenized', _, by rw [code, code', kept], ?_⟩
      rintro _ ⟨⟩ noReturn
      have same : tokens.map Token.unified = tokens := by
        rw [List.map_congr_left fun token member => Token.unified_of_notMem (noReturn token member),
          List.map_id']
      rw [shown, shown', same]

/-- Line endings of two forms stand between tokens, and none is shown. -/
theorem runFile_toUTF8_betweenTokens :
    ∃ transcript,
      runFile .run "program" (.ok "testLog(\r\n\"a\")\r".toUTF8) = (.exit 0, transcript) ∧
        transcript.shown = "a\n" := by
  have tokenized : Token.tokenize "testLog(\r\n\"a\")\r" =
      .ok [⟨.identifier, "testLog"⟩, ⟨.call, "("⟩, ⟨.string, "a"⟩, ⟨.call, ")"⟩] := by
    decide +kernel
  have code : (runSource .run "testLog(\r\n\"a\")\r" .empty).1 = 0 := by
    decide +kernel
  have shown : (runSource .run "testLog(\r\n\"a\")\r" .empty).2.shown = "a\n" := by
    decide +kernel
  rcases runFile_toUTF8 .run "program" "testLog(\r\n\"a\")\r" with ⟨_, transcript, ran, same⟩
  rw [code] at ran
  rw [← shown]
  exact ⟨transcript, ran, same _ tokenized (by simp)⟩

end Console

end Hostcall
