import Hostcall.Console.Program
import Hostcall.Proofs.Evaluation.Composition

/-!
# Processing a program

A program adds to the transcript that it is given.  It takes nothing away, and
neither what it adds nor how it ends depends on what was there before.  So a
program can be looked at on an empty transcript, and the result be put behind
any other.  For the evaluation of statements this holds because it holds of
every lookup and of every call of the demonstration host.

How far a program gets depends on its view and on whether its text can be read;
nothing is shown before that is known.
-/

namespace Hostcall.Console

variable {Fault Content Result : Type}

/-! ## Transcripts one behind the other -/

namespace Transcript

/-- What was shown and noted first, and what was shown and noted then. -/
def append (earlier later : Transcript) : Transcript :=
  ⟨earlier.shown ++ later.shown, earlier.notes ++ later.notes⟩

instance : Append Transcript :=
  ⟨append⟩

@[simp]
theorem shown_append
    (earlier later : Transcript) :
    (earlier ++ later).shown = earlier.shown ++ later.shown :=
  rfl

@[simp]
theorem shown_write
    (transcript : Transcript)
    (text : String) :
    (transcript.write text).shown = transcript.shown ++ text :=
  rfl

@[simp]
theorem shown_writeLine
    (transcript : Transcript)
    (line : String) :
    (transcript.writeLine line).shown = transcript.shown ++ line ++ "\n" := by
  rw [writeLine, shown_write, String.append_assoc]

@[simp]
theorem append_empty
    (transcript : Transcript) :
    transcript ++ empty = transcript := by
  change Transcript.mk (transcript.shown ++ "") (transcript.notes ++ []) = transcript
  rw [String.append_empty, List.append_nil]

@[simp]
theorem append_write
    (earlier later : Transcript)
    (text : String) :
    (earlier ++ later).write text = earlier ++ later.write text := by
  change Transcript.mk (earlier.shown ++ later.shown ++ text) _ =
    Transcript.mk (earlier.shown ++ (later.shown ++ text)) _
  rw [String.append_assoc]
  rfl

@[simp]
theorem append_writeLine
    (earlier later : Transcript)
    (line : String) :
    (earlier ++ later).writeLine line = earlier ++ later.writeLine line :=
  append_write earlier later _

@[simp]
theorem append_note
    (earlier later : Transcript)
    (note : Note) :
    (earlier ++ later).note note = earlier ++ later.note note := by
  change Transcript.mk _ (earlier.notes ++ later.notes ++ [note]) =
    Transcript.mk _ (earlier.notes ++ (later.notes ++ [note]))
  rw [List.append_assoc]
  rfl

@[simp]
theorem putOut_append
    (earlier later : Transcript)
    (values : List (Value Demo.Object)) :
    (earlier ++ later).putOut values = earlier ++ later.putOut values :=
  append_writeLine earlier later _

/-- The outcome, with its transcript put behind another one. -/
def followedBy
    (earlier : Transcript) :
    EStateM.Result Fault Transcript Content → EStateM.Result Fault Transcript Content
  | .ok content later => .ok content (earlier ++ later)
  | .error fault later => .error fault (earlier ++ later)

end Transcript

/-! ## Computations that add to a transcript -/

/-- What the computation does does not depend on what was shown before. -/
def Adds (computation : EStateM Fault Transcript Content) : Prop :=
  ∀ earlier later, computation (earlier ++ later) = earlier.followedBy (computation later)

theorem Adds.pure
    (content : Content) :
    Adds (Pure.pure content : EStateM Fault Transcript Content) := by
  intro earlier later
  rfl

theorem Adds.bind
    {first : EStateM Fault Transcript Content}
    {next : Content → EStateM Fault Transcript Result}
    (before : Adds first)
    (after : ∀ content, Adds (next content)) :
    Adds (first >>= next) := by
  intro earlier later
  simp only [Bind.bind, EStateM.bind, before earlier later]
  cases first later with
  | ok content middle => exact after content earlier middle
  | error fault middle => rfl

theorem adds_callPlain
    (callee line : String)
    (returned : Value Demo.Object)
    (arguments : List (Value Demo.Object)) :
    Adds (Demo.callPlain Transcript.putOut callee line returned arguments) := by
  intro earlier later
  cases arguments with
  | nil => simp [Demo.callPlain, Transcript.followedBy]
  | cons argument others => rfl

theorem adds_call
    (callee : Demo.Object)
    (arguments : List (Value Demo.Object)) :
    Adds (demoHost.call callee arguments) := by
  cases callee with
  | root => exact .pure _
  | console => exact .pure _
  | log =>
      intro earlier later
      simp [demoHost, Demo.host, Demo.call, Transcript.followedBy]
  | testLog =>
      intro earlier later
      simp [demoHost, Demo.host, Demo.call, Transcript.followedBy]
  | secondCall => exact adds_callPlain _ _ _ arguments
  | thirdCall => exact adds_callPlain _ _ _ arguments

/-- Everything that a program does in the demonstration host adds to the transcript. -/
theorem composes_adds :
    Composes (fun _ computation _ => Adds computation) demoHost.access demoHost.access where
  pure := .pure
  bind := .bind
  lookup container name := by
    rw [demoHost, Demo.lookup_host]
    exact .pure _
  invoke callee arguments := by
    cases callee with
    | object object =>
        change Adds (if _ then _ else _)
        split
        · exact adds_call object arguments
        · exact .pure _
    | null | bool | int | text | list => exact .pure _

/-! ## Stages -/

variable {state after : Transcript}

theorem bind_of_ok
    {first : EStateM Fault Transcript Content}
    {content : Content}
    (ended : first state = .ok content after)
    (next : Content → EStateM Fault Transcript Result) :
    (first >>= next) state = next content after := by
  simp only [Bind.bind, EStateM.bind, ended]

theorem bind_of_error
    {first : EStateM Fault Transcript Content}
    {fault : Fault}
    (ended : first state = .error fault after)
    (next : Content → EStateM Fault Transcript Result) :
    (first >>= next) state = .error fault after := by
  simp only [Bind.bind, EStateM.bind, ended]

theorem scanText_of_ok
    {source : String}
    {tokens : List Token}
    (tokenized : Token.tokenize source = .ok tokens)
    (transcript : Transcript) :
    scanText source transcript =
      .ok tokens (transcript.note (.scanned tokens.length source.length)) := by
  rw [scanText, tokenized]

theorem scanText_of_error
    {source : String}
    {failure : UnterminatedString}
    (failed : Token.tokenize source = .error failure)
    (transcript : Transcript) :
    scanText source transcript = .error (.source (.unterminatedString failure)) transcript := by
  rw [scanText, failed]

theorem readTokens_of_ok
    {tokens : List Token}
    {body : List Node}
    (parsed : Node.parse tokens = .ok body)
    (transcript : Transcript) :
    readTokens tokens transcript =
      .ok body (transcript.note (.parsed body.length tokens.length)) := by
  rw [readTokens, parsed]

theorem readTokens_of_error
    {tokens : List Token}
    {failure : UnterminatedCall}
    (failed : Node.parse tokens = .error failure)
    (transcript : Transcript) :
    readTokens tokens transcript = .error (.source (.unterminatedCall failure)) transcript := by
  rw [readTokens, failed]

theorem adds_scanText
    (source : String) :
    Adds (scanText source) := by
  intro earlier later
  simp only [scanText]
  cases Token.tokenize source with
  | error failure => rfl
  | ok tokens => simp [Transcript.followedBy]

theorem adds_readTokens
    (tokens : List Token) :
    Adds (readTokens tokens) := by
  intro earlier later
  simp only [readTokens]
  cases Node.parse tokens with
  | error failure => rfl
  | ok body => simp [Transcript.followedBy]

theorem adds_showTokens
    (tokens : List Token) :
    Adds (showTokens tokens) := by
  intro earlier later
  simp [showTokens, Transcript.followedBy]

theorem adds_showOutline
    (indent : Indent)
    (body : List Node) :
    Adds (showOutline indent body) := by
  intro earlier later
  simp only [showOutline]
  cases (Node.program body).outline indent 0 with
  | ok outline => simp [Transcript.followedBy]
  | error failure => rfl

theorem adds_runBody
    (body : List Node) :
    Adds (runBody body) := by
  intro earlier later
  simp only [runBody, composes_adds.execute body Demo.scope earlier later]
  cases demoHost.access.execute body Demo.scope later with
  | ok _ after => simp [Transcript.followedBy]
  | error failure after => rfl

/-! ## Programs -/

theorem adds_takeTokens
    (view : View)
    (tokens : List Token) :
    Adds (takeTokens view tokens) := by
  rw [takeTokens]
  split
  · exact adds_showTokens tokens
  · refine (adds_readTokens tokens).bind fun body => ?_
    cases view with
    | outline indent => exact adds_showOutline indent body
    | run | tokens => exact adds_runBody body

/-- However a source text is processed, it adds to the transcript. -/
theorem adds_process
    (view : View)
    (source : String) :
    Adds (process view source) :=
  (adds_scanText source).bind (adds_takeTokens view)

theorem process_of_tokenize
    {source : String}
    {tokens : List Token}
    (tokenized : Token.tokenize source = .ok tokens)
    (view : View)
    (transcript : Transcript) :
    process view source transcript =
      takeTokens view tokens (transcript.note (.scanned tokens.length source.length)) :=
  bind_of_ok (scanText_of_ok tokenized transcript) _

/-- Nothing is done with a text that has no tokens. -/
theorem process_of_tokenize_error
    {source : String}
    {failure : UnterminatedString}
    (failed : Token.tokenize source = .error failure)
    (view : View)
    (transcript : Transcript) :
    process view source transcript =
      .error (.source (.unterminatedString failure)) transcript :=
  bind_of_error (scanText_of_error failed transcript) _

/-- Tokens can be listed of every text that has any. -/
theorem process_tokens
    (source : String)
    (transcript : Transcript) :
    (∃ failure, process .tokens source transcript =
        .error (.source (.unterminatedString failure)) transcript) ∨
      ∃ after, process .tokens source transcript = .ok () after := by
  cases tokenized : Token.tokenize source with
  | error failure => exact Or.inl ⟨failure, process_of_tokenize_error tokenized _ _⟩
  | ok tokens => exact Or.inr ⟨_, process_of_tokenize tokenized _ _⟩

/-- Nothing is shown of a text that is no program. -/
theorem process_of_error
    {view : View}
    {source : String}
    {error : SourceError}
    (notTokens : view ≠ .tokens)
    (failed : readSource source = .error error)
    (transcript : Transcript) :
    ∃ after, after.shown = transcript.shown ∧
      process view source transcript = .error (.source error) after := by
  rw [readSource] at failed
  cases tokenized : Token.tokenize source with
  | error failure =>
      rw [tokenized] at failed
      cases failed
      exact ⟨transcript, rfl, process_of_tokenize_error tokenized _ _⟩
  | ok tokens =>
      rw [tokenized] at failed
      cases parsed : Node.parse tokens with
      | error failure =>
          simp only [parsed] at failed
          cases failed
          refine ⟨transcript.note (.scanned tokens.length source.length), rfl, ?_⟩
          rw [process_of_tokenize tokenized, takeTokens, if_neg notTokens]
          exact bind_of_error (readTokens_of_error parsed _) _
      | ok body =>
          simp only [parsed] at failed
          cases failed

/-- A program is processed on a transcript that shows what was shown before. -/
theorem process_of_ok
    {view : View}
    {source : String}
    {body : List Node}
    (notTokens : view ≠ .tokens)
    (read : readSource source = .ok body)
    (transcript : Transcript) :
    ∃ start, start.shown = transcript.shown ∧
      process view source transcript = takeBody view body start := by
  rcases readSource_eq_ok_iff.mp read with ⟨tokens, tokenized, parsed⟩
  refine ⟨(transcript.note (.scanned tokens.length source.length)).note
    (.parsed body.length tokens.length), rfl, ?_⟩
  rw [process_of_tokenize tokenized, takeTokens, if_neg notTokens]
  exact bind_of_ok (readTokens_of_ok parsed _) _

end Hostcall.Console
