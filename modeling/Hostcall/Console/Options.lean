import Hostcall.Text.DecimalDigit

/-!
# Command line options

An argument is an option when it names one: a long name or an unambiguous
beginning of one behind two hyphens, or letters behind one hyphen.  An option
that takes a text finds it in the same argument or in the next one.  An equals
sign may stand before a text, or before further letters, but only behind a long
name or behind the first letter.  Options may stand before and behind the one
argument that is no option, the file.

A double hyphen ends the options.  It belongs to the file: it may stand
directly before or behind it, or for a file that is not given.
-/

namespace Hostcall.Console

/-- The options that take no text. -/
inductive Flag where
  | help
  | tokens
  | ast
  | repl
  | verbose
  | version
deriving DecidableEq, Repr

/-- The options. -/
inductive Switch where
  /-- The option that takes a text to be run. -/
  | eval
  /-- An option that takes no text. -/
  | flag (flag : Flag)
deriving DecidableEq, Repr

namespace Switch

/-- The long names of the options, without their hyphens. -/
def longNames : List (String × Switch) :=
  [("help", .flag .help), ("eval", .eval), ("tokens", .flag .tokens), ("ast", .flag .ast),
    ("repl", .flag .repl), ("verbose", .flag .verbose), ("version", .flag .version)]

/-- The options with a letter. -/
def ofLetter : Char → Option Switch
  | 'h' => some (.flag .help)
  | 'e' => some .eval
  | 'v' => some (.flag .verbose)
  | _ => none

/-- The options whose long names begin in a given way. -/
def beginningWith (beginning : List Char) : List Switch :=
  (longNames.filter fun entry => beginning.isPrefixOf entry.1.toList).map Prod.snd

end Switch

/-! ## Single arguments -/

/-- One thing that an argument asks for. -/
inductive Demand where
  /-- What an option without a text asks for. -/
  | flag (flag : Flag)
  /-- To run a text. -/
  | source (text : String)
deriving DecidableEq, Repr

/-- What an argument before a double hyphen is. -/
inductive ArgumentKind where
  /-- No option. -/
  | plain
  /-- Options, and whether the last of them finds its text in the next argument. -/
  | demands (demands : List Demand) (textBehind : Bool)
  /-- Nothing that is known, though it looks like an option. -/
  | unknown
  /-- An option that cannot have what is written behind it. -/
  | malformed
  /-- The beginning of several long names. -/
  | ambiguous
deriving DecidableEq, Repr

/-- Ask for one thing more, before all others. -/
def ArgumentKind.push (demand : Demand) : ArgumentKind → ArgumentKind
  | .demands others textBehind => .demands (demand :: others) textBehind
  | other => other

/--
The text of an option in the same argument.  A double hyphen there is dropped,
as if it ended the options, and leaves an empty text.
-/
def attachedText (text : List Char) : String :=
  if text = ['-', '-'] then "" else String.ofList text

/--
What letters behind one hyphen ask for.  A letter without a text is followed by
further letters, of which each has to be known.  The letter that takes a text
takes all that follows it, or else the next argument.
-/
def demandsOfLetters : List Char → ArgumentKind
  | [] => .demands [] false
  | letter :: rest =>
      match Switch.ofLetter letter with
      | none => .malformed
      | some .eval =>
          match rest with
          | [] => .demands [] true
          | text => .demands [.source (attachedText text)] false
      | some (.flag flag) => (demandsOfLetters rest).push (.flag flag)

/--
What a letter asks for that is followed by an equals sign.  Behind the sign
stands the text of the letter, or further letters, at least one, for a letter
without a text.
-/
def demandsBehindEquals : Switch → List Char → ArgumentKind
  | .eval, text => .demands [.source (attachedText text)] false
  | .flag _, [] => .malformed
  | .flag flag, letters => (demandsOfLetters letters).push (.flag flag)

/-- What a long option asks for, with the text behind its equals sign if it has one. -/
def demandOfLong : Switch → Option (List Char) → ArgumentKind
  | .eval, none => .demands [] true
  | .eval, some text => .demands [.source (attachedText text)] false
  | .flag flag, none => .demands [.flag flag] false
  | .flag _, some _ => .malformed

/-- What an argument is that begins with a hyphen and names no option. -/
def kindOfOther (argument : List Char) : ArgumentKind :=
  if Text.isNegativeNumber argument || argument.contains ' ' then .plain
  else .unknown

/-- What an argument other than a double hyphen is. -/
def argumentKind (argument : String) : ArgumentKind :=
  match argument.toList with
  | '-' :: '-' :: long =>
      let name := long.takeWhile (· ≠ '=')
      let text := (long.dropWhile (· ≠ '=')).tail?
      match Switch.beginningWith name with
      | [] => kindOfOther argument.toList
      | [switch] => demandOfLong switch text
      | _ => .ambiguous
  | '-' :: letter :: rest =>
      match Switch.ofLetter letter with
      | none => kindOfOther argument.toList
      | some switch =>
          match rest with
          | '=' :: attached => demandsBehindEquals switch attached
          | _ => demandsOfLetters (letter :: rest)
  | _ => .plain

/-! ## Command lines -/

/-- What a command line asks for. -/
structure Options where
  file : Option String
  source : Option String
  tokens : Bool
  outline : Bool
  repl : Bool
  verbose : Bool
deriving DecidableEq, Repr

/-- Nothing is asked for. -/
def Options.unset : Options :=
  ⟨none, none, false, false, false, false⟩

/-- What a command line comes to. -/
inductive CommandLine where
  /-- It is refused. -/
  | refused
  /-- It asks for help. -/
  | help
  /-- It asks for the version. -/
  | version
  /-- It asks for work. -/
  | options (options : Options)
deriving DecidableEq, Repr

/-- What was understood so far. -/
structure Understood where
  options : Options
  /-- Whether the place of the file is taken, by a file or by a double hyphen. -/
  fileTaken : Bool
  /-- Whether something was given that has no place. -/
  surplus : Bool
deriving DecidableEq, Repr

/-- Nothing was understood yet. -/
def Understood.nothing : Understood :=
  ⟨.unset, false, false⟩

/-- The command line that was understood, at its end. -/
def Understood.finish (understood : Understood) : CommandLine :=
  if understood.surplus then .refused else .options understood.options

/-- Change the options. -/
def Understood.change (understood : Understood) (change : Options → Options) : Understood :=
  { understood with options := change understood.options }

/-- Take a file. -/
def Understood.takeFile (understood : Understood) (file : Option String) : Understood :=
  { understood with
    options := { understood.options with file := file }
    fileTaken := true }

/-- Meet demands in order.  Two of them decide at once what the command line comes to. -/
def meet : List Demand → Understood → Except CommandLine Understood
  | [], understood => .ok understood
  | demand :: others, understood =>
      match demand with
      | .flag .help => .error .help
      | .flag .version => .error .version
      | .flag .tokens => meet others (understood.change ({ · with tokens := true }))
      | .flag .ast => meet others (understood.change ({ · with outline := true }))
      | .flag .repl => meet others (understood.change ({ · with repl := true }))
      | .flag .verbose => meet others (understood.change ({ · with verbose := true }))
      | .source text => meet others (understood.change ({ · with source := some text }))

/-- Go on behind a double hyphen, where no argument is an option. -/
def understandPlain (understood : Understood) : List String → CommandLine
  | [] => (understood.takeFile none).finish
  | [file] => (understood.takeFile (some file)).finish
  | _ => .refused

/-- Understand the arguments from left to right. -/
def understand (understood : Understood) (arguments : List String) : CommandLine :=
  match arguments with
  | [] => understood.finish
  | argument :: rest =>
      if argument = "--" then
        if understood.fileTaken then .refused else understandPlain understood rest
      else
        match argumentKind argument with
        | .ambiguous => .refused
        | .malformed => .refused
        | .unknown => understand { understood with surplus := true } rest
        | .plain =>
            if understood.fileTaken then
              understand { understood with surplus := true } rest
            else
              let taken := understood.takeFile (some argument)
              match rest with
              | "--" :: others => if others.isEmpty then taken.finish else .refused
              | _ => understand taken rest
        | .demands demands false =>
            match meet demands understood with
            | .error commandLine => commandLine
            | .ok understood => understand understood rest
        | .demands demands true =>
            match rest with
            | [] => .refused
            | text :: others =>
                if text ≠ "--" ∧ argumentKind text = .plain then
                  match meet (demands ++ [.source text]) understood with
                  | .error commandLine => commandLine
                  | .ok understood => understand understood others
                else
                  .refused

/-- The arguments before the first double hyphen. -/
def beforeDoubleHyphen (arguments : List String) : List String :=
  arguments.takeWhile (· ≠ "--")

/--
What a command line comes to.  An ambiguous option before a double hyphen
refuses it, whatever stands before that option.
-/
def commandLine (arguments : List String) : CommandLine :=
  if (beforeDoubleHyphen arguments).any fun argument => argumentKind argument = .ambiguous then
    .refused
  else
    understand .nothing arguments

end Hostcall.Console
