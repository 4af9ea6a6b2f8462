import Hostcall.Text.Quoted
import Mathlib.Algebra.Group.Nat.Defs

/-!
# Reading quoted text back

Quoting loses nothing.  An escape ends by itself, whatever stands behind it, and
it can be read without knowing the mark of the quoted text.  So reading the
escapes one after another gives the text back, and two texts with the same
quoted form are the same, although the mark depends on the text.

No quoted text contains a line feed.
-/

namespace Hostcall.Text

/-! ## Hexadecimal digits -/

/-- The value of a hexadecimal digit in lower case. -/
def hexValue (digit : Char) : Nat :=
  if digit.isDigit then digit.toNat - '0'.toNat else digit.toNat - 'a'.toNat + 10

/-- The number that hexadecimal digits stand for. -/
def readHex (digits : List Char) : Nat :=
  digits.foldl (fun number digit => 16 * number + hexValue digit) 0

theorem hexValue_digitChar :
    ∀ digit < 16, hexValue (Nat.digitChar digit) = digit := by
  decide

theorem readHex_append_singleton
    (digits : List Char)
    (digit : Char) :
    readHex (digits ++ [digit]) = 16 * readHex digits + hexValue digit := by
  simp [readHex]

theorem readHex_hexDigits
    (width number : Nat) :
    readHex (hexDigits width number) = number % 16 ^ width := by
  induction width generalizing number with
  | zero => simp [hexDigits, readHex, Nat.mod_one]
  | succ width inductionHypothesis =>
      rw [hexDigits, readHex_append_singleton, inductionHypothesis,
        hexValue_digitChar _ (Nat.mod_lt number (by decide)), Nat.pow_succ', Nat.mod_mul,
        Nat.add_comm]

theorem lineFeed_notMem_hexDigits
    (width number : Nat) :
    '\n' ∉ hexDigits width number := by
  induction width generalizing number with
  | zero => simp [hexDigits]
  | succ width inductionHypothesis =>
      simp [hexDigits, inductionHypothesis]

/-! ## Escapes -/

/-- How many digits follow on the letter of an escape by code point. -/
def codeWidth : Char → Option Nat
  | 'x' => some 2
  | 'u' => some 4
  | 'U' => some 8
  | _ => none

/-- The character that a backslash and one more character stand for. -/
def escaped : Char → Char
  | 'n' => '\n'
  | 'r' => '\r'
  | 't' => '\t'
  | character => character

/-- The text that is written with escapes. -/
def unescape : List Char → List Char
  | [] => []
  | ['\\'] => ['\\']
  | '\\' :: letter :: rest =>
      match codeWidth letter with
      | some width => Char.ofNat (readHex (rest.take width)) :: unescape (rest.drop width)
      | none => escaped letter :: unescape rest
  | character :: rest => character :: unescape rest
termination_by text => text.length
decreasing_by
  all_goals simp only [List.length_drop, List.length_cons]
  all_goals omega

theorem unescape_of_ne
    {character : Char}
    (plain : character ≠ '\\')
    (rest : List Char) :
    unescape (character :: rest) = character :: unescape rest := by
  rw [unescape]
  all_goals simp [plain]

theorem unescape_short
    {letter : Char}
    (noCode : codeWidth letter = none)
    (rest : List Char) :
    unescape ('\\' :: letter :: rest) = escaped letter :: unescape rest := by
  rw [unescape, noCode]

theorem unescape_code
    {letter character : Char}
    {width : Nat}
    (letterWidth : codeWidth letter = some width)
    (fits : character.toNat < 16 ^ width)
    (rest : List Char) :
    unescape ('\\' :: letter :: (hexDigits width character.toNat ++ rest)) =
      character :: unescape rest := by
  have digits : (hexDigits width character.toNat ++ rest).take width =
      hexDigits width character.toNat :=
    List.take_left' (length_hexDigits width _)
  have behind : (hexDigits width character.toNat ++ rest).drop width = rest :=
    List.drop_left' (length_hexDigits width _)
  rw [unescape, letterWidth]
  dsimp only
  rw [digits, behind, readHex_hexDigits, Nat.mod_eq_of_lt fits, Char.ofNat_toNat]

theorem unescape_escapeCode
    (character : Char)
    (rest : List Char) :
    unescape (escapeCode character.toNat ++ rest) = character :: unescape rest := by
  have small : character.toNat < 0x110000 := by
    rcases character.valid with low | high
    · exact Nat.lt_trans low (by decide)
    · exact high.2
  unfold escapeCode
  split
  · exact unescape_code rfl (by omega) rest
  · split
    · exact unescape_code rfl (by omega) rest
    · exact unescape_code rfl (by omega) rest

/-- The marks between which quoted texts stand. -/
def IsMark (mark : Char) : Prop :=
  mark = '\'' ∨ mark = '"'

theorem isMark_quotationMark
    (text : List Char) :
    IsMark (quotationMark text) := by
  unfold quotationMark
  split
  · exact Or.inr rfl
  · exact Or.inl rfl

/-- An escape ends by itself. -/
theorem unescape_escapeCharacter
    {mark : Char}
    (isMark : IsMark mark)
    (character : Char)
    (rest : List Char) :
    unescape (escapeCharacter mark character ++ rest) = character :: unescape rest := by
  fun_cases escapeCharacter mark character with
  | case1 special =>
      rcases special with rfl | rfl
      · exact unescape_short rfl rest
      · rcases isMark with rfl | rfl
        · exact unescape_short rfl rest
        · exact unescape_short rfl rest
  | case2 _ lineFeed =>
      rw [lineFeed]
      exact unescape_short rfl rest
  | case3 _ _ carriageReturn =>
      rw [carriageReturn]
      exact unescape_short rfl rest
  | case4 _ _ _ tab =>
      rw [tab]
      exact unescape_short rfl rest
  | case5 notSpecial =>
      exact unescape_of_ne (fun backslash => notSpecial (Or.inl backslash)) rest
  | case6 => exact unescape_escapeCode character rest

theorem unescape_escapeAll
    {mark : Char}
    (isMark : IsMark mark)
    (text : List Char) :
    unescape (escapeAll mark text) = text := by
  induction text with
  | nil => rw [escapeAll_nil, unescape]
  | cons character text inductionHypothesis =>
      rw [escapeAll_cons, unescape_escapeCharacter isMark, inductionHypothesis]

/-! ## Quoted texts -/

/-- The text of a quoted form. -/
def unquoted (form : String) : String :=
  String.ofList (unescape form.toList.tail.dropLast)

theorem unquoted_quoted
    (text : String) :
    unquoted (quoted text) = text := by
  have inside : unescape (escapeAll (quotationMark text.toList) text.toList) = text.toList :=
    unescape_escapeAll (isMark_quotationMark text.toList) text.toList
  simp [unquoted, quoted, inside]

theorem quoted_injective : Function.Injective quoted :=
  Function.LeftInverse.injective unquoted_quoted

theorem lineFeed_notMem_escapeCharacter
    {mark : Char}
    (isMark : IsMark mark)
    (character : Char) :
    '\n' ∉ escapeCharacter mark character := by
  have code : '\n' ∉ escapeCode character.toNat := by
    unfold escapeCode
    split
    · simp [lineFeed_notMem_hexDigits]
    · split <;> simp [lineFeed_notMem_hexDigits]
  have noMark : mark ≠ '\n' := by
    rcases isMark with rfl | rfl <;> decide
  fun_cases escapeCharacter mark character with
  | case1 special =>
      rcases special with rfl | rfl
      · simp
      · simp [noMark.symm]
  | case2 => simp
  | case3 => simp
  | case4 => simp
  | case5 _ noLineFeed => simpa using Ne.symm noLineFeed
  | case6 => exact code

/-- A quoted text keeps to one line. -/
theorem lineFeed_notMem_quoted
    (text : String) :
    '\n' ∉ (quoted text).toList := by
  have isMark := isMark_quotationMark text.toList
  have noMark : '\n' ≠ quotationMark text.toList := by
    rcases isMark with mark | mark <;> rw [mark] <;> decide
  have inside : '\n' ∉ escapeAll (quotationMark text.toList) text.toList := by
    simpa [escapeAll] using fun character _ => lineFeed_notMem_escapeCharacter isMark character
  simp [quoted, noMark, inside]

/-! ## Lines -/

/-- What stands between the line feeds of a text. -/
def splitLines (text : String) : List String :=
  (text.split '\n').toList.map (·.copy)

/-- A text that is put together from lines divides into these lines. -/
theorem splitLines_intercalate
    {lines : List String}
    (oneLine : ∀ line ∈ lines, '\n' ∉ line.toList) :
    splitLines ("\n".intercalate lines) = if lines = [] then [""] else lines :=
  String.toList_split_intercalate oneLine

end Hostcall.Text
