/-!
# Letters

Names are made of the 52 unaccented Latin letters.  The same range test is
also offered on whole strings, where it compares lexicographically by code
point; on strings of one character the two agree.
-/

namespace Hostcall.Text

/-- One of the letters `a` to `z` and `A` to `Z`. -/
def isLetter (character : Char) : Bool :=
  ('a' ≤ character && character ≤ 'z') || ('A' ≤ character && character ≤ 'Z')

/--
A string that lies between `"a"` and `"z"`, or between `"A"` and `"Z"`, in
lexicographic order.  The empty string lies in neither range, and a longer
string does when its first letter comes before the last of its range.
-/
def inLetterRange (text : String) : Bool :=
  ("a" ≤ text && text ≤ "z") || ("A" ≤ text && text ≤ "Z")

theorem isLetter_iff
    (character : Char) :
    isLetter character = true ↔
      ('a' ≤ character ∧ character ≤ 'z') ∨ ('A' ≤ character ∧ character ≤ 'Z') := by
  simp [isLetter]

theorem singleton_le_singleton
    (left right : Char) :
    String.singleton left ≤ String.singleton right ↔ left ≤ right := by
  change ¬(String.singleton right).toList < (String.singleton left).toList ↔ _
  simp [List.cons_lt_cons_iff]

/-- A string of one character lies in a range exactly when the character is a letter. -/
theorem inLetterRange_singleton
    (character : Char) :
    inLetterRange (String.singleton character) = isLetter character := by
  have bound (text : String) (letter : Char) (single : text.toList = [letter]) :
      text = String.singleton letter := by
    apply String.toList_injective
    simp [single]
  simp only [inLetterRange, isLetter, bound "a" 'a' rfl, bound "z" 'z' rfl,
    bound "A" 'A' rfl, bound "Z" 'Z' rfl, singleton_le_singleton]

end Hostcall.Text
