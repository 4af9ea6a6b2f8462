/-!
# Lines

A line ends at a line feed, and the last line may go without one.  Files also
end lines with a carriage return, alone or before a line feed; those endings
are unified before a file is read as a program.
-/

namespace Hostcall.Text

/-- The lines of a text.  A line feed at the very end begins no further line. -/
def lines : List Char → List (List Char)
  | [] => []
  | character :: rest =>
      if character = '\n' then
        [] :: lines rest
      else
        match lines rest with
        | [] => [[character]]
        | line :: others => (character :: line) :: others

/-- A text in which every line ending is a single line feed. -/
def unifyLineEndings : List Char → List Char
  | [] => []
  | '\r' :: '\n' :: rest => '\n' :: unifyLineEndings rest
  | '\r' :: rest => '\n' :: unifyLineEndings rest
  | character :: rest => character :: unifyLineEndings rest

end Hostcall.Text
