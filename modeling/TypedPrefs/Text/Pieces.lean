import TypedPrefs.Text.Character

/-!
# Parts of a text

Splitting at separators and line ends, and dropping blanks at both ends.
-/

namespace TypedPrefs.Text

/-- The pieces between the characters that satisfy `sep`, empty ones included: one more than there
are separators. -/
def pieces (sep : Char → Bool) : List Char → List (List Char)
  | [] => [[]]
  | c :: rest =>
    if sep c then [] :: pieces sep rest
    else
      match pieces sep rest with
      | [] => [[c]]
      | piece :: more => (c :: piece) :: more

/-- The pieces of a string between the occurrences of one character. -/
def splitAtChar (sep : Char) (s : String) : List String :=
  (pieces (· == sep) s.toList).map String.ofList

/-- A line without the carriage return that may end it. -/
def dropFinalReturn (line : List Char) : List Char :=
  match line.reverse with
  | '\r' :: rest => rest.reverse
  | _ => line

/-- The lines of a text. A line ends with a line feed, with or without a carriage return before it;
the last line may lack the line feed, and then keeps a carriage return at its end. -/
def lines (s : String) : List String :=
  let parts := pieces (· == '\n') s.toList
  let ended := parts.dropLast.map dropFinalReturn
  let last := parts.getLast?.getD []
  (if last.isEmpty then ended else ended ++ [last]).map String.ofList

/-- Whether the first characters stand in a row somewhere among the others. -/
def occursIn (needle : List Char) : List Char → Bool
  | [] => needle.isEmpty
  | c :: rest => needle.isPrefixOf (c :: rest) || occursIn needle rest

/-- A text without the blanks behind it. -/
def trimEnd (s : List Char) : List Char := (s.reverse.dropWhile isBlank).reverse

/-- A text without the blanks at its ends. -/
def trim (s : List Char) : List Char := trimEnd (s.dropWhile isBlank)

end TypedPrefs.Text
