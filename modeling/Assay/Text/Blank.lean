import Assay.Text.Basic

/-!
# Blanks and line breaks

The blanks are the Unicode white space together with the four information separators; the line
breaks are those of them that end a line. `Text.strip` removes blanks at both ends, `Text.words`
splits at runs of blanks, and `Text.lines` splits after each line break, where a carriage return
and the line feed behind it are one break.
-/

set_option autoImplicit false

namespace Assay

/-- White space, the information separators included. -/
def CodePoint.isBlank (c : CodePoint) : Bool :=
  c.within 0x09 0x0D || c.within 0x1C 0x20 || c.val == 0x85 || c.val == 0xA0 ||
    c.val == 0x1680 || c.within 0x2000 0x200A || c.val == 0x2028 || c.val == 0x2029 ||
    c.val == 0x202F || c.val == 0x205F || c.val == 0x3000

/-- The code points that end a line. -/
def CodePoint.isLineBreak (c : CodePoint) : Bool :=
  c.within 0x0A 0x0D || c.within 0x1C 0x1E || c.val == 0x85 || c.val == 0x2028 || c.val == 0x2029

namespace Text

/-- The text without blanks at its start. -/
def stripLeft (t : Text) : Text := t.dropWhile CodePoint.isBlank

/-- The text without blanks at either end. -/
def strip (t : Text) : Text := (t.stripLeft.reverse.dropWhile CodePoint.isBlank).reverse

/-- The words of a text, where `word` is the reversed beginning of the word at hand. -/
def wordsFrom : Text → Text → List Text
  | word, [] => if word.isEmpty then [] else [word.reverse]
  | word, c :: rest =>
    if c.isBlank then
      if word.isEmpty then wordsFrom [] rest else word.reverse :: wordsFrom [] rest
    else wordsFrom (c :: word) rest

/-- The runs of code points between blanks. -/
def words (t : Text) : List Text := wordsFrom [] t

/-- The text on one line: its words with one space between them. -/
def flatten (t : Text) : Text := join " " t.words

/-- The lines of a text, where `line` is the reversed beginning of the line at hand. A carriage
return before a line feed is passed over, so that the line feed ends the line. -/
def linesFrom : Text → Text → List Text
  | line, [] => if line.isEmpty then [] else [line.reverse]
  | line, c :: rest =>
    if c == '\r' && rest.head? == some '\n' then linesFrom line rest
    else if c.isLineBreak then line.reverse :: linesFrom [] rest
    else linesFrom (c :: line) rest

/-- The lines of a text, without their line breaks. -/
def lines (t : Text) : List Text := linesFrom [] t

/-- The text with each carriage return, alone or before a line feed, read as a line feed. -/
def unifyNewlines : Text → Text
  | [] => []
  | c :: rest =>
    if c == '\r' && rest.head? == some '\n' then unifyNewlines rest
    else (if c == '\r' then '\n' else c) :: unifyNewlines rest

end Text

end Assay
