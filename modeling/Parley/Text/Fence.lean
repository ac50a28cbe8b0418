import Parley.Text.Lines
import Parley.Text.Search

namespace Parley.Text

def fence : List Char := ['`', '`', '`']

def isFenceLine (line : List Char) : Bool := fence.isPrefixOf (line.dropWhile isBlank)

/-- A text without its fence lines. A text without three backquotes is left as it stands, whatever its lines end
with; in any other the lines come to end with line feeds. -/
def withoutFencesList (cs : List Char) : List Char :=
  if containsList fence cs then
    ['\n'].intercalate ((linesOfList cs).filter fun line => !isFenceLine line)
  else cs

def withoutFences (text : String) : String := String.ofList (withoutFencesList text.toList)

/-- A vendor's text as an answer shows it: no fence lines, no blanks at either end. -/
def answerText (text : String) : String := trim (withoutFences text)

end Parley.Text

