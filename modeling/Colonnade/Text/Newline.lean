/-!
# Line breaks of text files

A text file is read with universal line breaks: a carriage return followed by a line feed, and a
carriage return alone, each become a line feed.
-/

namespace Colonnade.Text

def universalBreaks : List Char → List Char
  | [] => []
  | '\r' :: '\n' :: rest => '\n' :: universalBreaks rest
  | '\r' :: rest => '\n' :: universalBreaks rest
  | c :: rest => c :: universalBreaks rest

/-- A text as read from a file, with universal line breaks. -/
def readAsText (s : String) : String := String.ofList (universalBreaks s.toList)

end Colonnade.Text
