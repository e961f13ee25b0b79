import Heartbeat.Text.Printable

/-!
# Quoted texts

A text that is named inside a message is shown between quotes, so that a reader
can tell where it begins and ends and what it is made of.  Single quotes are used
unless the text holds a single quote and no double quote.  The backslash, the
chosen quote and every code point that is not printable are escaped; everything
else is literal.
-/

namespace Heartbeat

set_option autoImplicit false

namespace Text

/-- The quote around a text: double exactly when the text holds a single quote
and no double quote. -/
def quoteMark (text : Text) : CodePoint :=
  if text.contains CodePoint.singleQuote && !text.contains CodePoint.doubleQuote then
    CodePoint.doubleQuote
  else CodePoint.singleQuote

/-- The form of one code point between quotes. -/
def quotePoint (mark point : CodePoint) : Text :=
  if point = mark || point = CodePoint.backslash then [CodePoint.backslash, point]
  else if point = 0x0A then "\\n"
  else if point = 0x0D then "\\r"
  else if point = 0x09 then "\\t"
  else if point.isPrintable then [point]
  else if point.val < 0x100 then ("\\x" : Text) ++ hexadecimal 2 point.val
  else if point.val < 0x10000 then ("\\u" : Text) ++ hexadecimal 4 point.val
  else ("\\U" : Text) ++ hexadecimal 8 point.val

/-- A text between quotes. -/
def quoted (text : Text) : Text :=
  [text.quoteMark] ++ text.flatMap (quotePoint text.quoteMark) ++ [text.quoteMark]

end Text

end Heartbeat
