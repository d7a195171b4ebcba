/-
# Quoted strings

A string is shown in double quotes. A quote and a backslash get a backslash,
four control characters have letters of their own, and a character that cannot
be seen by itself is shown by its code point.

Key definitions: `Text.isVisible`, `Text.escape`, `Text.quote`.
-/
import ReversibleGrammar.Unicode.Printable

namespace ReversibleGrammar
namespace Text

/-- A code point in lower-case hexadecimal between `\u{` and `}`. -/
def codeEscape (c : Char) : List Char :=
  '\\' :: 'u' :: '\x7b' :: Nat.toDigits 16 c.toNat ++ ['\x7d']

/-- A character that can be seen by itself is printable, is not shown as nothing,
and takes a place of its own. -/
def isVisible (c : Char) : Bool :=
  Unicode.isPrintable c && !Unicode.isDefaultIgnorable c &&
    (!Unicode.isGraphemeExtend c || Unicode.isSoundMark c)

/-- How a character is written inside double quotes. -/
def escape (c : Char) : List Char :=
  if c = '"' then ['\\', '"']
  else if c = '\\' then ['\\', '\\']
  else if c = '\n' then ['\\', 'n']
  else if c = '\r' then ['\\', 'r']
  else if c = '\t' then ['\\', 't']
  else if c = '\x00' then ['\\', '0']
  else if isVisible c then [c]
  else codeEscape c

/-- The string in double quotes. -/
def quote (s : String) : String :=
  String.ofList ('"' :: s.toList.flatMap escape ++ ['"'])

end Text
end ReversibleGrammar
