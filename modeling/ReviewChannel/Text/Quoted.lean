import ReviewChannel.Text.GraphemeExtend
import ReviewChannel.Text.Unprintable

/-!
Quoted text: a text between double quotes in which every character can be seen. Quotes, backslashes,
tabs, line ends and NUL have short escapes; a character that has no visible form, or that would
merge with the one before it, is written by its code point.
-/

namespace ReviewChannel.Quoted

/-- The hexadecimal digits of a number, in lower case and without leading zeros. -/
def hex (n : Nat) : List Char :=
  Nat.toDigits 16 n

/-- Whether a character merges with the one before it. The halfwidth sound marks of katakana extend
it and yet have a width of their own. -/
def isMerging (c : Char) : Bool :=
  isGraphemeExtend c && c != '\uFF9E' && c != '\uFF9F'

/-- A character as it stands in a quoted text. -/
def escape (c : Char) : List Char :=
  if c = '\x00' then ['\\', '0']
  else if c = '\t' then ['\\', 't']
  else if c = '\n' then ['\\', 'n']
  else if c = '\r' then ['\\', 'r']
  else if c = '"' ∨ c = '\\' then ['\\', c]
  else if isMerging c || isUnprintable c then
    ['\\', 'u', '\x7b'] ++ hex c.toNat ++ ['\x7d']
  else [c]

def quote (text : String) : String :=
  String.ofList ('"' :: text.toList.flatMap escape ++ ['"'])

end ReviewChannel.Quoted
