import StoryScript.Text.Concealed

/-!
# Quoted texts

A text in double quotes, in which every quote, backslash and concealed character is written
as an escape that starts with a backslash.
-/

namespace StoryScript.Text

/-- A character by its code point in lower-case hexadecimal digits. -/
def escapeCode (c : Char) : List Char :=
  '\\' :: 'u' :: '\x7b' :: Nat.toDigits 16 c.toNat ++ ['\x7d']

/-- The written form of one character of a quoted text. -/
def escape (c : Char) : List Char :=
  if c = '\x00' then ['\\', '0']
  else if c = '\t' then ['\\', 't']
  else if c = '\r' then ['\\', 'r']
  else if c = '\n' then ['\\', 'n']
  else if c = '"' then ['\\', '"']
  else if c = '\\' then ['\\', '\\']
  else if isConcealed c then escapeCode c
  else [c]

/-- The written form of the characters of a text, quotes included. -/
def quoteChars (cs : List Char) : List Char := '"' :: cs.flatMap escape ++ ['"']

/-- The quoted form of a text. -/
def quote (s : String) : String := String.ofList (quoteChars s.toList)

end StoryScript.Text
