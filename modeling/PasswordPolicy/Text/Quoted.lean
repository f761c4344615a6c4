import PasswordPolicy.Unicode.Printable

/-!
# Quoted text

How a text is shown inside a message: between quotes, on one line, with every character that
cannot be shown escaped. Single quotes are used unless the text holds a single quote and no double
quote. A backslash and the chosen quote are escaped by a backslash, line ends and tabs by a letter,
and other characters that are not printable by their code point in hexadecimal.
-/

namespace PasswordPolicy.Text

def singleQuote : Char := '\x27'

def doubleQuote : Char := '\x22'

def backslash : Char := '\x5c'

/-- The last `width` digits of `n` in lower-case hexadecimal, with leading zeros. -/
def hexadecimal : (width : Nat) → (n : Nat) → List Char
  | 0, _ => []
  | width + 1, n => hexadecimal width (n / 16) ++ [Nat.digitChar (n % 16)]

/-- The escape of a character that is not printable: the shortest of `\xhh`, `\uhhhh` and
`\Uhhhhhhhh` that holds its code point. -/
def escapeCodePoint (c : Char) : List Char :=
  if c.toNat ≤ 0xff then backslash :: 'x' :: hexadecimal 2 c.toNat
  else if c.toNat ≤ 0xffff then backslash :: 'u' :: hexadecimal 4 c.toNat
  else backslash :: 'U' :: hexadecimal 8 c.toNat

/-- One character of a text between the quotes `quote`. -/
def escapeChar (quote c : Char) : List Char :=
  if c = quote ∨ c = backslash then [backslash, c]
  else if c = '\n' then [backslash, 'n']
  else if c = '\r' then [backslash, 'r']
  else if c = '\t' then [backslash, 't']
  else if Unicode.isPrintable c then [c]
  else escapeCodePoint c

/-- The quote a text is put between. -/
def quoteOf (text : List Char) : Char :=
  if text.contains singleQuote && !text.contains doubleQuote then doubleQuote else singleQuote

/-- The text between quotes. -/
def quotedChars (text : List Char) : List Char :=
  let quote := quoteOf text
  quote :: text.flatMap (escapeChar quote) ++ [quote]

/-- A string between quotes. -/
def quoted (s : String) : String := String.ofList (quotedChars s.toList)

end PasswordPolicy.Text
