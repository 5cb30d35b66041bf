import Doip.Text.Hidden

/-! Texts in quotation marks. A quote, a backslash and the usual controls are written with a backslash, every
other hidden character as `\u{…}` with its code point, and all else as it is. -/

namespace Doip.Quoted

def doubleQuote : Char := '\x22'

def singleQuote : Char := '\x27'

/-- A character as `\u{…}`, in lowercase digits without leading zeros. -/
def codePointEscape (c : Char) : List Char :=
  "\\u\x7b".toList ++ Nat.toDigits 16 c.toNat ++ ['}']

/-- One character between quotes of the given kind. -/
def escape (quote c : Char) : List Char :=
  if c = '\x00' then ['\\', '0']
  else if c = '\t' then ['\\', 't']
  else if c = '\n' then ['\\', 'n']
  else if c = '\r' then ['\\', 'r']
  else if c = quote ∨ c = '\\' then ['\\', c]
  else if Hidden.isHidden c then codePointEscape c
  else [c]

def text (s : String) : String :=
  String.ofList (doubleQuote :: s.toList.flatMap (escape doubleQuote) ++ [doubleQuote])

def char (c : Char) : String := String.ofList (singleQuote :: escape singleQuote c ++ [singleQuote])

end Doip.Quoted
