import DartClient.Text.PrintableTable

/-!
# Quoted text

How a text or a single character is shown inside a message: between quotes, with backslash
escapes for quotes, backslashes and the common controls, and with the hexadecimal code point for
everything that would not be visible as a character of its own.

## Main definitions

* `quoteText`: a text between double quotes.
* `quoteChar`: a character between single quotes.
-/

namespace DartClient.Text

/-- The lower case hexadecimal digits of a number, without leading zeros. -/
def hexDigits (n : Nat) : String := String.ofList (Nat.toDigits 16 n)

/-- Whether a character is shown by its code point. -/
def isShownByCode (c : Char) : Bool :=
  CodeRun.anyContains graphemeExtendRuns c.toNat || CodeRun.anyContains nonPrintingRuns c.toNat

/-- A character inside quotes of the given kind, which are escaped. -/
def escapeChar (quote c : Char) : String :=
  if c = '\x00' then "\\0"
  else if c = '\t' then "\\t"
  else if c = '\r' then "\\r"
  else if c = '\n' then "\\n"
  else if c = '\\' then "\\\\"
  else if c = quote then "\\" ++ String.singleton c
  else if isShownByCode c then "\\u\x7b" ++ hexDigits c.toNat ++ "\x7d"
  else String.singleton c

/-- A text between double quotes. -/
def quoteText (text : String) : String :=
  "\"" ++ String.join (text.toList.map (escapeChar '"')) ++ "\""

/-- A character between single quotes. -/
def quoteChar (c : Char) : String := "'" ++ escapeChar '\'' c ++ "'"

end DartClient.Text
