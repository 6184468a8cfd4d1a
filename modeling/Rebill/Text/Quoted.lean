import Rebill.Text.Printable

/-!
# Quoted text for diagnostics

Messages that show a text the user gave write it quoted, so that blanks and control characters
stay visible: `debugQuote` puts the text in double quotes and escapes the quote, the backslash,
NUL, tab, line feed and carriage return by their short escapes, and every character that is not
printable or that extends a grapheme by its code point in hexadecimal, `\u{301}`. A combining
mark is escaped even after a letter, so the quoted text never shows two characters as one.
-/

namespace Rebill.Text

/-- The hexadecimal digits of a number, lowercase, without leading zeros. -/
def hexDigits (n : Nat) : String := String.ofList (Nat.toDigits 16 n)

/-- A character as a quoted text shows it: quotes, backslashes and the common controls by
their escapes, characters that extend a grapheme or are not printable by their code point. -/
def debugChar (c : Char) : String :=
  match c with
  | '"' => "\\\""
  | '\\' => "\\\\"
  | '\n' => "\\n"
  | '\r' => "\\r"
  | '\t' => "\\t"
  | '\x00' => "\\0"
  | c =>
    if Unicode.isGraphemeExtend c || !Unicode.isPrintable c then
      "\\u\x7b" ++ hexDigits c.toNat ++ "\x7d"
    else c.toString

/-- A character in single quotes, escaped as in a quoted text except for the quotes: the single
quote is escaped and the double quote is not. -/
def debugCharQuote (c : Char) : String :=
  "'" ++ (match c with
    | '\'' => "\\'"
    | '"' => "\""
    | c => debugChar c) ++ "'"

/-- A text in double quotes, its characters escaped. -/
def debugQuote (s : String) : String :=
  "\"" ++ String.join (s.toList.map debugChar) ++ "\""

end Rebill.Text
