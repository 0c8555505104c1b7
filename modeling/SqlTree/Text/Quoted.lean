import SqlTree.Text.Printable

/-!
# Quoted text

Texts and characters are shown inside quotes, with an escape for every character that would
end the quotation, would not show on the page or would be drawn onto the character before it.
Which characters are escaped depends on the quote that surrounds them: the quote itself and the
backslash always are, the other quote never is.

* `escape` writes one character inside a given quote.
* `quoted` writes a text in double quotes, `quotedChar` a character in single quotes.
-/

set_option autoImplicit false

namespace SqlTree.Text

/-- The escapes that have a letter of their own. -/
def shortEscape : Char → Option Char
  | '\n' => some 'n'
  | '\r' => some 'r'
  | '\t' => some 't'
  | '\x00' => some '0'
  | _ => none

/-- One character as it is written inside the quotation mark `quote`. A character that is not
printable or that extends the one before it, and has no letter of its own, is written by its code in
lower-case hexadecimal. -/
def escape (quote c : Char) : List Char :=
  if c = quote ∨ c = '\\' then ['\\', c]
  else match shortEscape c with
    | some letter => ['\\', letter]
    | none =>
      if isPrintable c && !extendsGrapheme c then [c]
      else ['\\', 'u', '\x7b'] ++ Nat.toDigits 16 c.toNat ++ ['\x7d']

/-- A text in double quotes. -/
def quoted (s : String) : String :=
  String.ofList ('"' :: s.toList.flatMap (escape '"') ++ ['"'])

example : quoted "é \u00a0e\u0301\u200b\n" =
    "\"é \\u\x7ba0\x7de\\u\x7b301\x7d\\u\x7b200b\x7d\\n\"" := by
  decide +kernel

/-- A character in single quotes. -/
def quotedChar (c : Char) : String :=
  String.ofList ('\'' :: escape '\'' c ++ ['\''])

end SqlTree.Text
