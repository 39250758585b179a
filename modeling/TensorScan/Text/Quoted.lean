import TensorScan.Text.Unseen

set_option autoImplicit false

/-! # Quoted text

A quoted text stands between double quotes and can be read off without doubt: quotes and
backslashes come after a backslash, the common control characters have letters, and every other
character that cannot be seen is given by its number in hexadecimal digits.
-/

namespace TensorScan

def numberedChar (c : Char) : String :=
  "\\u\x7b" ++ String.ofList (Nat.toDigits 16 c.toNat) ++ "\x7d"

def quotedChar (c : Char) : String :=
  match c with
  | '"' => "\\\""
  | '\\' => "\\\\"
  | '\n' => "\\n"
  | '\r' => "\\r"
  | '\t' => "\\t"
  | '\x00' => "\\0"
  | c => if isUnseen c then numberedChar c else String.singleton c

/-- A text in quotes. -/
def quoted (s : String) : String := "\"" ++ String.join (s.toList.map quotedChar) ++ "\""

end TensorScan
