import MarkupQuery.Text.Printable

/-!
# Quoted text

A text between quotes, on one line, with everything in it to be seen: quotes and backslashes have a
backslash before them, and characters that do not show are written by a letter or a number.
-/

namespace MarkupQuery.Text.Quoted

/-- The letter that writes a character after a backslash, where there is one. -/
def letter? : Char → Option Char
  | '"' => some '"'
  | '\\' => some '\\'
  | '\n' => some 'n'
  | '\r' => some 'r'
  | '\t' => some 't'
  | '\x00' => some '0'
  | _ => none

def numbered (c : Char) : List Char :=
  ['\\', 'u', '\x7b'] ++ Nat.toDigits 16 c.toNat ++ ['\x7d']

def encodeChar (c : Char) : List Char :=
  match letter? c with
  | some l => ['\\', l]
  | none => if isPrintable c then [c] else numbered c

def encodeChars (cs : List Char) : List Char := cs.flatMap encodeChar

def encode (s : String) : String :=
  String.ofList ('"' :: encodeChars s.toList ++ ['"'])

end MarkupQuery.Text.Quoted
