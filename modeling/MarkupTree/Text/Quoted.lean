import MarkupTree.Text.Visible

/-! # Quoted text

A quoted text stands between double quotes on one line. Quotes and backslashes have a
backslash in front; the null character, the tab, the line feed and the carriage return
have a letter or digit of their own; and a character that does not show by itself is
given by its code point.
-/

namespace MarkupTree.Text

def quotedChar (char : Char) : List Char :=
  match char with
  | '"' => ['\\', '"']
  | '\\' => ['\\', '\\']
  | '\t' => ['\\', 't']
  | '\n' => ['\\', 'n']
  | '\r' => ['\\', 'r']
  | _ =>
    if char.toNat = 0 then ['\\', '0']
    else if isVisible char then [char]
    else '\\' :: 'u' :: '\x7b' :: (Nat.toDigits 16 char.toNat ++ ['\x7d'])

def quote (text : String) : String :=
  String.ofList ('"' :: (text.toList.flatMap quotedChar ++ ['"']))

end MarkupTree.Text
