import Blueprint.Text.Case
import Blueprint.Text.PrintableTable

/-!
# Quoted text

A text between double quotes, in which quotes, backslashes and characters that cannot be shown are
escaped.
-/

namespace Blueprint.Text

def isPrintable (c : Char) : Bool :=
  !inRanges unprintableRanges c && !inRanges graphemeExtendRanges c

def quotedChar (c : Char) : List Char :=
  match c with
  | '"' => ['\\', '"']
  | '\\' => ['\\', '\\']
  | '\n' => ['\\', 'n']
  | '\r' => ['\\', 'r']
  | '\t' => ['\\', 't']
  | '\x00' => ['\\', '0']
  | c =>
    if isPrintable c then [c]
    else '\\' :: 'u' :: Char.ofNat 0x7B :: Nat.toDigits 16 c.toNat ++ [Char.ofNat 0x7D]

def quoted (s : String) : String :=
  String.ofList ('"' :: s.toList.flatMap quotedChar ++ ['"'])

end Blueprint.Text
