import Companion.Text.Property

set_option autoImplicit false

namespace Companion.Text

def hexadecimal (n : Nat) : List Char :=
  Nat.toDigits 16 n

/-- A character by its code point, such as `\u{7f}`. -/
def codeEscape (c : Char) : List Char :=
  '\\' :: 'u' :: '\x7b' :: (hexadecimal c.toNat ++ ['\x7d'])

def escapeChar (c : Char) : List Char :=
  match c with
  | '"' => ['\\', '"']
  | '\\' => ['\\', '\\']
  | '\n' => ['\\', 'n']
  | '\r' => ['\\', 'r']
  | '\t' => ['\\', 't']
  | '\x00' => ['\\', '0']
  | _ => if isPlain c then [c] else codeEscape c

def quoted (text : String) : String :=
  String.ofList ('"' :: (text.toList.flatMap escapeChar ++ ['"']))

/-- The characters of a string literal: as quoted text, but a null character in front of an octal
digit is written with two digits, since `\0` and a digit would read as one escape. -/
def literalChars : List Char → List Char
  | [] => []
  | c :: rest =>
      let front :=
        if c == '\x00' then
          match rest with
          | d :: _ => if '0' ≤ d && d ≤ '7' then ['\\', 'x', '0', '0'] else ['\\', '0']
          | [] => ['\\', '0']
        else escapeChar c
      front ++ literalChars rest

def stringLiteral (text : String) : String :=
  String.ofList ('"' :: (literalChars text.toList ++ ['"']))

end Companion.Text
