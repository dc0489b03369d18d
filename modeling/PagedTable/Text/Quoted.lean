import PagedTable.Text.Printable

/-! # Quoted text

A text between double quotes, written so that it can be read on one line:
quotes, backslashes and line ends are escaped, and so is every character that
would not show. -/

namespace PagedTable.Text

def codeEscape (char : Char) : List Char :=
  '\\' :: 'u' :: '\x7b' :: Nat.toDigits 16 char.toNat ++ ['\x7d']

def quoteChar (char : Char) : List Char :=
  match char with
  | '"' => ['\\', '"']
  | '\\' => ['\\', '\\']
  | '\n' => ['\\', 'n']
  | '\r' => ['\\', 'r']
  | '\t' => ['\\', 't']
  | '\x00' => ['\\', '0']
  | _ => if isPrintable char && !extendsPrevious char then [char] else codeEscape char

def quote (text : String) : String :=
  String.ofList ('"' :: text.toList.flatMap quoteChar ++ ['"'])

example : quoteChar '\x7f' = "\\u\x7b7f\x7d".toList := by decide +kernel

end PagedTable.Text
