import ScopedLog.Text.Unprintable
set_option autoImplicit false

namespace ScopedLog.Text

def codePoint (c : Char) : List Char :=
  Nat.toDigits 16 c.toNat

def quotedChar (mark c : Char) : List Char :=
  if c = mark then ['\\', mark]
  else if c = '\\' then ['\\', '\\']
  else if c = '\n' then ['\\', 'n']
  else if c = '\r' then ['\\', 'r']
  else if c = '\t' then ['\\', 't']
  else if c = '\x00' then ['\\', '0']
  else if isUnprintable c then '\\' :: 'u' :: '\x7b' :: codePoint c ++ ['\x7d']
  else [c]

def quotation (mark : Char) (s : List Char) : List Char :=
  mark :: s.flatMap (quotedChar mark) ++ [mark]

def quote (s : String) : String :=
  String.ofList (quotation '"' s.toList)

def quoteChar (c : Char) : String :=
  String.ofList (quotation '\'' [c])

end ScopedLog.Text
