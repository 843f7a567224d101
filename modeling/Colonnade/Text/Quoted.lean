import Colonnade.Text.Printable
/-!
# Quoted texts

The quoted form of a text, as it shows inside a displayed list or map and in messages: in single
quotes, or in double quotes when the text holds a single quote and no double quote. A backslash
and the chosen quote are escaped with a backslash; line feed, carriage return and tab are written
`\n`, `\r` and `\t`; any other character that is not printable is written by its code point in
hexadecimal, as `\xhh` below U+0100, `\uhhhh` below U+10000 and `\Uhhhhhhhh` above.
-/

namespace Colonnade.Text

/-- The hexadecimal digits of a number, in lower case, padded with zeros to `width`. -/
def hexDigits (width n : Nat) : List Char :=
  let ds := Nat.toDigits 16 n
  List.replicate (width - ds.length) '0' ++ ds

/-- The escape of a character that is not printable, by its code point. -/
def codeEscape (c : Char) : List Char :=
  if c.toNat < 0x100 then '\\' :: 'x' :: hexDigits 2 c.toNat
  else if c.toNat < 0x10000 then '\\' :: 'u' :: hexDigits 4 c.toNat
  else '\\' :: 'U' :: hexDigits 8 c.toNat

def quotedChar (q c : Char) : List Char :=
  if c = '\\' then ['\\', '\\']
  else if c = q then ['\\', c]
  else if c = '\n' then ['\\', 'n']
  else if c = '\r' then ['\\', 'r']
  else if c = '\t' then ['\\', 't']
  else if isPrintable c then [c]
  else codeEscape c

def quoted (s : String) : String :=
  let q := if s.toList.contains '\'' && !s.toList.contains '"' then '"' else '\''
  String.ofList (q :: s.toList.flatMap (quotedChar q) ++ [q])

/-- How a byte is written inside quotes `q`: as its ASCII character when that is printable, else
escaped like a character. -/
def quotedByte (q : Char) (b : UInt8) : List Char :=
  let c := Char.ofNat b.toNat
  if c = '\\' || c = q then ['\\', c]
  else if c = '\n' then ['\\', 'n']
  else if c = '\r' then ['\\', 'r']
  else if c = '\t' then ['\\', 't']
  else if b < 0x20 || b ≥ 0x7F then '\\' :: 'x' :: hexDigits 2 b.toNat
  else [c]

/-- The quoted form of bytes: `b` and the bytes in quotes, chosen as for a text. -/
def quotedBytes (bs : List UInt8) : String :=
  let q := if bs.contains 0x27 && !bs.contains 0x22 then '"' else '\''
  String.ofList ('b' :: q :: bs.flatMap (quotedByte q) ++ [q])

end Colonnade.Text
