import TcpSessions.Text.Numeral
import TcpSessions.Text.Printable
/-!
# Quoted text

How a text or a byte string is shown to a developer: between quotes, with the quote, the
backslash and everything unprintable escaped. Single quotes are used unless the text holds a
single quote and no double one.
-/
namespace TcpSessions.Text

def quoteFor (s : List Char) : Char :=
  if '\'' ∈ s ∧ '"' ∉ s then '"' else '\''

/-- A code point in hexadecimal, at least `width` digits long. -/
def hexPadded (width n : Nat) : List Char := padLeft width '0' (hexDigits n)

def quoteChar (quote c : Char) : List Char :=
  if c = quote ∨ c = '\\' then ['\\', c]
  else if c = '\n' then ['\\', 'n']
  else if c = '\r' then ['\\', 'r']
  else if c = '\t' then ['\\', 't']
  else if isPrintable c then [c]
  else if c.toNat ≤ 0xff then '\\' :: 'x' :: hexPadded 2 c.toNat
  else if c.toNat ≤ 0xffff then '\\' :: 'u' :: hexPadded 4 c.toNat
  else '\\' :: 'U' :: hexPadded 8 c.toNat

/-- A text between quotes. -/
def quoted (s : List Char) : List Char :=
  let q := quoteFor s
  q :: s.flatMap (quoteChar q) ++ [q]

def quotedText (s : String) : String := String.ofList (quoted s.toList)

/-- One byte between quotes: ASCII shows as itself, any other byte as two hexadecimal digits. -/
def quoteByte (quote : Char) (b : UInt8) : List Char :=
  if 0x7f ≤ b.toNat then '\\' :: 'x' :: hexPadded 2 b.toNat
  else quoteChar quote (Char.ofNat b.toNat)

def quoteForBytes (bytes : List UInt8) : Char :=
  quoteFor (bytes.map fun b => Char.ofNat b.toNat)

def quotedBytes (bytes : List UInt8) : List Char :=
  let q := quoteForBytes bytes
  'b' :: q :: bytes.flatMap (quoteByte q) ++ [q]

/-- A byte string that can be changed in place, between quotes: in it single quotes are escaped
also between double ones. -/
def quotedBuffer (bytes : List UInt8) : List Char :=
  let q := quoteForBytes bytes
  'b' :: q :: bytes.flatMap (quoteByte '\'') ++ [q]

end TcpSessions.Text
