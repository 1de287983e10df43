import JujuMigration.Text.Basic
import JujuMigration.Text.Printable
/-! Text shown inside a message: quoted, with whatever has no printed form written as an escape, so that a
message stays on one line and shows where the text begins and ends. -/

namespace JujuMigration.Text

/-- `n` in base sixteen, with zeros in front up to `width` digits. -/
def hexadecimal (width n : Nat) : Text :=
  let digits := Nat.toDigits 16 n
  List.replicate (width - digits.length) '0' ++ digits

/-- A single quote, unless the text has single quotes and no double quote. -/
def quoteMark (s : Text) : Char := if '\'' ∈ s ∧ '"' ∉ s then '"' else '\''

def escapeChar (mark c : Char) : Text :=
  if c = '\\' then ['\\', '\\']
  else if c = mark then ['\\', c]
  else if c = '\n' then ['\\', 'n']
  else if c = '\r' then ['\\', 'r']
  else if c = '\t' then ['\\', 't']
  else if CharClass.isPrintable c then [c]
  else if c.toNat < 0x100 then '\\' :: 'x' :: hexadecimal 2 c.toNat
  else if c.toNat < 0x10000 then '\\' :: 'u' :: hexadecimal 4 c.toNat
  else '\\' :: 'U' :: hexadecimal 8 c.toNat

/-- The text between quotes, escaped. -/
def quoted (s : Text) : Text :=
  let mark := quoteMark s
  mark :: (s.flatMap (escapeChar mark) ++ [mark])

def quotedString (s : Text) : String := String.ofList (quoted s)

example : quotedString ['a', '\'', '\n'] = "\"a'\\n\"" := by decide +kernel
example : quotedString [Char.ofNat 0xa0, 'é'] = "'\\xa0é'" := by decide +kernel

end JujuMigration.Text
