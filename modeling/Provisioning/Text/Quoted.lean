import Provisioning.Text.Case
import Provisioning.Text.EscapeTable

/-!
Texts in double quotes for diagnostics: quotes and backslashes get a backslash, the common
controls their letter, and every character that would not show is given by its number.
-/
namespace Provisioning.Text

def hex (n : Nat) : List Char := Nat.toDigits 16 n

def showsByNumber (c : Char) : Bool :=
  c.toNat < 0x20 || (0x7F ≤ c.toNat && inRanges numberedRanges c.toNat)

def quoteChar (c : Char) : List Char :=
  if c = '"' then ['\\', '"']
  else if c = '\\' then ['\\', '\\']
  else if c = '\n' then ['\\', 'n']
  else if c = '\r' then ['\\', 'r']
  else if c = '\t' then ['\\', 't']
  else if c.toNat = 0 then ['\\', '0']
  else if showsByNumber c then ['\\', 'u', '\x7b'] ++ hex c.toNat ++ ['\x7d']
  else [c]

def quoted (s : String) : String :=
  String.ofList ('"' :: s.toList.flatMap quoteChar ++ ['"'])

end Provisioning.Text
