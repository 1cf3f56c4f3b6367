import SourceModel.Text.Glyphs
import SourceModel.Text.Joined

namespace SourceModel.Text

def hexadecimal (n : Nat) : String := String.ofList (Nat.toDigits 16 n)

def escaped (c : Char) : String :=
  if c = '"' then "\\\""
  else if c = '\\' then "\\\\"
  else if c = '\n' then "\\n"
  else if c = '\r' then "\\r"
  else if c = '\t' then "\\t"
  else if c.toNat = 0 then "\\0"
  else if hasGlyph c then String.ofList [c]
  else "\\u\x7b" ++ hexadecimal c.toNat ++ "\x7d"

def quoted (text : String) : String :=
  "\"" ++ joinWith "" (text.toList.map escaped) ++ "\""

end SourceModel.Text
