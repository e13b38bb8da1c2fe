import GameScript.Text.Extending
import GameScript.Text.Integer
import GameScript.Text.Unprintable

/-! A text shown between double quotes, for messages that repeat what the user wrote. Whoever reads
the message can tell every character of the text. -/

namespace GameScript.Text

/-- A backslash form for quotes, backslashes and what is not shown or not shown by itself, the
character itself for all else. -/
def quotedChar (c : Char) : String :=
  if c == '"' then "\\\""
  else if c == '\\' then "\\\\"
  else if c == '\n' then "\\n"
  else if c == '\r' then "\\r"
  else if c == '\t' then "\\t"
  else if c.toNat == 0 then "\\0"
  else if isExtending c || isUnprintable c then "\\u\x7b" ++ hex c.toNat ++ "\x7d"
  else String.singleton c

def quoted (text : String) : String :=
  "\"" ++ String.join (text.toList.map quotedChar) ++ "\""

end GameScript.Text
