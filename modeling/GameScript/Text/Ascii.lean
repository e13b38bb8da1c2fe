/-! Letter case as scripts see it: only the letters of the ASCII alphabet have a case, every other
character stands for itself. Names of functions, classes and mnemonics are compared this way. -/

namespace GameScript.Text

/-- Replaces `A` to `Z` by the small letters. -/
def fold (text : String) : String := String.ofList (text.toList.map Char.toLower)

/-- Equality up to the case of ASCII letters. -/
def sameFold (left right : String) : Bool := fold left == fold right

def isDigit (c : Char) : Bool := '0' ≤ c && c ≤ '9'

end GameScript.Text
