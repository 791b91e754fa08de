set_option autoImplicit false

/-!
The rule for names of spaces and functions: at least one character, each a letter or digit of
ASCII, a point, an underscore or a hyphen.
-/
namespace EventRelay

def isIdentifierChar (c : Char) : Bool := c.isAlphanum || c == '.' || c == '_' || c == '-'

def isIdentifier (text : String) : Bool := !text.isEmpty && text.toList.all isIdentifierChar

/-- Whether a text can name a space: an identifier of at least three characters. -/
def isSpaceName (text : String) : Bool := 3 ≤ text.utf8ByteSize && isIdentifier text

end EventRelay
