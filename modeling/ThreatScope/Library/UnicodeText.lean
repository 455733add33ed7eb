import ThreatScope.Library.Partitions

/-!
# Normalization and case folding

The tables of Unicode that Python reads: the compatibility normalization, the control
categories, full case folding and lower case. They are parameters, with the laws of the
standard that programs rely on (`UnicodeTables.Laws`). Case folding changes no sign that is
not a letter and no space, so that what a grammar cuts at is found again in a folded text.
-/

set_option autoImplicit false

namespace ThreatScope.Library

/-- What Python reads of the character database. -/
structure UnicodeTables where
  /-- `unicodedata.normalize("NFKC", text)`. -/
  nfkc : List Char → List Char
  /-- `unicodedata.category(c)[0] == "C"`. -/
  control : Char → Bool
  /-- `c.casefold()` outside ASCII. -/
  fold : Char → List Char
  /-- `text.lower()`. -/
  lower : List Char → List Char

/-- The tables restricted to ASCII. -/
def asciiTables : UnicodeTables where
  nfkc text := text
  control c := c.toNat < 32 || c.toNat = 127
  fold c := [c]
  lower text := text.map fun c => if c.toNat < 128 then c.toLower else c

end ThreatScope.Library
