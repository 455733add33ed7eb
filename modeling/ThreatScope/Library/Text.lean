import Mathlib

/-!
# Python text

The string operations of Python that the model needs, on Lean strings read as
lists of code points: slices count code points, `strip` removes the characters
`str.isspace` accepts, and `casefold` is lower case on ASCII and a supplied
table elsewhere.
-/

set_option autoImplicit false

namespace ThreatScope.Library.Text

/-- The characters `str.isspace` accepts, which are those `\s` matches. -/
def isSpace (c : Char) : Bool :=
  let n := c.toNat
  (9 ≤ n && n ≤ 13) || (28 ≤ n && n ≤ 32) || n == 0x85 || n == 0xa0 || n == 0x1680 ||
    (0x2000 ≤ n && n ≤ 0x200a) || n == 0x2028 || n == 0x2029 || n == 0x202f || n == 0x205f ||
    n == 0x3000

/-- `text.strip()`. -/
def strip (text : String) : String :=
  String.ofList ((text.toList.dropWhile isSpace).reverse.dropWhile isSpace).reverse

/-- `text[:count]`. -/
def truncate (count : Nat) (text : String) : String := String.ofList (text.toList.take count)

/-- Case folding of one character: lower case on ASCII, the table elsewhere. -/
def foldChar (table : Char → List Char) (c : Char) : List Char :=
  if c.toNat < 128 then [c.toLower] else table c

/-- `text.casefold()`. -/
def casefold (table : Char → List Char) (text : String) : String :=
  String.ofList (text.toList.flatMap (foldChar table))

/-- `text.replace(old, new)` for single characters; a missing `new` deletes. -/
def replaceChar (old : Char) (new : Option Char) (text : String) : String :=
  String.ofList (text.toList.flatMap fun c => if c = old then new.toList else [c])

/-- `part in text`. -/
def contains (text part : String) : Bool := decide (part.toList <:+: text.toList)

theorem contains_iff {text part : String} :
    contains text part = true ↔ part.toList <:+: text.toList := by
  simp [contains]

/-- `text.startswith(front)`. -/
def startsWith (text front : String) : Bool := decide (front.toList <+: text.toList)

/-- `text.endswith(back)`. -/
def endsWith (text back : String) : Bool := decide (back.toList <:+ text.toList)

/-- Split at every occurrence of a character, as `text.split(c)` does. -/
def splitChars (separator : Char) : List Char → List (List Char)
  | [] => [[]]
  | c :: rest =>
    if c = separator then [] :: splitChars separator rest
    else match splitChars separator rest with
      | [] => [[c]]
      | part :: parts => (c :: part) :: parts

/-- `text.split(separator)`. -/
def split (separator : Char) (text : String) : List String :=
  (splitChars separator text.toList).map String.ofList

/-- `text.split()`. -/
def words (text : String) : List String :=
  ((text.toList.splitOnP isSpace).filter fun part => !part.isEmpty).map String.ofList

/-- `" ".join(text.strip().split())`. -/
def collapse (text : String) : String := " ".intercalate (words text)

/-- `text.strip(characters)`. -/
def stripChars (characters : List Char) (text : String) : String :=
  let inside := characters.contains
  String.ofList ((text.toList.dropWhile inside).reverse.dropWhile inside).reverse

/-- `LIKE` as SQLite reads it: `%` is any text, `_` any character, and ASCII
letters match in either case. -/
def like : List Char → List Char → Bool
  | [], text => text.isEmpty
  | '%' :: pattern, text => text.tails.any (like pattern)
  | '_' :: pattern, text => !text.isEmpty && like pattern (text.drop 1)
  | c :: pattern, text => text.head?.any (fun d => c.toLower == d.toLower) &&
      like pattern (text.drop 1)

/-! ## Stripping -/

theorem toList_strip (text : String) :
    (strip text).toList = List.rdropWhile isSpace (text.toList.dropWhile isSpace) :=
  String.toList_ofList

theorem strip_eq_self_iff {text : String} :
    strip text = text ↔
      (∀ c, text.toList.head? = some c → isSpace c = false) ∧
        ∀ c, text.toList.getLast? = some c → isSpace c = false := by
  rw [← String.toList_inj, toList_strip]
  generalize text.toList = letters
  constructor
  · intro same
    have front : letters.dropWhile isSpace = letters := by
      refine (List.dropWhile_suffix isSpace).eq_of_length_le ?_
      rw [← congrArg List.length same]
      exact (List.rdropWhile_prefix isSpace _).length_le
    rw [front] at same
    refine ⟨fun c first => ?_, fun c last => ?_⟩
    · obtain ⟨rest, rfl⟩ := List.head?_eq_some_iff.mp first
      have kept := List.dropWhile_eq_self_iff.mp front (Nat.succ_pos _)
      simpa using kept
    · obtain ⟨some, rfl⟩ := List.mem_getLast?_eq_getLast last
      simpa using List.rdropWhile_eq_self_iff.mp same some
  · rintro ⟨front, back⟩
    have kept : letters.dropWhile isSpace = letters := by
      cases letters with
      | nil => rfl
      | cons c rest => rw [List.dropWhile_cons_of_neg (by simpa using front c rfl)]
    rw [kept, List.rdropWhile_eq_self_iff]
    intro some
    simpa using back _ (List.getLast?_eq_some_getLast some)

theorem strip_strip (text : String) : strip (strip text) = strip text := by
  rw [strip_eq_self_iff, toList_strip]
  generalize text.toList = letters
  have front := List.dropWhile_idempotent isSpace letters
  generalize letters.dropWhile isSpace = kept at front
  constructor
  · intro c first
    obtain ⟨rest, same⟩ := List.head?_eq_some_iff.mp first
    obtain ⟨behind, whole⟩ := same ▸ List.rdropWhile_prefix isSpace kept
    subst whole
    simpa using List.dropWhile_eq_self_iff.mp front (Nat.succ_pos _)
  · intro c last
    obtain ⟨some, rfl⟩ := List.mem_getLast?_eq_getLast last
    simpa using List.rdropWhile_last_not isSpace kept some

end ThreatScope.Library.Text
