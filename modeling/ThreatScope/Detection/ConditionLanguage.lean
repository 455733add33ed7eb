import ThreatScope.Library.Json

/-!
# Conditions of detection rules

The condition language of `detection_engineering/evaluator.py`: selections by name, `and`,
`or`, `not`, parentheses, and a quantified form with an amount and a pattern. A condition is
split into tokens by one regular expression, what it leaves out must be white space, and a
recursive descent reads the tokens.

Each reader hands back the tokens that are left, with the proof that it took at least one, so
that the descent ends. What stays outside is the Unicode database (`UnicodeTables`).
-/

set_option autoImplicit false

namespace ThreatScope.Detection

open Library

/-- What the Unicode database says about characters outside ASCII. -/
structure UnicodeTables where
  /-- The lower case of a character. -/
  lower : Char → List Char
  /-- The value of a decimal digit. -/
  decimal : Char → Option Nat
  /-- Whether a character is matched by `\w`. -/
  isWord : Char → Bool

namespace UnicodeTables

variable (tables : UnicodeTables)

/-- `text.lower()`. -/
def lowered (text : String) : String :=
  String.ofList (text.toList.flatMap fun c =>
    if c.toNat < 128 then [c.toLower] else tables.lower c)

/-- The value of a character that is matched by `\d`. -/
def digit? (c : Char) : Option Nat :=
  if c.isDigit then some (c.toNat - 48) else if c.toNat < 128 then none else tables.decimal c

/-- `\d`. -/
def isDecimal (c : Char) : Bool := (tables.digit? c).isSome

/-- `\w`. -/
def wordChar (c : Char) : Bool :=
  if c.toNat < 128 then c.isAlphanum || c == '_' else tables.isWord c

/-- `int(text)` for a text of decimal digits. -/
def number (text : String) : Nat :=
  text.toList.foldl (fun value c => 10 * value + (tables.digit? c).getD 0) 0

/-- `text.isdigit()` for a token. -/
def isDigits (text : String) : Bool := !text.toList.isEmpty && text.toList.all tables.isDecimal

end UnicodeTables

/-! ## Tokens -/

/-- `[A-Za-z]` without regard to case, which four characters outside ASCII match too. -/
def isLetter (c : Char) : Bool :=
  c.isAlpha || c.toNat = 0x130 || c.toNat = 0x131 || c.toNat = 0x17f || c.toNat = 0x212a

/-- `[A-Za-z0-9_*-]` without regard to case. -/
def isNameChar (c : Char) : Bool := isLetter c || c.isDigit || c == '_' || c == '*' || c == '-'

/-- `and|or|not|of|all`. -/
def keywords : List (List Char) :=
  ["and".toList, "or".toList, "not".toList, "of".toList, "all".toList]

/-- `\b(?:and|or|not|of|all)\b` after a character, with the length of the word. -/
def keyword? (tables : UnicodeTables) (previous : Option Char) (text : List Char) :
    Option (List Char) :=
  if previous.any tables.wordChar then none
  else keywords.find? fun word =>
    (text.take word.length).map Char.toLower == word &&
      !((text.drop word.length).head?.any tables.wordChar)

theorem keyword?_ne_nil {tables : UnicodeTables} {previous : Option Char} {text word : List Char}
    (found : keyword? tables previous text = some word) : word ≠ [] := by
  unfold keyword? at found
  split at found
  · cases found
  · have inside := List.mem_of_find?_eq_some found
    rintro rfl
    exact absurd inside (by decide)

/-- `re.findall`: from the left, what no alternative matches is passed over. -/
def tokensFrom (tables : UnicodeTables) (previous : Option Char) : List Char → List String
  | [] => []
  | c :: rest =>
    if c = '(' ∨ c = ')' then String.singleton c :: tokensFrom tables (some c) rest
    else
      match _found : keyword? tables previous (c :: rest) with
      | some word =>
        String.ofList ((c :: rest).take word.length) ::
          tokensFrom tables (((c :: rest).take word.length).getLast?)
            ((c :: rest).drop word.length)
      | none =>
        if tables.isDecimal c then
          let digits := rest.takeWhile tables.isDecimal
          String.ofList (c :: digits) ::
            tokensFrom tables (some (digits.getLast?.getD c)) (rest.dropWhile tables.isDecimal)
        else if isLetter c then
          let letters := rest.takeWhile isNameChar
          String.ofList (c :: letters) ::
            tokensFrom tables (some (letters.getLast?.getD c)) (rest.dropWhile isNameChar)
        else tokensFrom tables (some c) rest
termination_by text => text.length
decreasing_by
  · exact Nat.lt_succ_self _
  · have positive := List.length_pos_of_ne_nil (keyword?_ne_nil _found)
    simp only [List.length_drop, List.length_cons]
    omega
  · exact Nat.lt_succ_of_le ((List.dropWhile_sublist _).length_le)
  · exact Nat.lt_succ_of_le ((List.dropWhile_sublist _).length_le)
  · exact Nat.lt_succ_self _

/-- `_tokens`. -/
def conditionTokens (tables : UnicodeTables) (condition : String) : List String :=
  tokensFrom tables none condition.toList

/-! ## The descent -/

/-- How many of the listed selections have to hold. -/
inductive Amount where
  | all
  | atLeast (count : Nat)
deriving DecidableEq

/-- A parsed condition. -/
inductive Node where
  | selection (name : String)
  | not (node : Node)
  | and (first second : Node)
  | or (first second : Node)
  | of (amount : Amount) (names : List String)

def maxDepth : Nat := 8

/-- What a reader that started with these tokens hands back. -/
abbrev Reading (tokens : List String) : Type :=
  Except String (Node × { rest : List String // rest.length < tokens.length })

/-- The amount before `of`, if the token is one. -/
def amount? (tables : UnicodeTables) (token : String) : Option Amount :=
  if tables.isDigits token then some (.atLeast (tables.number token))
  else if tables.lowered token = "all" then some .all
  else none

/-- The selections that a pattern stands for: those whose name starts with it, without its
asterisk. -/
def expandPattern (names : List String) (pattern : String) : List String :=
  let front :=
    if Text.endsWith pattern "*" then String.ofList pattern.toList.dropLast else pattern
  (names.filter fun name => Text.startsWith name front).insertionSort (· ≤ ·)

section Descent

variable (tables : UnicodeTables) (names : List String)

/-- A token that is the name of a selection. -/
def selectionNamed (token : String) (others : List String) : Reading (token :: others) :=
  if names.contains token then .ok (.selection token, ⟨others, Nat.lt_succ_self _⟩)
  else .error ("Unknown selection in condition: " ++ token)

mutual

def expression (depth : Nat) (tokens : List String) : Reading tokens :=
  if maxDepth < depth then .error "Condition depth limit exceeded"
  else
    match conjunction (depth + 1) tokens with
    | .error message => .error message
    | .ok (node, rest) =>
      match orLoop depth node rest.1 with
      | .error message => .error message
      | .ok (node, after) => .ok (node, ⟨after.1, Nat.lt_of_le_of_lt after.2 rest.2⟩)
termination_by 4 * tokens.length + 2

/-- The loop of `expression`. -/
def orLoop (depth : Nat) (node : Node) (tokens : List String) :
    Except String (Node × { rest : List String // rest.length ≤ tokens.length }) :=
  match tokens with
  | [] => .ok (node, ⟨[], Nat.le_refl _⟩)
  | token :: others =>
    if tables.lowered token = "or" then
      match conjunction (depth + 1) others with
      | .error message => .error message
      | .ok (second, rest) =>
        match orLoop depth (.or node second) rest.1 with
        | .error message => .error message
        | .ok (node, after) =>
          .ok (node, ⟨after.1, by
            have := after.2
            have := rest.2
            simp only [List.length_cons]
            omega⟩)
    else .ok (node, ⟨token :: others, Nat.le_refl _⟩)
termination_by 4 * tokens.length + 1

def conjunction (depth : Nat) (tokens : List String) : Reading tokens :=
  match unary (depth + 1) tokens with
  | .error message => .error message
  | .ok (node, rest) =>
    match andLoop depth node rest.1 with
    | .error message => .error message
    | .ok (node, after) => .ok (node, ⟨after.1, Nat.lt_of_le_of_lt after.2 rest.2⟩)
termination_by 4 * tokens.length + 1

/-- The loop of `conjunction`. -/
def andLoop (depth : Nat) (node : Node) (tokens : List String) :
    Except String (Node × { rest : List String // rest.length ≤ tokens.length }) :=
  match tokens with
  | [] => .ok (node, ⟨[], Nat.le_refl _⟩)
  | token :: others =>
    if tables.lowered token = "and" then
      match unary (depth + 1) others with
      | .error message => .error message
      | .ok (second, rest) =>
        match andLoop depth (.and node second) rest.1 with
        | .error message => .error message
        | .ok (node, after) =>
          .ok (node, ⟨after.1, by
            have := after.2
            have := rest.2
            simp only [List.length_cons]
            omega⟩)
    else .ok (node, ⟨token :: others, Nat.le_refl _⟩)
termination_by 4 * tokens.length + 1

def unary (depth : Nat) (tokens : List String) : Reading tokens :=
  match tokens with
  | [] => .error "Incomplete condition"
  | token :: others =>
    if tables.lowered token = "not" then
      match unary (depth + 1) others with
      | .error message => .error message
      | .ok (node, rest) => .ok (.not node, ⟨rest.1, Nat.lt_succ_of_lt rest.2⟩)
    else if token = "(" then
      match expression (depth + 1) others with
      | .error message => .error message
      | .ok (node, ⟨")" :: rest, shorter⟩) =>
        .ok (node, ⟨rest, by
          simp only [List.length_cons] at shorter ⊢
          omega⟩)
      | .ok _ => .error "Unbalanced condition parentheses"
    else
      match amount? tables token, others with
      | some amount, word :: pattern :: rest =>
        if tables.lowered word = "of" then
          match expandPattern names pattern with
          | [] => .error "Condition wildcard references no selections"
          | first :: matched =>
            .ok (.of amount (first :: matched), ⟨rest, by
              simp only [List.length_cons]
              omega⟩)
        else selectionNamed names token (word :: pattern :: rest)
      | _, others => selectionNamed names token others
termination_by 4 * tokens.length

end

def parseCondition (condition : String) : Except String Node :=
  let tokens := conditionTokens tables condition
  let written := String.ofList (condition.toList.filter fun c => !Text.isSpace c)
  if tables.lowered (String.join tokens) ≠ tables.lowered written then
    .error "Condition contains unsupported syntax"
  else
    match expression tables names 0 tokens with
    | .error message => .error message
    | .ok (tree, rest) => if rest.1.isEmpty then .ok tree else .error "Malformed condition"

end Descent

/-! ## Meaning -/

/-- `resolve`, for the outcomes of the selections. -/
def Node.resolve (outcome : String → Bool) : Node → Bool
  | .selection name => outcome name
  | .not node => !node.resolve outcome
  | .and first second => first.resolve outcome && second.resolve outcome
  | .or first second => first.resolve outcome || second.resolve outcome
  | .of .all names => names.countP outcome == names.length
  | .of (.atLeast count) names => count ≤ names.countP outcome

end ThreatScope.Detection
