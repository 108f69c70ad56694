/-!
# Characters and parts of text

Blanks are the characters with the Unicode property `White_Space`. A pattern is a plain text; its
occurrences are taken from the left and do not overlap, and the empty pattern occurs at every gap
between two characters and at both ends.
-/

namespace NodeCanvas

/-! ## Blanks -/

/-- Whether a character is white space in the sense of Unicode. -/
def isBlank (c : Char) : Bool :=
  let n := c.toNat
  (9 ≤ n && n ≤ 13) || n == 0x20 || n == 0x85 || n == 0xA0 || n == 0x1680 ||
    (0x2000 ≤ n && n ≤ 0x200A) || n == 0x2028 || n == 0x2029 || n == 0x202F || n == 0x205F ||
    n == 0x3000

/-- A text without its leading blanks. -/
def skipBlanks (text : List Char) : List Char := text.dropWhile isBlank

/-- A text without blanks at either end. -/
def trimBlanks (text : List Char) : List Char :=
  (skipBlanks (skipBlanks text).reverse).reverse

/-! ## Hexadecimal numbers -/

/-- The value of a hexadecimal digit. -/
def hexDigit? (c : Char) : Option Nat :=
  if '0' ≤ c ∧ c ≤ '9' then some (c.toNat - 48)
  else if 'a' ≤ c ∧ c ≤ 'f' then some (c.toNat - 87)
  else if 'A' ≤ c ∧ c ≤ 'F' then some (c.toNat - 55)
  else none

/-- The number that digits stand for; what is no digit counts as zero. -/
def hexNumber (digits : List Char) : Nat :=
  digits.foldl (fun n c => 16 * n + (hexDigit? c).getD 0) 0

/-! ## Search and replacement -/

namespace Text

/-- What follows a text in a longer one, if the longer one starts with it. -/
def after? : List Char → List Char → Option (List Char)
  | [], rest => some rest
  | _ :: _, [] => none
  | c :: pattern, d :: rest => if c = d then after? pattern rest else none

theorem length_after? {pattern text rest : List Char} (h : after? pattern text = some rest) :
    rest.length + pattern.length = text.length := by
  induction pattern generalizing text with
  | nil =>
    simp only [after?, Option.some.injEq] at h
    simp [h]
  | cons c pattern ih =>
    cases text with
    | nil => simp [after?] at h
    | cons d text =>
      simp only [after?] at h
      split at h
      · simp [← ih h, Nat.add_assoc]
      · cases h

/-- Whether a pattern occurs in a text. -/
def occursIn (pattern : List Char) : List Char → Bool
  | [] => (after? pattern []).isSome
  | c :: text => (after? pattern (c :: text)).isSome || occursIn pattern text

/-- Put a text at every gap. -/
def fillGaps (filler : List Char) (text : List Char) : List Char :=
  filler ++ text.flatMap fun c => c :: filler

/-- Replace the occurrences of a pattern with at least one character. -/
def replaceChars (first : Char) (others replacement : List Char) (text : List Char) : List Char :=
  match _h : after? (first :: others) text with
  | some rest => replacement ++ replaceChars first others replacement rest
  | none =>
    match text with
    | [] => []
    | c :: text => c :: replaceChars first others replacement text
termination_by text.length
decreasing_by
  · have := length_after? _h
    simp only [List.length_cons] at this
    omega
  · simp

/-- Whether a pattern occurs in a text. -/
def contains (text pattern : String) : Bool := occursIn pattern.toList text.toList

/-- Whether a text starts with another. -/
def startsWith (text start : String) : Bool := (after? start.toList text.toList).isSome

/-- Replace every occurrence of a pattern. -/
def replace (text pattern replacement : String) : String :=
  String.ofList <|
    match pattern.toList with
    | [] => fillGaps replacement.toList text.toList
    | first :: others => replaceChars first others replacement.toList text.toList

/-! ## Cutting text into parts -/

/-- Cut a text at every separator. -/
def splitOn (separator : Char → Bool) : List Char → List (List Char)
  | [] => [[]]
  | c :: rest =>
    if separator c then [] :: splitOn separator rest
    else match splitOn separator rest with
      | part :: parts => (c :: part) :: parts
      | [] => [[c]]

/-- What follows all copies of a mark, with at least one character, at the start of a text. -/
def dropCopies (first : Char) (others : List Char) (text : List Char) : List Char :=
  match _h : after? (first :: others) text with
  | some rest => dropCopies first others rest
  | none => text
termination_by text.length
decreasing_by
  have := length_after? _h
  simp only [List.length_cons] at this
  omega

/-- What follows all copies of a mark at the start of a text. -/
def dropAll (mark : String) (text : List Char) : List Char :=
  match mark.toList with
  | [] => text
  | first :: others => dropCopies first others text

end Text

end NodeCanvas
