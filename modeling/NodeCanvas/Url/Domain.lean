import NodeCanvas.Text.Composition
import NodeCanvas.Text.Direction
import NodeCanvas.Text.Joining
import NodeCanvas.Url.Domain.Table
import NodeCanvas.Url.Punycode
/-!
# Domain names

A domain name is a series of labels with full stops between them. A name with characters beyond
ASCII is first brought to its normal form, and then each of its labels is checked and encoded. A
label that is already encoded has to stand for a label in normal form. Labels that run from right to
left have to look the same wherever they are shown.
-/

namespace NodeCanvas

namespace Domain

/-- Whether a character is beyond ASCII. -/
def isForeign (c : Char) : Bool := 128 ≤ c.toNat

/-- Characters of ASCII that no name holds. -/
def isForbidden (c : Char) : Bool :=
  c.toNat ≤ 0x20 || c.toNat == 0x7F ||
    ['#', '%', '/', ':', '<', '>', '?', '@', '[', '\\', ']', '^', '|'].contains c

/-- The normal form of a name, unless it holds a character that no name holds. -/
def normal? (name : List Char) : Option (List Char) := do
  let text := composed (← name.mapM nameChange?).flatten
  guard (!text.any isForbidden)
  return text

/-! ## Labels -/

/-- The joiner that shows letters apart, and the one that shows them together. -/
def separatingJoiner : Char := '\u200c'
def connectingJoiner : Char := '\u200d'

/-- Whether the nearest letter of a text, past all that is transparent, joins. -/
def nearestJoins (joins : Joining → Bool) (text : List Char) : Bool :=
  (text.find? (joining · ≠ .transparent)).any fun c => joins (joining c)

/-- Whether a joiner may stand between a text, in reverse, and another. -/
def allowsJoiner (before : List Char) (c : Char) (after : List Char) : Bool :=
  before.head?.any isVirama ||
    (c == separatingJoiner && nearestJoins Joining.joinsAfter before &&
      nearestJoins Joining.joinsBefore after)

/-- Whether all joiners of a text may stand where they are, after another text in reverse. -/
def joinersFit (before : List Char) : List Char → Bool
  | [] => true
  | c :: after =>
    (!(c == separatingJoiner || c == connectingJoiner) || allowsJoiner before c after) &&
      joinersFit (c :: before) after

/-- The most characters of a label with characters beyond ASCII, and of an encoding. -/
def longestLabel : Nat := 1000
def longestEncoding : Nat := 2000

/-- Whether characters that may be in a label make one. -/
def isLabel (label : List Char) : Bool :=
  !label.head?.any isMark && joinersFit [] label &&
    (!label.any isForeign || label.length ≤ longestLabel)

/-- Whether a text is the normal form of a label. -/
def isNormal (label : List Char) : Bool :=
  label.all (fun c => nameChange? c == some [c] && !isForbidden c && c != '.') &&
    composed label == label

/-- A label as it is written, and as it is meant. -/
structure Label where
  written : List Char
  meant : List Char

/-- What an encoded label starts with. -/
def encodedMark : List Char := "xn--".toList

/-- The label of a text in normal form. -/
def label? (text : List Char) : Option Label :=
  match Text.after? encodedMark text with
  | none => do
    guard (isLabel text)
    return ⟨if text.any isForeign then encodedMark ++ Punycode.encode text else text, text⟩
  | some encoding => do
    guard (!encoding.any isForeign && text.getLast? != some '-' &&
      encoding.length ≤ longestEncoding)
    let meant ← Punycode.decode? encoding
    guard (isNormal meant && isLabel meant)
    return ⟨text, meant⟩

/-! ## Direction -/

/-- Whether a character runs from right to left. -/
def runsLeft (c : Char) : Bool :=
  [.rightToLeft, .arabicLetter, .arabicNumber].contains (direction c)

/-- What may stand in a label of either direction. -/
def isShared (d : Direction) : Bool :=
  [.europeanNumber, .numberSign, .numberEnd, .numberPoint, .mark, .invisible, .neutral].contains d

/-- Whether the characters of a label, with these directions, stay in order in every text. -/
def staysInOrder : List Direction → Bool
  | [] => true
  | first :: others =>
    let others := (others.reverse.dropWhile (· == .mark)).reverse
    if first == .leftToRight then
      others.all (fun d => d == .leftToRight || isShared d) &&
        others.getLast?.all fun d => d == .leftToRight || d == .europeanNumber
    else if first == .rightToLeft || first == .arabicLetter then
      others.all (fun d =>
        d == .rightToLeft || d == .arabicLetter || d == .arabicNumber || isShared d) &&
      others.getLast?.all (fun d => d == .rightToLeft || d == .arabicLetter ||
        d == .europeanNumber || d == .arabicNumber) &&
      !(others.contains .europeanNumber && others.contains .arabicNumber)
    else false

/-- Whether the labels of a name stay in order, if any of it runs from right to left. -/
def labelsStayInOrder (labels : List (List Char)) : Bool :=
  !labels.any (·.any runsLeft) || labels.all fun label => staysInOrder (label.map direction)

/-! ## Names -/

/-- A name in ASCII. -/
def ascii? (name : List Char) : Option (List Char) := do
  let labels ← (Text.splitOn (· == '.') (← normal? name)).mapM label?
  guard (labelsStayInOrder (labels.map (·.meant)))
  return ['.'].intercalate (labels.map (·.written))

end Domain

end NodeCanvas
