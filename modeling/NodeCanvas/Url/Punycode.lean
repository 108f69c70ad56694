/-!
# Punycode

Labels of domain names are ASCII. A label with other characters is written as its ASCII characters
and, after a hyphen, a string of digits that says where the others go: they are inserted in the
order of their code points, and each insertion is a distance from the one before. Distances are
numbers of variable length in base 36, whose digits adapt to the distances seen so far. Numbers have
32 bits.
-/

namespace NodeCanvas.Punycode

/-- The digit of a number below 36. -/
def digit (n : Nat) : Char := if n < 26 then Char.ofNat (n + 97) else Char.ofNat (n + 22)

/-- The least value of the digit at position `k` that does not end a number: from one to 26. -/
def threshold (k bias : Nat) : Nat := Nat.min 26 (Nat.max 1 (k - bias))

theorem threshold_bounds (k bias : Nat) : 0 < threshold k bias ∧ threshold k bias ≤ 26 :=
  ⟨Nat.lt_min.mpr ⟨by decide, Nat.lt_of_lt_of_le Nat.zero_lt_one (Nat.le_max_left ..)⟩,
    Nat.min_le_left ..⟩

/-- Taking off the threshold and dividing makes a distance smaller. -/
theorem rest_lt {k bias distance : Nat} (h : threshold k bias ≤ distance) :
    (distance - threshold k bias) / (36 - threshold k bias) < distance := by
  have bounds := threshold_bounds k bias
  have := Nat.div_le_self (distance - threshold k bias) (36 - threshold k bias)
  omega

/-- The digits of a distance, from position `k` on. -/
def digits (bias k distance : Nat) : List Char :=
  if h : threshold k bias ≤ distance then
    let rest := distance - threshold k bias
    let base := 36 - threshold k bias
    have := rest_lt h
    digit (threshold k bias + rest % base) :: digits bias (k + 36) (rest / base)
  else [digit distance]
termination_by distance

/-- How often a distance is scaled down before it is small, and what is left of it. -/
def scale (delta k : Nat) : Nat × Nat :=
  if 455 < delta then scale (delta / 35) (k + 36) else (delta, k)
termination_by delta
decreasing_by omega

/-- The bias for the next distance. -/
def adapt (delta points : Nat) (first : Bool) : Nat :=
  let delta := if first then delta / 700 else delta / 2
  let (delta, k) := scale (delta + delta / points) 0
  k + 36 * delta / (delta + 38)

/-- Where an encoding stands: the code point that was inserted last, the distance since then, the
bias, and how many characters are in place. -/
structure State where
  point : Nat := 128
  delta : Nat := 0
  bias : Nat := 72
  handled : Nat

/-- Go through the label once for the code point `target`: characters below it count for the
distance, and each occurrence of it is written out. -/
def passOver (target basics : Nat) : List Nat → State → State × List Char
  | [], s => (s, [])
  | c :: rest, s =>
    if c < target then passOver target basics rest { s with delta := s.delta + 1 }
    else if c = target then
      let next : State :=
        { s with
          delta := 0
          bias := adapt s.delta (s.handled + 1) (s.handled == basics)
          handled := s.handled + 1 }
      let (s', out) := passOver target basics rest next
      (s', digits s.bias 36 s.delta ++ out)
    else passOver target basics rest s

/-- Insert the code points of a list, which are in ascending order. -/
def insertAll (label : List Nat) (basics : Nat) : List Nat → State → List Char
  | [], _ => []
  | target :: targets, s =>
    let start := { s with delta := s.delta + (target - s.point) * (s.handled + 1) }
    let (s, out) := passOver target basics label start
    out ++ insertAll label basics targets { s with delta := s.delta + 1, point := target + 1 }

/-- The encoding of a label. -/
def encode (label : List Char) : List Char :=
  let basics := label.filter (·.toNat < 128)
  let points := label.map Char.toNat
  let targets := ((points.filter (128 ≤ ·)).mergeSort).eraseDups
  let head := if basics.isEmpty then [] else basics ++ ['-']
  head ++ insertAll points basics.length targets { handled := basics.length }

/-! ## Reading -/

/-- The number that a digit stands for. -/
def digitValue? (c : Char) : Option Nat :=
  if c.isDigit then some (c.toNat - 22)
  else if c.isAlpha then some (c.toLower.toNat - 97)
  else none

/-- The least number that does not fit into 32 bits. -/
def tooLarge : Nat := 0x100000000

/-- Read the digits of a distance from position `k` on, where a digit counts `weight` times. What
follows them is left. -/
def distance? (bias k weight : Nat) : List Char → Option (Nat × List Char)
  | [] => none
  | c :: rest =>
    match digitValue? c with
    | none => none
    | some d =>
      let heavier := weight * (36 - threshold k bias)
      if tooLarge ≤ d * weight then none
      else if d < threshold k bias then some (d * weight, rest)
      else if tooLarge ≤ heavier then none
      else
        (distance? bias (k + 36) heavier rest).map fun (more, left) => (d * weight + more, left)

/-- Reading a distance uses up text. -/
theorem length_distance? {bias k weight : Nat} {text rest : List Char} {n : Nat}
    (h : distance? bias k weight text = some (n, rest)) : rest.length < text.length := by
  induction text generalizing k weight n with
  | nil => cases h
  | cons c text ih =>
    rw [distance?] at h
    split at h
    · cases h
    · split at h
      · cases h
      · split at h
        · cases h
          exact Nat.lt_succ_self _
        · dsimp only at h
          split at h
          · cases h
          · obtain ⟨⟨more, left⟩, found, same⟩ := Option.map_eq_some_iff.1 h
            cases same
            exact Nat.lt_succ_of_lt (ih found)

/-- Insert the characters that the rest of an encoding stands for. The next one has at least the
code `point`, and distances are counted from `index`. -/
def insertions? (label : List Char) (point index bias : Nat) (text : List Char) :
    Option (List Char) :=
  if text.isEmpty then some label
  else
    match _h : distance? bias 36 1 text with
    | none => none
    | some (distance, rest) =>
      let size := label.length + 1
      let point := point + (index + distance) / size
      let place := (index + distance) % size
      if index + distance < tooLarge ∧ point.isValidChar then
        let label := label.take place ++ Char.ofNat point :: label.drop place
        insertions? label point (place + 1) (adapt distance size (index == 0)) rest
      else none
termination_by text.length
decreasing_by exact length_distance? _h

/-- The label of an encoding. Its ASCII characters stand before the last hyphen. -/
def decode? (text : List Char) : Option (List Char) :=
  let (codes, basics) := text.reverse.span (· ≠ '-')
  match basics with
  | [] => insertions? [] 128 0 72 text
  | [_] => none
  | _ :: basics => insertions? basics.reverse 128 0 72 codes.reverse

end NodeCanvas.Punycode
