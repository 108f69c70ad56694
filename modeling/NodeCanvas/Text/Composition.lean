import NodeCanvas.Text.Combining
/-!
# Composed characters

A letter with marks can be written as one character or as several. The composed form of a text takes
characters apart, puts marks in the order of their classes, and joins again what can be joined, so
that texts that look the same are the same.
-/

namespace NodeCanvas

/-- The characters that are made of two others: a character and what is joined to it. -/
def compositeTable : CodeTable (Char × Char) :=
  let part (digits : List Char) : Char := Char.ofNat (hexNumber digits)
  let isPoint (c : Char) : Bool := c == '.'
  let parts (note : List Char) : Char × Char :=
    (part (note.tail.takeWhile (!isPoint ·)), part (note.dropWhile (!isPoint ·)).tail)
  .ofTexts parts ["
  E0:61.300 :61.301 :61.302 :61.303 :61.308 :61.30A 1:63.327 :65.300 :65.301 :65.302 :65.308 :69.300
  :69.301 :69.302 :69.308 1:6E.303 :6F.300 :6F.301 :6F.302 :6F.303 :6F.308 2:75.300 :75.301 :75.302
  :75.308 :79.301 1:79.308 1:61.304 1:61.306 1:61.328 1:63.301 1:63.302 1:63.307 1:63.30C 1:64.30C
  3:65.304 1:65.306 1:65.307 1:65.328 1:65.30C 1:67.302 1:67.306 1:67.307 1:67.327 1:68.302 3:69.303
  1:69.304 1:69.306 1:69.328 5:6A.302 1:6B.327 2:6C.301 1:6C.327 1:6C.30C 5:6E.301 1:6E.327 1:6E.30C
  4:6F.304 1:6F.306 1:6F.30B 3:72.301 1:72.327 1:72.30C 1:73.301 1:73.302 1:73.327 1:73.30C 1:74.327
  1:74.30C 3:75.303 1:75.304 1:75.306 1:75.30A 1:75.30B 1:75.328 1:77.302 1:79.302 2:7A.301 1:7A.307
  1:7A.30C 22:6F.31B E:75.31B 1D:61.30C 1:69.30C 1:6F.30C 1:75.30C 1:FC.304 1:FC.301 1:FC.30C
  1:FC.300 2:E4.304 1:227.304 1:E6.304 3:67.30C 1:6B.30C 1:6F.328 1:1EB.304 1:292.30C :6A.30C
  4:67.301 3:6E.300 1:E5.301 1:E6.301 1:F8.301 1:61.30F 1:61.311 1:65.30F 1:65.311 1:69.30F 1:69.311
  1:6F.30F 1:6F.311 1:72.30F 1:72.311 1:75.30F 1:75.311 1:73.326 1:74.326 3:68.30C 7:61.307 1:65.327
  1:F6.304 1:F5.304 1:6F.307 1:22F.304 1:79.304 15C:3CA.301 1B:3B1.301 :3B5.301 :3B7.301 :3B9.301
  :3CB.301 19:3B9.308 :3C5.308 :3BF.301 :3C5.301 :3C9.301 6A:438.306 16:435.300 :435.308 1:433.301
  3:456.308 4:43A.301 :438.300 :443.306 18:475.30F 4A:436.306 E:430.306 1:430.308 3:435.306
  3:4D9.308 1:436.308 1:437.308 3:438.304 1:438.308 1:43E.308 3:4E9.308 1:44D.308 1:443.304
  1:443.308 1:443.30B 1:447.308 3:44B.308 128:627.653 :627.654 :648.654 :627.655 :64A.654 99:6D5.654
  1:6C1.654 10:6D2.654 255:928.93C 7:930.93C 2:933.93C 96:9C7.9BE :9C7.9D7 17B:B47.B56 2:B47.B3E
  :B47.B57 47:B92.BD7 35:BC6.BBE :BC7.BBE :BC6.BD7 7B:C46.C56 77:CBF.CD5 6:CC6.CD5 :CC6.CD6
  1:CC6.CC2 :CCA.CD5 7E:D46.D3E :D47.D3E :D46.D57 8D:DD9.DCA 1:DD9.DCF :DDC.DCA :DD9.DDF
  247:1025.102E ADF:1B05.1B35 1:1B07.1B35 1:1B09.1B35 1:1B0B.1B35 1:1B0D.1B35 3:1B11.1B35
  28:1B3A.1B35 1:1B3C.1B35 2:1B3E.1B35 :1B3F.1B35 1:1B42.1B35 2BD:61.325 1:62.307 1:62.323 1:62.331
  1:E7.301 1:64.307 1:64.323 1:64.331 1:64.327 1:64.32D 1:113.300 1:113.301 1:65.32D 1:65.330
  1:229.306 1:66.307 1:67.304 1:68.307 1:68.323 1:68.308 1:68.327 1:68.32E 1:69.330 1:EF.301
  1:6B.301 1:6B.323 1:6B.331 1:6C.323 1:1E37.304 1:6C.331 1:6C.32D 1:6D.301 1:6D.307 1:6D.323
  1:6E.307 1:6E.323 1:6E.331 1:6E.32D 1:F5.301 1:F5.308 1:14D.300 1:14D.301 1:70.301 1:70.307
  1:72.307 1:72.323 1:1E5B.304 1:72.331 1:73.307 1:73.323 1:15B.307 1:161.307 1:1E63.307 1:74.307
  1:74.323 1:74.331 1:74.32D 1:75.324 1:75.330 1:75.32D 1:169.301 1:16B.308 1:76.303 1:76.323
  1:77.300 1:77.301 1:77.308 1:77.307 1:77.323 1:78.307 1:78.308 1:79.307 1:7A.302 1:7A.323 1:7A.331
  :68.331 :74.308 :77.30A :79.30A 7:61.323 1:61.309 1:E2.301 1:E2.300 1:E2.309 1:E2.303 1:1EA1.302
  1:103.301 1:103.300 1:103.309 1:103.303 1:1EA1.306 1:65.323 1:65.309 1:65.303 1:EA.301 1:EA.300
  1:EA.309 1:EA.303 1:1EB9.302 1:69.309 1:69.323 1:6F.323 1:6F.309 1:F4.301 1:F4.300 1:F4.309
  1:F4.303 1:1ECD.302 1:1A1.301 1:1A1.300 1:1A1.309 1:1A1.303 1:1A1.323 1:75.323 1:75.309 1:1B0.301
  1:1B0.300 1:1B0.309 1:1B0.303 1:1B0.323 1:79.300 1:79.323 1:79.309 1:79.303 6:3B1.313 :3B1.314
  :1F00.300 :1F01.300 :1F00.301 :1F01.301 :1F00.342 :1F01.342 8:3B5.313 :3B5.314 :1F10.300 :1F11.300
  :1F10.301 :1F11.301 A:3B7.313 :3B7.314 :1F20.300 :1F21.300 :1F20.301 :1F21.301 :1F20.342 :1F21.342
  8:3B9.313 :3B9.314 :1F30.300 :1F31.300 :1F30.301 :1F31.301 :1F30.342 :1F31.342 8:3BF.313 :3BF.314
  :1F40.300 :1F41.300 :1F40.301 :1F41.301 A:3C5.313 :3C5.314 :1F50.300 :1F51.300 :1F50.301 :1F51.301
  :1F50.342 :1F51.342 8:3C9.313 :3C9.314 :1F60.300 :1F61.300 :1F60.301 :1F61.301 :1F60.342 :1F61.342
  8:3B1.300 1:3B5.300 1:3B7.300 1:3B9.300 1:3BF.300 1:3C5.300 1:3C9.300 33:3B1.306 :3B1.304
  4:3B1.342 F:3B7.342 9:3B9.306 :3B9.304 :3CA.300 3:3B9.342 :3CA.342 8:3C5.306 :3C5.304 :3CB.300
  1:3C1.313 :3C1.314 :3C5.342 :3CB.342 E:3C9.342 1A3:2190.338 :2192.338 12:2194.338 1E:21D0.338
  :21D4.338 :21D2.338 34:2203.338 4:2208.338 2:220B.338 17:2223.338 1:2225.338 1A:223C.338
  2:2243.338 2:2245.338 1:2248.338 16:3D.338 1:2261.338 A:224D.338 :3C.338 :3E.338 :2264.338
  :2265.338 2:2272.338 :2273.338 2:2276.338 :2277.338 6:227A.338 :227B.338 2:2282.338 :2283.338
  2:2286.338 :2287.338 22:22A2.338 :22A8.338 :22A9.338 :22AB.338 30:227C.338 :227D.338 :2291.338
  :2292.338 6:22B2.338 :22B3.338 :22B4.338 :22B5.338 D5E:304B.3099 1:304D.3099 1:304F.3099
  1:3051.3099 1:3053.3099 1:3055.3099 1:3057.3099 1:3059.3099 1:305B.3099 1:305D.3099 1:305F.3099
  1:3061.3099 2:3064.3099 1:3066.3099 1:3068.3099 6:306F.3099 :306F.309A 1:3072.3099 :3072.309A
  1:3075.3099 :3075.309A 1:3078.3099 :3078.309A 1:307B.3099 :307B.309A 16:3046.3099 9:309D.3099
  D:30AB.3099 1:30AD.3099 1:30AF.3099 1:30B1.3099 1:30B3.3099 1:30B5.3099 1:30B7.3099 1:30B9.3099
  1:30BB.3099 1:30BD.3099 1:30BF.3099 1:30C1.3099 2:30C4.3099 1:30C6.3099 1:30C8.3099 6:30CF.3099
  :30CF.309A 1:30D2.3099 :30D2.309A 1:30D5.3099 :30D5.309A 1:30D8.3099 :30D8.309A 1:30DB.3099
  :30DB.309A 16:30A6.3099 2:30EF.3099 :30F0.3099 :30F1.3099 :30F2.3099 3:30FD.3099 D4CA:105D2.307
  1A:105DA.307 AB5:11099.110BA 1:1109B.110BA E:110A5.110BA 82:11131.11127 :11132.11127
  21B:11347.1133E :11347.11357 36:11382.113C9 1:11384.113BB 8:1138B.113C2 2:11390.113C9
  33:113C2.113C2 1:113C2.113B8 :113C2.113C9 F2:114B9.114BA :114B9.114B0 1:114B9.114BD FB:115B8.115AF
  :115B9.115AF 37C:11935.11930 47E8:1611E.1611E :1611E.16129 :1611E.1611F :16129.1611F :1611E.16120
  :16121.1611F :16122.1611F :16121.16120 C3F:16D67.16D67 :16D63.16D67 :16D69.16D67"]

namespace Composition

/-! ## Korean syllables

A syllable is made of a leading consonant, a vowel and perhaps a trailing consonant. All of them
have code points in order, so that joining and taking apart is arithmetic. -/

/-- Take a syllable apart: its trailing consonant first, and then its vowel. -/
def syllableParts? (c : Char) : Option (Char × Char) :=
  let index := c.toNat - 0xAC00
  if c.toNat < 0xAC00 ∨ 0xD7A3 < c.toNat then none
  else if index % 28 = 0 then
    some (Char.ofNat (0x1100 + index / 588), Char.ofNat (0x1161 + index % 588 / 28))
  else some (Char.ofNat (c.toNat - index % 28), Char.ofNat (0x11A7 + index % 28))

/-- Join a leading consonant and a vowel, or a syllable and a trailing consonant. -/
def joinSyllable? (a b : Char) : Option Char :=
  let first := a.toNat
  let second := b.toNat
  if 0x1100 ≤ first ∧ first ≤ 0x1112 ∧ 0x1161 ≤ second ∧ second ≤ 0x1175 then
    some (Char.ofNat (0xAC00 + (first - 0x1100) * 588 + (second - 0x1161) * 28))
  else if 0xAC00 ≤ first ∧ first ≤ 0xD7A3 ∧ (first - 0xAC00) % 28 = 0 ∧ 0x11A8 ≤ second ∧
      second ≤ 0x11C2 then
    some (Char.ofNat (first + (second - 0x11A7)))
  else none

/-! ## Taking apart and joining -/

/-- The two characters that a character is made of. -/
def parts? (c : Char) : Option (Char × Char) := syllableParts? c <|> compositeTable.note? c

/-- The character that two others make. -/
def join? (a b : Char) : Option Char :=
  joinSyllable? a b <|>
    (compositeTable.ranges.find? fun range => range.note == (a, b)).map (Char.ofNat ·.first)

/-- Take every character apart once. -/
def split (text : List Char) : List Char :=
  text.flatMap fun c => match parts? c with
    | some (a, b) => [a, b]
    | none => [c]

/-- Take every character apart: no part of a part of a character has parts. -/
def splitFully (text : List Char) : List Char := split (split text)

/-- Put a character before a text whose marks are in order; a mark moves behind those of lower
classes. -/
def place (c : Char) : List Char → List Char
  | [] => [c]
  | d :: rest =>
    if combiningClass d ≠ 0 ∧ combiningClass d < combiningClass c then d :: place c rest
    else c :: d :: rest

/-- Put the marks of every character in order. -/
def order (text : List Char) : List Char := text.foldr place []

/-- A text that is being joined: the character that marks may still join, if there is one, the
marks after it, and all before it. Both are in reverse. -/
structure Joined where
  before : List Char := []
  base : Option Char := none
  marks : List Char := []

namespace Joined

def text (j : Joined) : List Char := (j.marks ++ j.base.toList ++ j.before).reverse

/-- Whether the marks in between let a character reach the base. -/
def reaches (j : Joined) (c : Char) : Bool :=
  match j.marks with
  | [] => true
  | mark :: _ => combiningClass mark < combiningClass c

/-- Add the next character of a text. -/
def add (j : Joined) (c : Char) : Joined :=
  match j.base with
  | none =>
    if combiningClass c = 0 then { j with base := some c }
    else { j with before := c :: j.before }
  | some base =>
    match if j.reaches c then join? base c else none with
    | some joined => { j with base := some joined }
    | none =>
      if combiningClass c = 0 then { before := j.marks ++ base :: j.before, base := some c }
      else { j with marks := c :: j.marks }

end Joined

/-- Join what can be joined. -/
def join (text : List Char) : List Char := (text.foldl Joined.add {}).text

end Composition

/-- The composed form of a text. -/
def composed (text : List Char) : List Char :=
  Composition.join (Composition.order (Composition.splitFully text))

end NodeCanvas
