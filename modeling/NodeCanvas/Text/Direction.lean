import NodeCanvas.Text.CodePoints
/-!
# The direction of text

Some scripts run from right to left. The direction of a character is its class in the bidirectional
algorithm. The table covers the characters that domain names may hold; most of them run from left to
right and are left out.
-/

namespace NodeCanvas

inductive Direction where
  | leftToRight
  | rightToLeft
  | arabicLetter
  | arabicNumber
  | europeanNumber
  | numberSign
  | numberEnd
  | numberPoint
  | mark
  | invisible
  | neutral
  deriving DecidableEq

namespace Direction

/-- The class with a short name. -/
def ofName : String → Direction
  | "L" => .leftToRight
  | "R" => .rightToLeft
  | "AL" => .arabicLetter
  | "AN" => .arabicNumber
  | "EN" => .europeanNumber
  | "ES" => .numberSign
  | "ET" => .numberEnd
  | "CS" => .numberPoint
  | "NSM" => .mark
  | "BN" => .invisible
  | _ => .neutral

end Direction

/-- The classes other than `L`, by their short names. -/
def directionTable : CodeTable Direction :=
  .ofTexts (fun note => .ofName (String.ofList note.tail)) ["
  21-1:ON -2:ET -4:ON :ES :CS :ES -1:CS -9:EN :CS -25:ON 1A-26:ON -3:ET -8:ON 1-1:ET 4-21:ON 1F:ON
  1C1-1:ON 7-D:ON 2-1B:ON 1-10:ON -6F:NSM 5:ON 80:ON 8C-6:NSM 100-4:ON :ET 1-2C:NSM :R :NSM :R
  -1:NSM :R -1:NSM :R :NSM 8-24:R 11-1:ON :AL -1:ET :AL :CS :AL -1:ON -A:NSM -2F:AL -14:NSM -9:AN
  :ET -1:AN -2:AL :NSM -64:AL -6:NSM 1:ON -5:NSM -1:AL -1:NSM :ON -3:NSM -1:AL -9:EN -16:AL :NSM
  -1D:AL -1A:NSM 2-58:AL -A:NSM :AL E-2A:R -8:NSM -1:R -3:ON :R 2:NSM -17:R -3:NSM :R -8:NSM :R
  -2:NSM :R -4:NSM 2-28:R -2:NSM 2:R 1-2F:AL 7-8:NSM -29:AL -38:NSM 37:NSM 1:NSM 4-7:NSM 4:NSM
  3-6:NSM A-1:NSM 1D:NSM 3A:NSM 4-3:NSM 8:NSM 14-1:NSM E-1:ET 7:ET 2-4:NSM 39:NSM 4-10:NSM 1E-1:NSM
  3:NSM B-1:NSM 39:NSM 4-7:NSM 4:NSM 14-1:NSM D:ET 8-7:NSM 3A:NSM 2:NSM 1-3:NSM 8-9:NSM B-1:NSM
  1E:NSM 3D:NSM C:NSM 25-5:ON :ET :ON 5:NSM 3:NSM 37:NSM 1-2:NSM 5-10:NSM B-1:NSM 14-6:ON 2:NSM
  3A:NSM F-1:NSM 14-1:NSM 1C-1:NSM 39-1:NSM 4-3:NSM 8:NSM 14-1:NSM 1D:NSM 48:NSM 7-4:NSM 5A:NSM
  2-6:NSM 4:ET 7-7:NSM 62:NSM 2-8:NSM B-6:NSM 49-1:NSM 1B:NSM 1:NSM 1:NSM -3:ON 33-D:NSM 1-4:NSM
  1-1:NSM 5-2F:NSM 9:NSM 66-3:NSM 1-5:NSM 1-1:NSM 2-1:NSM 19-1:NSM 4-2:NSM 10-3:NSM D:NSM 2-1:NSM
  6:NSM F:NSM 2BF-2:NSM 30-9:ON 66:ON 29A-1:ON 75-2:NSM 1D-1:NSM 1E-1:NSM 1E-1:NSM 43-6:NSM 8:NSM
  2-A:NSM 7:ET 1:NSM 12-1A:ON 7A-1:NSM 22:NSM 76-2:NSM 4-1:NSM 9:NSM 6-2:NSM 4-5:ON 98-21:ON
  17-1:NSM 2:NSM 3A:NSM 1-8:NSM 1:NSM 2-7:NSM 6-C:NSM 30-53:NSM 30:NSM 1-4:NSM 1:NSM 5:NSM 28-8:NSM
  C-1:NSM 20-3:NSM 2-1:NSM 1-2:NSM 38:NSM 1-1:NSM 3:NSM 1-2:NSM 3A-7:NSM 2-1:NSM 98-2:NSM 1-C:NSM
  1-6:NSM 4:NSM 6:NSM 3-1:NSM C6-3F:NSM 20C-1:BN 2-17:ON 8-2:ET 2-E:ON :CS -19:ON 41-21:ET E-20:NSM
  13-25:ON 4:ET B-13:ON 3C-87:ON :ES :ET -121:ON 45-19:ON 1-315:ON 1-152:ON 100-2FF:ON E5-5:ON
  4-2:NSM 7-6:ON 7F:NSM 60-1F:NSM -204:ON 3-18:ON 9-3:NSM 2:ON 6:ON 5-2:ON 59-1:NSM 5:ON 5A:ON
  C4-25:ON 1BDA-3F:ON 5690-36:ON 146-2:ON 5F-3:NSM :ON -9:NSM -1:ON 1E-1:NSM 50-1:NSM E-21:ON 66:ON
  79:NSM 3:NSM 4:NSM 19-1:NSM 1-3:ON :NSM B-1:ET 3A-3:ON 4C-1:NSM 1A-11:NSM D:NSM 26-7:NSM 19-A:NSM
  2E-2:NSM 30:NSM 2-3:NSM 2-1:NSM 27:NSM 43-5:NSM 2-1:NSM 2-1:NSM C:NSM 8:NSM 2F:NSM 33:NSM 1-2:NSM
  2-1:NSM 5-1:NSM 1:NSM 2A-1:NSM 8:NSM 73-1:ON 79:NSM 2:NSM 4:NSM 4F30:NSM 93-10:AL -23C:ON 20-F:NSM
  15-1:ON 2C:AL 28D:ON 3E-4C:ON 3-10:ON 5C:NSM E2:NSM -1A:EN 7A-4:NSM 485-11B:R 3:ON -E0:R -E:NSM
  -25:R 2-7:NSM -A4:R -1:NSM 4-4A:R 3-6:ON -1BF:R -23:AL -3:NSM 8-9:AN 6-F:R 19-4:NSM :ON -20:R
  D0-1E:AN 1-29:R 1-1:NSM -4:R 10-5:AL 8-8:ON 21-5:NSM -27:R 8-15:AL -A:NSM -8:AL 16-11:R -3:NSM
  -70:R A:NSM 36-E:NSM B-13:ON A:NSM 2-1:NSM A-2:NSM 31-3:NSM 2-1:NSM 7:NSM 3D-2:NSM 24-4:NSM
  1-7:NSM 3E:NSM C-1:NSM 34-8:NSM A-3:NSM 2:NSM 5F-2:NSM 2:NSM 1-1:NSM 6:NSM 2:NSM 9D:NSM 3-7:NSM
  15-1:NSM 39-1:NSM 3:NSM 25-E:NSM 46-5:NSM D:NSM 1:NSM 1:NSM E-1:NSM 55-7:NSM 2-2:NSM 1:NSM 17:NSM
  54-5:NSM 1:NSM 4-1:NSM 1-1:NSM EE-3:NSM 6-1:NSM 1-1:NSM 1B-1:NSM 55-7:NSM 2:NSM 1-1:NSM 1F-C:ON
  3E:NSM 1:NSM 2-5:NSM 1:NSM 65-2:NSM 2-3:NSM 1-4:NSM 103-8:NSM 1-1:NSM 100-1:NSM 1:NSM 4:NSM
  90-7:NSM 4:NSM 20-5:NSM 2-1:NSM 28-5:NSM 2-3:NSM 8:NSM 9-5:NSM 2-2:NSM 2E-C:NSM 1-1:NSM C6:NSM
  1-2:NSM 1:NSM C9-D:NSM 54-15:NSM 2-6:NSM 1-1:NSM 1-1:NSM 7A-14:NSM 1:NSM 48-1:NSM 3:NSM 1:NSM
  15B-1:NSM B-1:NSM 34-4:NSM 5:NSM 1:NSM 17:NSM 7A-7:ON -3:ET -10:ON 144E:NSM 6-E:NSM 2CC8-B:NSM
  3-2:NSM 9C0-4:NSM 3B-6:NSM 418:NSM 3F-3:NSM 4F:ON 1:NSM 4CB8-1:NSM F61-2F0:ON F-46:NSM 220-2:NSM
  11-7:NSM 2-6:NSM 1E-3:NSM 3B-58:ON -2:NSM :ON BA-56:ON 6A9-36:NSM 4-31:NSM 8:NSM E:NSM 16-14:NSM
  550-8F:NSM A0-6:NSM 177:NSM 3D-3:NSM F:ET 1EC-3:NSM FE-1:NSM F3:NSM 2:NSM 7-1:NSM 5:NSM 10A-CF:R
  -6:NSM 4B-21:R -6:NSM -14:R 311-CC:AL 1B2-23F:ON 3D-2:ON 3D:ON B2-99A:ON"]

/-- The direction of a character. -/
def direction (c : Char) : Direction := (directionTable.note? c).getD .leftToRight

end NodeCanvas
