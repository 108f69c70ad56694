import NodeCanvas.Text.CodePoints
/-!
# Letters that join

In cursive scripts a letter joins the one before it, the one after it, or both. Marks between
letters do not keep them from joining. The table covers the characters that domain names may hold;
those that join nothing are left out.
-/

namespace NodeCanvas

/-- How a character joins its neighbours. -/
inductive Joining where
  | before
  | after
  | both
  /-- Joins both, and is no letter. -/
  | causes
  | transparent
  | neither
  deriving DecidableEq

namespace Joining

/-- The kind with a short name. -/
def ofName : String → Joining
  | "R" => .before
  | "L" => .after
  | "D" => .both
  | "C" => .causes
  | "T" => .transparent
  | _ => .neither

/-- Whether a letter joins the one after it. -/
def joinsAfter (j : Joining) : Bool := j == .after || j == .both

/-- Whether a letter joins the one before it. -/
def joinsBefore (j : Joining) : Bool := j == .before || j == .both

end Joining

/-- The kinds of joining, by their short names. -/
def joiningTable : CodeTable Joining :=
  .ofTexts (fun note => .ofName (String.ofList note.tail)) ["
  300-6F:T 113-6:T 107-2C:T 1:T 1-1:T 1-1:T 1:T 48-A:T 5:D 1-3:R :D :R :D :R -4:D -3:R -C:D :C -6:D
  :R -1:D -14:T E-1:D :T -2:R 5-E:D -11:R -25:D :R -1:D -8:R :D :R :D :R -1:D -1:R 1:R -6:T 2-5:T
  2-1:T 1-3:T -1:R A-2:D 2:D 10:R :T -2:D -4:R -3:D :R -8:D :R :D :R :D :R -1:D :R -1A:T 2:R -A:D
  -2:R -E:D -1:R -3:D :R :D -1:R -2:D -1:R -5:D 26-A:T 19-20:D -8:T 6:C 2:T 18-3:T 1-8:T 1-2:T 1-4:T
  12:R -4:D -1:R :D :R -9:D :R :D -2:R -2:T 4:D 1-3:D 1:R :D -19:R -2:C :D 2-4:D :R :D 7-8:T -9:D
  -2:R 1:R -1:D -1:R -5:D :R -E:D 1-38:T 37:T 1:T 4-7:T 4:T 3-6:T A-1:T 1D:T 3A:T 4-3:T 8:T 14-1:T
  1A-4:T 39:T 4-10:T 1E-1:T 3:T B-1:T 39:T 4-7:T 4:T 14-1:T 16-7:T 3A:T 2:T 1-3:T 8-9:T B-1:T 1E:T
  3D:T C:T 32:T 3:T 37:T 1-2:T 5-10:T B-1:T 1D:T 3A:T 2:T 6:T 5-1:T 14-1:T 1C-1:T 39-1:T 4-3:T 8:T
  14-1:T 1D:T 48:T 7-4:T 5A:T 2-6:T C-7:T 62:T 2-8:T B-6:T 49-1:T 1B:T 1:T 1:T 37-D:T 1-4:T 1-1:T
  5-2F:T 9:T 66-3:T 1-5:T 1-1:T 2-1:T 19-1:T 4-2:T 10-3:T D:T 2-1:T 6:T F:T 2BF-2:T 3B2-2:T 1D-1:T
  1E-1:T 1E-1:T 43-6:T 8:T 2-A:T 9:T 29:D 2:C 15-58:D C-1:T -21:D :T :D 75-2:T 4-1:T 9:T 6-2:T
  DB-1:T 2:T 3A:T 1-8:T 1:T 2-7:T 6-C:T 30-53:T 30:T 1-4:T 1:T 5:T 28-8:T C-1:T 20-3:T 2-1:T 1-2:T
  38:T 1-1:T 3:T 1-2:T 3A-7:T 2-1:T 98-2:T 1-C:T 1-6:T 4:T 6:T 3-1:T C6-3F:T 20D:C C2-20:T BFE-2:T
  8D:T 60-1F:T 22A-3:T 6B-1:T 75D4-3:T 1-9:T 20-1:T 50-1:T 110:T 3:T 4:T 19-1:T 5:T 13-31:D :L
  51-1:T 1A-11:T D:T 26-7:T 19-A:T 2E-2:T 30:T 2-3:T 2-1:T 27:T 43-5:T 2-1:T 2-1:T C:T 8:T 2F:T 33:T
  1-2:T 2-1:T 5-1:T 1:T 2A-1:T 8:T EE:T 2:T 4:T 4F30:T 301-F:T 3CD:T E2:T 95-4:T 686-E:T 28-7:T
  80-4:D :R 1:R 1-1:R 2:L -4:R -3:D :L -4:D :R -2:D :R 2:R -1:T 4-3:D :R 90:D :R :D -2:R -2:D :R
  -1:D :R :D -1:R :D :R 17-3:R -1:D 151:L -20:D :R :D -3:T 41-4:T 13D-1:T 15:R -1:D 1-1:D 32-5:T
  30-2:D :R -10:D 1-A:T -2:D :R 1B-3:D -1:R -B:D -3:T 2A:D 1-1:D -2:R 1:D -1:R -1:D :R -1:D 1:D -1:R
  :D 4:R :D :L 35:T 36-E:T 29:T 2-1:T A-2:T 31-3:T 2-1:T 7:T 3D-2:T 24-4:T 1-7:T 3E:T C-1:T 34-8:T
  A-3:T 2:T 5F-2:T 2:T 1-1:T 6:T 2:T 9D:T 3-7:T 15-1:T 39-1:T 3:T 25-E:T 46-5:T D:T 1:T 1:T E-1:T
  55-7:T 2-2:T 1:T 17:T 54-5:T 1:T 4-1:T 1-1:T EE-3:T 6-1:T 1-1:T 1B-1:T 55-7:T 2:T 1-1:T 6A:T 1:T
  2-5:T 1:T 65:T 1:T 2-3:T 1-4:T 103-8:T 1-1:T 100-1:T 1:T 4:T 90-7:T 4:T 20-9:T 28-5:T 2-3:T 8:T
  9-5:T 2-2:T 2E-C:T 1-1:T C6:T 1-2:T 1:T C9-D:T 1:T 52-15:T 2-6:T 1-1:T 1-1:T 7A-14:T 1:T 48-1:T
  3:T 1:T 15B-1:T B-1:T 34-4:T 5:T 1:T 17:T 14E5:T 6-E:T 2CC8-B:T 3-2:T 9C0-4:T 3B-6:T 418:T 3F-3:T
  51:T 4CB8-1:T 1261-46:T 220-2:T 11-7:T 2-6:T 1E-3:T 94-2:T 7BB-36:T 4-31:T 8:T E:T 16-14:T
  550-8F:T A0-6:T 177:T 3D-3:T 1FC-3:T FE-1:T F3:T 2:T 7-1:T 5:T 1DA-6:T 4B-21:D -7:T"]

/-- How a character joins its neighbours. -/
def joining (c : Char) : Joining := (joiningTable.note? c).getD .neither

end NodeCanvas
