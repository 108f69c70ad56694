import NodeCanvas.Text.CodePoints
/-!
# Combining marks

Marks combine with the character before them. Marks of different combining classes do not touch each
other, so that their order has no meaning; the class of any other character is zero. The tables
cover the characters that domain names may hold.
-/

namespace NodeCanvas

/-- The characters of the general category `Mark`. -/
def markTable : CodeTable Unit := .ofTexts (fun _ => ()) ["
  300-6F 113-6 107-2C 1 1-1 1-1 1 48-A 30-14 10 65-6 2-5 2-1 1-3 23 1E-1A 5B-A 3A-8 9 18-3 1-8 1-2
  1-4 2B-2 3B-8 2A-39 36-2 1-11 1-6 A-1 1D-2 38 1-F 9 A-1 1A-5 38-15 1E-1 3 B-2 38 1-F 14-1 16-9 38
  1-19 A-1 1E 3B-F 9 28-4 37 1-18 B-1 1D-2 38 1-18 B-1 F-10 37-1 1-F 9 A-1 1D-2 46-15 12-1 3D 2-6
  C-7 62 2-8 B-6 49-1 1B 1 1 4-1 31-13 1-1 5-2F 9 64-13 17-3 4-2 1-2 2-6 3-3 D-B 1 A-3 2BF-2 3B2-3
  1C-2 1D-1 1E-1 42-1D 9 A7-1 22 76-1B DB-4 39-2A 30-54 2F-10 26-8 C-2 1E-C 38-D 30-13 98-2 1-14 4 6
  2-2 C6-3F 2D0-20 BFE-2 8D 60-1F 22A-5 69-1 75D4-3 1-9 20-1 50-1 110 3 4 17-4 4 53-1 32-11 1A-11 D
  26-7 19-C 2C-3 2F-D 24 43-D C 8-1 2D-2 32 1-2 2-1 5-1 1 29-4 5-1 EC-7 1-1 4F30 301-F 3CD E2 95-4
  686-E 28-7 A5-1 23D-3 41-4 13D-1 4D-5 46-A 31-3 7A-2 35-E 29 2-1 A-3 2D-A 7 3D-2 24-D 10-1 2C C-2
  30-D 8-3 1-1 5C-B 6 2 9D-B 15-3 37-1 1-F 9 A-12 43-18 1 E-1 52-11 17 51-13 EB-11 1B-1 52-10 6A-C
  65-E 100-E F5-E 1 1-1 8D-F 3 1C-9 28-6 1-3 8 9-A 2E-F C6-7 C7-10 52-24 7A-14 1 42-D 15B-3 9-1 1
  30-E 17 14E5 6-E 2CC8-11 9C0-4 3B-6 418 1-41 51-D 4CAB-1 1261-46 21E-4 3-15 2-6 1E-3 94-2 7BB-36
  4-31 8 E 16-14 550-8F A0-6 177 3D-3 1FC-3 FE-1 F3 2 7-1 5 1DA-6 6D-6"]

/-- Whether a character is a combining mark. -/
def isMark (c : Char) : Bool := markTable.contains c

/-- The canonical combining classes other than zero, in hexadecimal. -/
def combiningTable : CodeTable Nat := .ofTexts (fun note => hexNumber note.tail) ["
  300-14:E6 :E8 -3:DC :E8 :D8 -4:DC -1:CA -3:DC -1:CA -A:DC -4:1 -3:DC -9:E6 -2:DC -2:E6 -1:DC
  1-2:E6 -3:DC :E6 :E8 -1:DC :E6 :E9 -1:EA :E9 -1:EA :E9 -C:E6 113-4:E6 109:DC -3:E6 :DC -2:E6 :DE
  :DC -5:E6 -5:DC -1:E6 :DC -1:E6 :DE :E4 :E6 :A :B :C :D :E :F :10 :11 :12 -1:13 :14 :15 :16 1:17
  1:18 :19 1:E6 :DC 1:12 48-7:E6 :1E :1F :20 30:1B :1C :1D :1E :1F :20 :21 :22 -1:E6 -1:DC -4:E6 :DC
  -1:E6 :DC 10:23 65-6:E6 2-3:E6 :DC :E6 2-1:E6 1:DC -1:E6 :DC 23:24 1E:E6 :DC -1:E6 :DC -1:E6 -2:DC
  :E6 -1:DC :E6 :DC -2:E6 :DC :E6 :DC :E6 :DC :E6 :DC -1:E6 A0-6:E6 :DC :E6 9:DC 18-3:E6 1-8:E6
  1-2:E6 1-4:E6 2B-2:DC 3B-1:E6 -2:DC -3:E6 2A-4:E6 -4:DC -D:E6 1:DC -1:E6 :DC -1:E6 :DC -2:E6 -2:DC
  :1B :1C :1D -2:E6 :DC -1:E6 -1:DC -4:E6 3C:7 10:9 3:E6 :DC -1:E6 67:7 10:9 30:E6 3D:7 10:9 6E:7
  10:9 6E:7 10:9 7F:9 6E:7 10:9 7:54 :5B 65:7 10:9 6D-1:9 10:9 7C:9 6D-1:67 :9 D-3:6B 6C-1:76 :9
  D-3:7A 4C-1:DC 1B:DC 1:DC 1:D8 37:81 :82 1:84 5-3:82 2:82 1-1:E6 :9 1-1:E6 3E:DC 70:7 1-1:9 52:DC
  2CF-2:E6 3B4-1:9 1E:9 9D:9 A:E6 CB:E4 8F:DE :E6 :DC DB:E6 :DC 47:9 14-7:E6 2:DC 30-4:E6 -5:DC
  -1:E6 :DC 1-1:DC -1:E6 -1:DC -4:E6 :DC -11:E6 :DC 2-5:E6 :DC -3:E6 :EA 48:7 F:9 26:E6 :DC -6:E6
  36-1:9 3A:7 B-1:9 43:7 98-2:E6 1:1 -4:DC -1:E6 -3:DC :E6 1-6:1 4:DC 6:E6 3-1:E6 C6-1:E6 :DC -6:E6
  :DC -1:E6 :EA :D6 :DC :CA -24:E6 :E8 -1:E4 :DC :DA :E6 :E9 :DC :E6 :DC 2D0-1:E6 -1:1 -3:E6 -2:1
  -1:E6 4:E6 3-1:1 :E6 :DC :E6 -1:1 -3:DC :E6 BFE-2:E6 8D:9 60-1F:E6 22A:DA :E4 :E8 :DE -1:E0 69-1:8
  75D4:E6 4-9:E6 20-1:E6 50-1:E6 114:9 25:9 97:9 1B-11:E6 39-2:DC 25:9 5F:7 C:9 EF:E6 1-1:E6 :DC
  2-1:E6 5-1:E6 1:E6 34:9 F6:9 4F30:1A 301-6:E6 -6:DC -1:E6 3CD:DC E2:DC 95-4:E6 692:DC 1:E6 28:E6
  :1 :DC 4:9 A5:E6 :DC 23D-3:E6 41-4:E6 13D-1:E6 4D-1:DC 1-2:DC 46-1:DC -2:E6 :DC :E6 -3:DC 31:E6
  :DC :E6 :DC C0:9 29:9 E:9 39:9 :7 45-2:E6 30-1:9 3E:7 4C:9 9:7 6A:9 :7 B2:7 :9 50-1:7 10:9 18-E:E6
  59-2:9 71:9 3:7 17:E6 63:9 :7 FB:9 :7 7E:9 76:9 :7 73:9 10D:9 :7 102-1:9 4:7 9C:9 53:9 12:9 51:9
  1A5:9 102:7 1-1:9 51:9 1A9-1:9 41EC:9 9C0-4:1 3B-6:E6 4B9-1:6 4CAC:1 14C6-1:D8 -2:1 3:E2 -4:D8
  8-7:DC 2-4:E6 -1:DC 1E-3:E6 94-2:E6 DBB-8F:E6 A0-6:E6 177:E6 3D-3:E6 1FC-1:E8 :DC :E6 FE:E6 :DC
  F3:E6 2:E6 7-1:E6 5:E6 1DA-6:DC 6D-5:E6 :7"]

/-- The canonical combining class of a character. -/
def combiningClass (c : Char) : Nat := (combiningTable.note? c).getD 0

/-- Whether a character takes the vowel from the letter before it, as a virama does. -/
def isVirama (c : Char) : Bool := combiningClass c == 9

end NodeCanvas
