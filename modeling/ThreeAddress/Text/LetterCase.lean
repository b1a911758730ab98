import ThreeAddress.Text.Ranges

/-!
Characters that are the same but for their case, as version 16 of the standard has them. The
table lists for each distance the characters that have a match so far behind them, so that all
matches of a character are found in two steps, one to the first of them and one from it.
-/

namespace ThreeAddress.Text

def caseTable : List (Nat × List String) := [
   (32, [
     "41-5a c0-d6 d8-de 391-398 39a-39b 39d-3a1 3a3-3ab 410-42f ff21-ff3a 10d50-10d65",
     "118a0-118bf 16e40-16e5f"]),
   (8415, ["4b"]),
   (300, ["53"]),
   (743, ["b5"]),
   (775, ["b5"]),
   (8294, ["c5"]),
   (7615, ["df"]),
   (121, ["ff"]),
   (1, [
     "100-12e/2 132-136/2 139-147/2 14a-176/2 179-17d/2 182 184 187 18b 191 198 1a0-1a4/2 1a7",
     "1ac 1af 1b3 1b5 1b8 1bc 1c4-1cd/3 1cf-1db/2 1de-1ee/2 1f1 1f4 1f8-21e/2 222-232/2 23b 241",
     "246-24e/2 370 372 376 3d8-3ee/2 3f7 3fa 460-480/2 48a-4be/2 4c1-4cd/2 4d0-52e/2 1c89",
     "1e00-1e94/2 1ea0-1efe/2 2183 2c60 2c67-2c6b/2 2c72 2c75 2c80-2ce2/2 2ceb 2ced 2cf2",
     "a640-a648/2 a64c-a66c/2 a680-a69a/2 a722-a72e/2 a732-a76e/2 a779 a77b a77e-a786/2 a78b",
     "a790 a792 a796-a7a8/2 a7b4-a7c2/2 a7c7 a7c9 a7cc a7d0 a7d6-a7da/2 a7f5 fb05"]),
   (195, ["180"]),
   (210, ["181"]),
   (206, ["186"]),
   (205, ["189-18a 193"]),
   (79, ["18e"]),
   (202, ["18f"]),
   (203, ["190"]),
   (207, ["194"]),
   (97, ["195"]),
   (211, ["196 19c"]),
   (209, ["197"]),
   (163, ["19a"]),
   (42561, ["19b"]),
   (213, ["19d"]),
   (130, ["19e 37b-37d"]),
   (214, ["19f"]),
   (218, ["1a6 1a9 1ae"]),
   (217, ["1b1-1b2"]),
   (219, ["1b7"]),
   (56, ["1bf"]),
   (2, ["1c4-1ca/3 1f1"]),
   (10795, ["23a"]),
   (10792, ["23e"]),
   (10815, ["23f-240"]),
   (69, ["244"]),
   (71, ["245"]),
   (10783, ["250"]),
   (10780, ["251"]),
   (10782, ["252"]),
   (42319, ["25c"]),
   (42315, ["261"]),
   (42343, ["264"]),
   (42280, ["265"]),
   (42308, ["266 26a"]),
   (10743, ["26b"]),
   (42305, ["26c"]),
   (10749, ["271"]),
   (10727, ["27d"]),
   (42307, ["282"]),
   (42282, ["287"]),
   (42261, ["29d"]),
   (42258, ["29e"]),
   (84, ["345"]),
   (116, ["345 37f"]),
   (7289, ["345"]),
   (38, ["386"]),
   (37, ["388-38a"]),
   (64, ["38c 10c80-10cb2"]),
   (63, ["38e-38f"]),
   (7235, ["390"]),
   (62, ["392"]),
   (96, ["395"]),
   (57, ["398"]),
   (92, ["398"]),
   (86, ["39a 1f72-1f75"]),
   (54, ["3a0"]),
   (80, ["3a1 400-40f"]),
   (31, ["3a3"]),
   (47, ["3a6"]),
   (7549, ["3a9"]),
   (7219, ["3b0"]),
   (8, [
     "3cf 13f0-13f5 1f00-1f07 1f10-1f15 1f20-1f27 1f30-1f37 1f40-1f45 1f51-1f57/2 1f60-1f67",
     "1f80-1f87 1f90-1f97 1fa0-1fa7 1fb0-1fb1 1fd0-1fd1 1fe0-1fe1"]),
   (7, ["3f2 1fe5"]),
   (6254, ["412"]),
   (6253, ["414"]),
   (6244, ["41e"]),
   (6242, ["421-422"]),
   (6243, ["422"]),
   (6236, ["42a"]),
   (6181, ["462"]),
   (15, ["4c0"]),
   (48, ["531-556 2c00-2c2f a794"]),
   (7264, ["10a0-10c5 10c7 10cd"]),
   (3008, ["10d0-10fa 10fd-10ff"]),
   (38864, ["13a0-13ef"]),
   (35266, ["1c88"]),
   (35267, ["1c88"]),
   (35332, ["1d79"]),
   (3814, ["1d7d"]),
   (35384, ["1d8e"]),
   (59, ["1e60"]),
   (74, ["1f70-1f71"]),
   (100, ["1f76-1f77"]),
   (128, ["1f78-1f79"]),
   (112, ["1f7a-1f7b"]),
   (126, ["1f7c-1f7d"]),
   (9, ["1fb3 1fc3 1ff3"]),
   (28, ["2132"]),
   (16, ["2160-216f"]),
   (26, ["24b6-24cf"]),
   (928, ["a7b3"]),
   (40, ["10400-10427 104b0-104d3"]),
   (39, ["10570-1057a 1057c-1058a 1058c-10592 10594-10595"]),
   (34, ["1e900-1e921"])]

namespace Ranges

def moveUp (distance : Nat) (ranges : Ranges) : Ranges :=
  ranges.map fun range => (range.1 + distance, range.2 + distance)

def moveDown (distance : Nat) (ranges : Ranges) : Ranges :=
  ranges.map fun range => (range.1 - distance, range.2 - distance)

/-- Matches at one distance, where `lower` are the first of each two. -/
def matchesAt (ranges : Ranges) (distance : Nat) (lower : Ranges) : Ranges :=
  moveUp distance (ranges.intersection lower) ++
    moveDown distance (ranges.intersection (lower.moveUp distance))

def addMatches (table : List (Nat × Ranges)) (ranges : Ranges) : Ranges :=
  normal (ranges ++ table.flatMap fun row => ranges.matchesAt row.1 row.2)

def ignoringCase (ranges : Ranges) : Ranges :=
  let table := caseTable.map fun row => (row.1, ofText row.2)
  addMatches table (addMatches table ranges.normal)

def asciiUpper : Ranges := [('A'.toNat, 'Z'.toNat)]

/-- As `ignoringCase`, but only the letters of ASCII have matches, and only each other. -/
def ignoringAsciiCase (ranges : Ranges) : Ranges :=
  addMatches [('a'.toNat - 'A'.toNat, asciiUpper)] ranges.normal

end Ranges

end ThreeAddress.Text
