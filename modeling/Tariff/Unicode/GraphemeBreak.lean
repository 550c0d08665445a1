/-!
# Grapheme breaks

The classes of characters that decide where one grapheme ends and the next begins, in
Unicode 16, each with its names and the lengths of its runs, outside and inside by
turns, in hexadecimal.
-/

namespace Tariff
namespace Unicode

/-- The characters of each class. -/
def graphemeBreaks : List (List String × String) :=
  [(["cr"],
    "D 1"),
   (["cn", "control"],
    "0 A 1 2 1 12 5F 21 D 1 56E 1 11F1 1 7FC 1 2 2 18 7 31 10 DE8F 1 F0 C 3434 10 8860 4 14CF 8
     C2E85 20 60 80 F0 E10"),
   (["ex", "extend"],
    "300 70 113 7 107 2D 1 1 1 2 1 2 1 1 48 B 30 15 10 1 65 7 2 6 2 2 1 4 23 1 1E 1B 5B B 3A 9 9
     1 18 4 1 9 1 3 1 5 2B 3 3B 9 2A 18 1 20 37 1 1 1 4 8 4 1 3 7 A 2 1D 1 3A 1 1 1 2 4 8 1 9 1 A
     2 1A 1 2 2 39 1 4 2 4 2 2 3 3 1 1E 2 3 1 B 2 39 1 4 5 1 2 4 1 14 2 16 6 1 1 3A 1 1 2 1 4 8 1
     7 3 A 2 1E 1 3B 1 1 1 C 1 9 1 28 1 3 1 37 1 1 3 5 3 1 4 7 2 B 2 1D 1 3A 1 2 2 1 1 3 3 1 4 7
     2 B 2 1C 2 39 2 1 1 2 4 8 1 9 1 A 2 1D 1 48 1 4 1 2 3 1 1 8 1 51 1 2 7 C 8 62 1 2 9 B 7 49 2
     1B 1 1 1 1 1 37 E 1 5 1 2 5 B 1 24 9 1 66 4 1 6 1 2 2 2 19 2 4 3 10 4 D 1 2 2 6 1 F 1 2BF 3
     3B2 4 1C 3 1D 2 1E 2 40 2 1 7 8 1 2 B 9 1 2D 3 1 1 75 2 22 1 76 3 4 2 9 1 6 3 DB 2 2 1 3A 1
     1 7 1 1 1 1 2 8 6 A 2 1 30 1F 31 4 30 A 4 3 26 9 C 2 20 4 2 6 38 1 1 2 3 1 1 5 38 8 2 2 98 3
     1 D 1 7 4 1 6 1 3 2 C6 40 20C 1 C3 21 BFE 3 8D 1 60 20 22A 6 69 2 75D4 4 1 A 20 2 50 2 110 1
     3 1 4 1 19 2 5 1 97 2 1A 12 D 1 26 8 19 B 1 1 2C 3 30 1 2 4 2 2 2 1 24 1 43 6 2 2 2 2 C 1 8
     1 2F 1 33 1 1 3 2 2 5 2 1 1 2A 2 8 1 EE 1 2 1 4 1 4F30 1 2E1 10 10 10 16E 2 25D 1 E2 1 95 5
     686 3 1 2 5 4 28 3 4 1 A5 2 23D 4 41 5 13D 2 4F 4 46 B 31 4 7B 1 36 F 29 1 2 2 A 3 31 4 2 2
     7 1 3D 3 24 5 1 8 3E 1 C 2 34 9 1 1 8 4 2 1 5F 3 2 4 6 1 2 1 9D 1 3 8 15 2 39 2 1 1 1 1 C 1
     9 1 E 7 3 5 43 1 2 6 1 1 2 1 1 3 4 3 1 1 E 2 55 8 2 3 1 1 17 1 51 1 2 6 1 1 2 1 1 2 1 2 EB 1
     2 4 6 2 1 2 1B 2 55 8 2 1 1 2 6A 1 1 1 2 8 65 1 1 1 2 4 1 5 103 9 1 2 F5 1 A 4 4 1 90 4 2 2
     4 1 20 A 28 6 2 4 8 1 9 6 2 3 2E D 1 2 196 7 1 6 1 1 52 16 2 7 1 2 1 2 7A 6 3 1 1 2 1 7 1 1
     48 2 3 1 1 1 15B 2 B 2 34 5 5 3 17 1 14E5 1 6 F 2CC8 C 3 3 9C0 5 3B 7 418 1 3F 4 51 1 B 2
     4CAB 2 1261 2E 2 17 21E 5 3 6 8 8 2 7 1E 4 94 3 7BB 37 4 32 8 1 E 1 16 5 1 F 550 7 1 11 2 7
     1 2 1 5 64 1 A0 7 177 1 3D 4 1FC 4 FE 2 2E0 7 6D 7 AB0 5 C0C20 60 80 F0"),
   (["l"],
    "1100 60 9800 1D"),
   (["lf"],
    "A 1"),
   (["lv"],
    "AC00 1 1B 1 1B 1 1B 1 1B 1 1B 1 1B 1 1B 1 1B 1 1B 1 1B 1 1B 1 1B 1 1B 1 1B 1 1B 1 1B 1 1B 1
     1B 1 1B 1 1B 1 1B 1 1B 1 1B 1 1B 1 1B 1 1B 1 1B 1 1B 1 1B 1 1B 1 1B 1 1B 1 1B 1 1B 1 1B 1 1B
     1 1B 1 1B 1 1B 1 1B 1 1B 1 1B 1 1B 1 1B 1 1B 1 1B 1 1B 1 1B 1 1B 1 1B 1 1B 1 1B 1 1B 1 1B 1
     1B 1 1B 1 1B 1 1B 1 1B 1 1B 1 1B 1 1B 1 1B 1 1B 1 1B 1 1B 1 1B 1 1B 1 1B 1 1B 1 1B 1 1B 1 1B
     1 1B 1 1B 1 1B 1 1B 1 1B 1 1B 1 1B 1 1B 1 1B 1 1B 1 1B 1 1B 1 1B 1 1B 1 1B 1 1B 1 1B 1 1B 1
     1B 1 1B 1 1B 1 1B 1 1B 1 1B 1 1B 1 1B 1 1B 1 1B 1 1B 1 1B 1 1B 1 1B 1 1B 1 1B 1 1B 1 1B 1 1B
     1 1B 1 1B 1 1B 1 1B 1 1B 1 1B 1 1B 1 1B 1 1B 1 1B 1 1B 1 1B 1 1B 1 1B 1 1B 1 1B 1 1B 1 1B 1
     1B 1 1B 1 1B 1 1B 1 1B 1 1B 1 1B 1 1B 1 1B 1 1B 1 1B 1 1B 1 1B 1 1B 1 1B 1 1B 1 1B 1 1B 1 1B
     1 1B 1 1B 1 1B 1 1B 1 1B 1 1B 1 1B 1 1B 1 1B 1 1B 1 1B 1 1B 1 1B 1 1B 1 1B 1 1B 1 1B 1 1B 1
     1B 1 1B 1 1B 1 1B 1 1B 1 1B 1 1B 1 1B 1 1B 1 1B 1 1B 1 1B 1 1B 1 1B 1 1B 1 1B 1 1B 1 1B 1 1B
     1 1B 1 1B 1 1B 1 1B 1 1B 1 1B 1 1B 1 1B 1 1B 1 1B 1 1B 1 1B 1 1B 1 1B 1 1B 1 1B 1 1B 1 1B 1
     1B 1 1B 1 1B 1 1B 1 1B 1 1B 1 1B 1 1B 1 1B 1 1B 1 1B 1 1B 1 1B 1 1B 1 1B 1 1B 1 1B 1 1B 1 1B
     1 1B 1 1B 1 1B 1 1B 1 1B 1 1B 1 1B 1 1B 1 1B 1 1B 1 1B 1 1B 1 1B 1 1B 1 1B 1 1B 1 1B 1 1B 1
     1B 1 1B 1 1B 1 1B 1 1B 1 1B 1 1B 1 1B 1 1B 1 1B 1 1B 1 1B 1 1B 1 1B 1 1B 1 1B 1 1B 1 1B 1 1B
     1 1B 1 1B 1 1B 1 1B 1 1B 1 1B 1 1B 1 1B 1 1B 1 1B 1 1B 1 1B 1 1B 1 1B 1 1B 1 1B 1 1B 1 1B 1
     1B 1 1B 1 1B 1 1B 1 1B 1 1B 1 1B 1 1B 1 1B 1 1B 1 1B 1 1B 1 1B 1 1B 1 1B 1 1B 1 1B 1 1B 1 1B
     1 1B 1 1B 1 1B 1 1B 1 1B 1 1B 1 1B 1 1B 1 1B 1 1B 1 1B 1 1B 1 1B 1 1B 1 1B 1 1B 1 1B 1 1B 1
     1B 1 1B 1 1B 1 1B 1 1B 1 1B 1 1B 1 1B 1 1B 1 1B 1 1B 1 1B 1 1B 1 1B 1 1B 1 1B 1 1B 1 1B 1 1B
     1 1B 1 1B 1 1B 1 1B 1 1B 1 1B 1 1B 1 1B 1 1B 1 1B 1 1B 1 1B 1 1B 1 1B 1 1B 1 1B 1 1B 1 1B 1
     1B 1 1B 1 1B 1 1B 1 1B 1 1B 1 1B 1 1B 1 1B 1 1B 1 1B 1 1B 1 1B 1 1B 1 1B 1 1B 1 1B 1 1B 1 1B
     1 1B 1 1B 1 1B 1 1B 1 1B 1 1B 1 1B 1 1B 1 1B 1 1B 1 1B 1 1B 1 1B 1 1B 1 1B 1 1B 1 1B 1 1B 1
     1B 1 1B 1 1B 1 1B 1 1B 1 1B 1 1B 1 1B 1 1B 1 1B 1 1B 1"),
   (["lvt"],
    "AC01 1B 1 1B 1 1B 1 1B 1 1B 1 1B 1 1B 1 1B 1 1B 1 1B 1 1B 1 1B 1 1B 1 1B 1 1B 1 1B 1 1B 1 1B
     1 1B 1 1B 1 1B 1 1B 1 1B 1 1B 1 1B 1 1B 1 1B 1 1B 1 1B 1 1B 1 1B 1 1B 1 1B 1 1B 1 1B 1 1B 1
     1B 1 1B 1 1B 1 1B 1 1B 1 1B 1 1B 1 1B 1 1B 1 1B 1 1B 1 1B 1 1B 1 1B 1 1B 1 1B 1 1B 1 1B 1 1B
     1 1B 1 1B 1 1B 1 1B 1 1B 1 1B 1 1B 1 1B 1 1B 1 1B 1 1B 1 1B 1 1B 1 1B 1 1B 1 1B 1 1B 1 1B 1
     1B 1 1B 1 1B 1 1B 1 1B 1 1B 1 1B 1 1B 1 1B 1 1B 1 1B 1 1B 1 1B 1 1B 1 1B 1 1B 1 1B 1 1B 1 1B
     1 1B 1 1B 1 1B 1 1B 1 1B 1 1B 1 1B 1 1B 1 1B 1 1B 1 1B 1 1B 1 1B 1 1B 1 1B 1 1B 1 1B 1 1B 1
     1B 1 1B 1 1B 1 1B 1 1B 1 1B 1 1B 1 1B 1 1B 1 1B 1 1B 1 1B 1 1B 1 1B 1 1B 1 1B 1 1B 1 1B 1 1B
     1 1B 1 1B 1 1B 1 1B 1 1B 1 1B 1 1B 1 1B 1 1B 1 1B 1 1B 1 1B 1 1B 1 1B 1 1B 1 1B 1 1B 1 1B 1
     1B 1 1B 1 1B 1 1B 1 1B 1 1B 1 1B 1 1B 1 1B 1 1B 1 1B 1 1B 1 1B 1 1B 1 1B 1 1B 1 1B 1 1B 1 1B
     1 1B 1 1B 1 1B 1 1B 1 1B 1 1B 1 1B 1 1B 1 1B 1 1B 1 1B 1 1B 1 1B 1 1B 1 1B 1 1B 1 1B 1 1B 1
     1B 1 1B 1 1B 1 1B 1 1B 1 1B 1 1B 1 1B 1 1B 1 1B 1 1B 1 1B 1 1B 1 1B 1 1B 1 1B 1 1B 1 1B 1 1B
     1 1B 1 1B 1 1B 1 1B 1 1B 1 1B 1 1B 1 1B 1 1B 1 1B 1 1B 1 1B 1 1B 1 1B 1 1B 1 1B 1 1B 1 1B 1
     1B 1 1B 1 1B 1 1B 1 1B 1 1B 1 1B 1 1B 1 1B 1 1B 1 1B 1 1B 1 1B 1 1B 1 1B 1 1B 1 1B 1 1B 1 1B
     1 1B 1 1B 1 1B 1 1B 1 1B 1 1B 1 1B 1 1B 1 1B 1 1B 1 1B 1 1B 1 1B 1 1B 1 1B 1 1B 1 1B 1 1B 1
     1B 1 1B 1 1B 1 1B 1 1B 1 1B 1 1B 1 1B 1 1B 1 1B 1 1B 1 1B 1 1B 1 1B 1 1B 1 1B 1 1B 1 1B 1 1B
     1 1B 1 1B 1 1B 1 1B 1 1B 1 1B 1 1B 1 1B 1 1B 1 1B 1 1B 1 1B 1 1B 1 1B 1 1B 1 1B 1 1B 1 1B 1
     1B 1 1B 1 1B 1 1B 1 1B 1 1B 1 1B 1 1B 1 1B 1 1B 1 1B 1 1B 1 1B 1 1B 1 1B 1 1B 1 1B 1 1B 1 1B
     1 1B 1 1B 1 1B 1 1B 1 1B 1 1B 1 1B 1 1B 1 1B 1 1B 1 1B 1 1B 1 1B 1 1B 1 1B 1 1B 1 1B 1 1B 1
     1B 1 1B 1 1B 1 1B 1 1B 1 1B 1 1B 1 1B 1 1B 1 1B 1 1B 1 1B 1 1B 1 1B 1 1B 1 1B 1 1B 1 1B 1 1B
     1 1B 1 1B 1 1B 1 1B 1 1B 1 1B 1 1B 1 1B 1 1B 1 1B 1 1B 1 1B 1 1B 1 1B 1 1B 1 1B 1 1B 1 1B 1
     1B 1 1B 1 1B 1 1B 1 1B 1 1B 1 1B 1 1B 1 1B 1 1B 1 1B 1 1B 1 1B 1 1B 1 1B 1 1B 1 1B 1 1B 1 1B
     1 1B 1 1B 1 1B 1 1B 1 1B 1 1B 1 1B 1 1B 1 1B 1 1B 1 1B"),
   (["pp", "prepend"],
    "600 6 D7 1 31 1 180 2 50 1 46B 1 1036E 1 F 1 F4 2 20D 1 56D 1 1 1 F8 1 49 6 2BC 1 1BB 1"),
   (["ri", "regionalindicator"],
    "1F1E6 1A"),
   (["sm", "spacingmark"],
    "903 1 37 1 2 3 8 4 1 2 32 2 3B 2 6 2 2 2 36 1 3A 3 42 1 3A 3 8 1 1 2 35 2 3C 1 6 2 2 2 72 1
     1 2 3 3 1 3 34 3 3D 4 3D 2 3A 1 2 1 1 2 2E 1 E 2 3B 2 5 3 1 3 35 2 4C 2 6 7 13 2 3F 1 7F 1
     8A 2 3F 1 B1 1 9 2 19 2 2C 1 731 1 7 8 1 2 15A 4 2 3 4 2 1 6 E0 2 3A 1 1 1 15 6 91 1 39 4 40
     1 1E 1 4 2 3F 1 2 3 1 1 35 8 8 2 AB 1 15 1 8B2B 2 2 1 58 2 32 10 8E 1 30 1 30 2 4 2 2 2 6F 2
     2 2 18 1 9D 1 2 2 5 1 ED 2 1 2 1 2 1 1 6413 1 1 1 7F 1 2D 3 4 2 73 1 18 2 3B 1 30 3 9 1 E 1
     5D 3 3 2 AC 3 1F 2 3B 1 1 4 2 2 2 2 15 2 55 2 F 1 1 2 67 3 8 2 3 1 6B 2 6 1 1 2 1 1 2 1 EE 2
     6 4 2 1 71 3 8 2 1 1 6D 1 1 2 6E 1 7 1 105 3 9 1 F8 5 1 2 7 1 1 1 8E 3 8 4 4 1 54 1 1D 2 3E
     1 197 1 E 1 6A 1 7 1 2 1 D5 5 4 2 1 1 15E 2 C 1 30 2 8 2 41EA 3 E24 37"),
   (["t"],
    "11A8 58 C5CB 31"),
   (["v"],
    "1160 48 C608 17 959C 1 3 4"),
   (["zwj"],
    "200D 1")]

end Unicode
end Tariff
