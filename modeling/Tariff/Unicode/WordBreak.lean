/-!
# Word breaks

The classes of characters that decide where words end, in Unicode 16, each with its
names and the lengths of its runs, outside and inside by turns, in hexadecimal.
-/

namespace Tariff
namespace Unicode

/-- The characters of each class. -/
def wordBreaks : List (List String × String) :=
  [(["le", "aletter"],
    "41 1A 6 1A 2F 1 A 1 2 1 1 1 5 17 1 1F 1 1E0 6 22 70 5 1 2 2 4 1 1 6 1 1 3 1 1 1 14 1 53 1 8B
     8 A6 1 26 2 4 1 1 1 29 1 1 68 1 2C 2B 23 2 1 63 1 1 F 2 7 2 A 3 2 1 F 2 1 1E 1D 59 B 1 18 21
     9 2 4 1 5 16 4 1 9 1 3 1 17 19 7 B 5 18 1 6 11 2A 3A 36 3 1 12 1 7 A F 10 4 8 2 2 2 16 1 7 1
     1 3 4 3 1 10 1 D 2 1 3 E 2 A 1 8 6 4 2 2 16 1 7 1 2 1 2 1 2 1F 4 1 1 13 3 10 9 1 3 1 16 1 7
     1 2 1 5 3 1 12 1 F 2 17 1 B 8 2 2 2 16 1 7 1 2 1 5 3 1 1E 2 1 3 F 1 11 1 1 6 3 3 1 4 3 2 1 1
     1 2 3 2 3 3 3 C 16 1 34 8 1 3 1 17 1 10 3 1 1A 3 2 1 2 2 1E 1 4 8 1 3 1 17 1 A 1 5 3 1 1F 2
     1 2 F 2 11 9 1 3 1 29 2 1 10 1 5 3 8 3 18 6 5 12 3 18 1 9 1 1 2 7 139 1 3F 8 1 24 1B 5 113
     26 1 1 5 1 2 2B 1 14D 1 4 2 7 1 1 1 4 2 29 1 4 2 21 1 4 2 7 1 1 1 4 2 F 1 39 1 4 2 43 25 10
     10 56 2 6 3 26C 2 11 1 1A 5 4B 3 B 7 12 D 13 E 12 E D 1 3 AF 59 7 5 2 22 1 1 5 46 A 1F E1 17
     EE 2F 11 8 36 1E D 2 A 2C 1A 24 29 3 A 24 2 B 5 2B 2 3 29 4 1 6 1 2 3 1 5 C0 40 116 2 6 2 26
     2 6 2 8 1 1 1 1 1 1 1 1F 2 35 1 7 1 1 3 3 1 7 3 4 2 6 4 D 5 3 1 7 74 1 D 1 10 D 65 1 4 1 2 A
     1 1 3 5 6 1 1 1 1 1 1 4 1 B 2 4 5 5 4 1 11 29 32D 34 716 E5 6 4 3 2 C 26 1 1 5 1 2 38 7 1 10
     17 9 7 1 7 1 7 1 7 1 7 1 7 1 7 1 7 50 1 1D5 1 35 2 C8 2B 1 5E 11 20 6E40 48D 43 2E 2 10D 3
     10 A 2 14 2F 10 1F 2 50 18 C6 2 2 1 1 1 8 15 10 1 3 1 4 1 17 1D 34 E 32 3E 6 3 1 1 2 B 1C A
     17 19 1D 7 2F 1C 1 30 29 17 3 1 8 94 B 7 3 C 6 2 6 2 6 9 7 1 7 1 3A 6 73 1D 2BA4 C 17 4 31
     2304 7 C 5 38 62 21 16B 12 40 2 36 28 C 74 5 1 87 24 1A 6 1A 45 1F 3 6 2 6 2 6 2 3 23 C 1 1A
     1 13 1 2 1 F 2 E 22 7B 45 35 10B 1D 3 31 2F 20 D 1E 5 26 A 1E 2 24 4 8 1 5 2A 9E 12 24 4 24
     4 28 8 34 C B 1 F 1 7 1 2 1 B 1 F 1 7 1 2 3 34 C 137 9 16 A 8 18 6 1 2A 1 9 45 6 2 1 1 2C 1
     2 3 1 2 17 A 17 9 1F 41 13 1 2 A 16 A 1A 46 38 6 2 40 1 F 4 1 3 1 1D 2A 1D 3 1D 23 8 1 1C 1B
     36 A 16 A 13 D 12 6E 49 37 33 D 33 D 24 26 1C 9 17 FA 2A 6 2 10 3 3B 1D A 1 8 16 2A 12 2E 15
     1B 17 C 35 39 2 2 1 D 2D 20 19 1A 24 1D 1 2 1 8 23 3 1 C 30 E 4 15 1 1 1 23 12 1 19 13 2 3F
     7 1 1 1 4 1 F 1 A 7 2F 26 8 2 2 2 16 1 7 1 2 1 5 3 1 12 1 C 5 1E A 1 1 2 1 1 26 1 1 19 1 1 1
     2C 35 12 4 14 3 1E 30 14 2 1 1 B8 2F 29 4 24 30 14 1 3B 2B D 1 147 2C 74 40 1F 8 2 1 2 8 1 2
     1 18 F 1 1 1 5E 8 2 27 10 1 1 1 1C 1 A 28 7 1 15 1 B 2E 13 1 12 49 C7 21 1F 9 1 25 11 1 31
     1E 70 7 1 2 1 26 15 1 19 6 1 2 1 20 E 1 147 13 F 1 1 D 1 22 7C 1 4F 39A 66 6F 11 C4 A4C 61 F
     430 11 6 19 F9B 5 247 1AB9 1E 6E2 239 7 1F 11 4F 11 1E 12 30 10 4 1F 15 5 13 1B0 2D D3 40 80
     4B 5 1 42 D 40 2 1 1 4C1C 6B 5 D 3 9 7 A 1766 55 1 47 1 2 2 1 2 2 2 4 1 C 1 1 1 7 1 41 1 4 2
     8 1 7 1 1C 1 4 1 5 1 1 3 7 1 154 2 19 1 19 1 1F 1 19 1 1F 1 19 1 1F 1 19 1 1F 1 19 1 8 734
     1F 6 6 105 3E 92 2D A 7 10 1 141 1E 12 2C 1E4 1C E4 1E 2 1 1EF 7 1 4 1 2 1 F 1 C5 3B 44 7 1
     4B4 4 1 1B 1 2 1 1 2 1 1 A 1 4 1 1 1 1 6 1 4 1 1 1 1 1 1 3 1 2 1 1 2 1 1 1 1 1 1 1 1 1 1 2 1
     1 2 4 1 7 1 4 1 4 1 1 1 A 1 11 5 3 1 5 1 11 274 1A 6 1A 6 1A"),
   (["cr"],
    "D 1"),
   (["dq", "doublequote"],
    "22 1"),
   (["extend"],
    "300 70 113 7 107 2D 1 1 1 2 1 2 1 1 48 B 30 15 10 1 65 7 2 6 2 2 1 4 23 1 1E 1B 5B B 3A 9 9
     1 18 4 1 9 1 3 1 5 2B 3 3B 9 2A 18 1 21 36 3 1 12 1 7 A 2 1D 3 38 1 1 7 2 2 2 3 9 1 A 2 1A 1
     2 3 38 1 1 5 4 2 2 3 3 1 1E 2 3 1 B 3 38 1 1 8 1 3 1 3 14 2 16 6 1 3 38 1 1 7 2 2 2 3 7 3 A
     2 1E 1 3B 5 3 3 1 4 9 1 28 5 37 1 1 7 1 3 1 4 7 2 B 2 1D 3 38 1 1 7 1 3 1 4 7 2 B 2 F 1 C 4
     37 2 1 7 1 3 1 4 9 1 A 2 1D 3 46 1 4 6 1 1 1 8 12 2 3D 1 2 7 C 8 62 1 2 9 B 7 49 2 1B 1 1 1
     1 1 4 2 31 14 1 2 5 B 1 24 9 1 64 14 17 4 4 3 1 3 2 7 3 4 D C 1 1 A 4 2BF 3 3B2 4 1C 3 1D 2
     1E 2 40 20 9 1 2D 3 1 1 75 2 22 1 76 C 4 C DB 5 39 A 1 1D 2 1 30 1F 31 5 2F 11 26 9 C 3 1E D
     38 E 30 14 98 3 1 15 4 1 6 1 2 3 C6 40 20C 1 C3 21 BFE 3 8D 1 60 20 22A 6 69 2 75D4 4 1 A 20
     2 50 2 110 1 3 1 4 1 17 5 4 1 53 2 32 12 1A 12 D 1 26 8 19 D 2C 4 2F E 24 1 43 E C 1 8 2 2D
     3 32 1 1 3 2 2 5 2 1 1 29 5 5 2 EC 8 1 2 4F30 1 2E1 10 10 10 16E 2 25D 1 E2 1 95 5 686 3 1 2
     5 4 28 3 4 1 A5 2 23D 4 41 5 13D 2 4F 4 46 B 31 4 7A 3 35 F 29 1 2 2 A 4 2D B 7 1 3D 3 24 E
     10 2 2C 1 C 3 30 E 8 4 1 2 5C C 6 1 2 1 9D C 15 4 37 2 1 7 2 2 2 3 9 1 A 2 2 7 3 5 43 9 1 1
     2 1 1 4 1 5 1 1 E 2 52 12 17 1 51 14 EB 7 2 9 1B 2 52 11 6A D 65 F 100 F F5 6 1 2 2 4 1 1 1
     2 8D 7 2 7 3 1 1C A 28 7 1 4 8 1 9 B 2E 10 195 8 1 8 52 16 1 E 7A 6 3 1 1 2 1 7 1 1 42 5 1 2
     1 5 15B 4 9 2 1 1 30 7 3 5 17 1 14E5 1 6 F 2CC8 12 9C0 5 3B 7 418 1 1 37 7 4 51 1 B 2 4CAB 2
     1261 2E 2 17 21E 5 3 6 8 8 2 7 1E 4 94 3 7BB 37 4 32 8 1 E 1 16 5 1 F 550 7 1 11 2 7 1 2 1 5
     64 1 A0 7 177 1 3D 4 1FC 4 FE 2 2E0 7 6D 7 AB0 5 C0C20 60 80 F0"),
   (["ex", "extendnumlet"],
    "5F 1 1FCF 1 F 2 13 1 DDDE 2 18 3 EF 1"),
   (["fo", "format"],
    "AD 1 56E 1 11F1 1 7FF 2 1A 5 31 5 1 A DE8F 1 F9 3 3434 10 8860 4 14CF 8 C2E86 1"),
   (["hl", "hebrewletter"],
    "5D0 1B 4 4 F52A 1 1 A 1 D 1 5 1 1 1 2 1 2 1 A"),
   (["ka", "katakana"],
    "3031 5 65 2 3 5B 1 4 F0 10 D0 2F 1 58 CC0E 38 B052 4 1 7 1 2 1 1 11F 3 32 1 E 4"),
   (["lf"],
    "A 1"),
   (["ml", "midletter"],
    "3A 1 7C 1 2CF 1 1D7 1 94 1 1A32 1 DDEB 1 41 1 C4 1"),
   (["mn", "midnum"],
    "2C 1 E 1 342 1 20A 1 82 2 5E 1 18B 1 184B 1 DE0B 1 3 1 B7 1 E 1"),
   (["mb", "midnumlet"],
    "2E 1 1FE9 2 A 1 DE2D 1 B4 1 6 1"),
   (["nl", "newline"],
    "B 2 78 1 1FA2 2"),
   (["nu", "numeric"],
    "30 A 5C6 6 5A A 1 1 71 1 12 A C6 A C6 2 50 1 83 A 76 A 76 A 76 A 76 A 76 A 76 A 76 A 76 A 76
     A 60 A 76 A 46 A 116 A 46 A 746 A 26 A 12C A 80 B A5 A 6 A B6 A 56 A 86 A 6 A 89C6 A 2A6 A
     26 A C6 A 16 A 56 A 196 A 5316 A 586 A 886 A 6 A 31C A 4D 1 F 1 22 A 3C A 90 A 116 A 156 A
     76 A 176 A 66 A 6 14 4C A 1A6 A 66 A 296 A 56 A F6 A 46 A 1A6 A 41D6 A 926 A 56 A 86 A 216 A
     5F76 A AD4 32 940 A 1A6 A 1F6 A F7 A 355 A 1296 A"),
   (["ri", "regionalindicator"],
    "1F1E6 1A"),
   (["sq", "singlequote"],
    "27 1"),
   (["wsegspace"],
    "20 1 165F 1 97F 7 1 3 54 1 FA0 1"),
   (["zwj"],
    "200D 1")]

end Unicode
end Tariff
