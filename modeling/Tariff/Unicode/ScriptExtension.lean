/-!
# Script extensions

The characters that each script uses, where these differ from the characters
that belong to it, as the lengths of runs, outside and inside by turns, in
hexadecimal.
-/

namespace Tariff
namespace Unicode

/-- The scripts, by first name, that use characters of other scripts or leave some of
their own to them. -/
def scriptExtensions : List (List String × String) :=
  [(["adlm"],
    "61F 1 20 1 1A0E 1 DF1 1 1BABE 4C 4 A 4 2"),
   (["arab"],
    "600 5 1 D7 1 22 50 30 F0 1F 1 2 5 4B 1 1D 174F 1 DF1 1 CD0E 73 10 1BD 2 36 7 1 20 10 70 5 1
     87 3E3 1C B64 1F 43 3 37 4 DF00 4 1 1B 1 2 1 1 2 1 1 A 1 4 1 1 1 1 6 1 4 1 1 1 1 1 1 3 1 2 1
     1 2 1 1 1 1 1 1 1 1 1 1 2 1 1 2 4 1 7 1 4 1 4 1 1 1 A 1 11 5 3 1 5 1 11 34 2"),
   (["armn"],
    "308 1 228 26 2 32 2 3 F583 5"),
   (["avst"],
    "B7 1 2D78 2 DCCE 36 3 7"),
   (["beng"],
    "2BC 1 694 2 11 2 1A 4 1 8 2 2 2 16 1 7 1 1 3 4 2 9 2 2 2 4 8 1 4 2 1 5 2 19 12D1 1 1 1 2 2 1
     1 8 1 8 1 2 1 4 1 2 3 8BF9 1"),
   (["bopo"],
    "2C7 1 1 3 D 1 10 2 2D15 3 4 A 1 D A 4 2 1 6 1 C3 1 9 2B 70 20 CC85 2 11A 5"),
   (["bugi"],
    "1A00 1C 2 2 8FAF 1"),
   (["buhd"],
    "1735 2 9 14"),
   (["cari"],
    "B7 1 1FA2 1 2 1 DD3 1 D46E 31"),
   (["aghb"],
    "304 1 2C 1 2C 1 101D1 34 B 1"),
   (["cakm"],
    "9E6 A 650 A 100B6 35 1 12"),
   (["cher"],
    "300 3 1 1 6 2 16 2 B 2 106E 56 2 6 9772 50"),
   (["zyyy"],
    "0 41 1A 6 1A 2F 1 C 1 2 1 5 17 1 1F 1 1C1 3 1 A 1 1 3 1 1 9 1 1 1 6 5 5 2 14 7E 1 6 1 1 1
     27D 1 D7 1 204 1 55C 1 195 4 1027 C 2 21 1 1F 1 A 1 2 1 7 1 B 3 B 1 F 11 21 3F 26 1 3 2 6 1
     1B 1 11 29 3 4 29A 16 B 15 3A0 100 274 2 20 1 69 200 17 1 18 2 A 1 4 1 1 1 1A 1A2 1 3 1 D 1
     D 1 15 1 211 18 1F 1 31 F C 4 A1 A 5 60 1F 1 19C0 40 5908 1A 66 3 3D0 1 E 2 52A4 A 16 15 2 C
     1 13 1 4 93 1 1 20 1A 6 1A 6 7F 7 1 7 A 5 192 D 33 2D CA03 FA 6 1B4 9C 74 3C F6 A 27 2 3E 3
     11 8 2 7 1E 4 3D D5 14 C 14 C 57 1B 7 87 55 1 47 1 2 2 1 2 2 2 4 1 C 1 1 1 7 1 41 1 4 2 8 1
     7 1 1C 1 4 1 5 1 1 3 7 1 154 2 124 2 32 1471 44 4C 3D 2C2 2C 4 64 C F 2 F 1 F 1 25 A AE 38
     1A 1 2 D 2C 4 9 17 6 9A 3D8 4 11 3 D 3 77 4 5F 6 C 4 1 F C 4 38 8 A 6 28 8 1E 2 C 4 2 3E 154
     C E 2 D 3 A 5 38 7 F 2 B 6 9 7 93 1 66 C0407 1 1E 60"),
   (["copt"],
    "B7 1 248 1 3 2 1 1 6C 2 6C E 2890 74 5 7 117 1 D4C8 1C"),
   (["cprt"],
    "10100 3 4 2D 3 9 6C0 6 2 1 1 2C 1 2 3 1 2 1"),
   (["cpmn"],
    "10100 2 2E8E 63"),
   (["cyrl"],
    "2BC 1 43 3 1 1 1 1 1 1 2 1 5 1 EE 130 1750 B A0 1 4C 1 7F 1 FE7 20 43 1 77FC 60 578E 2 E200
     3E 21 1"),
   (["deva"],
    "2BC 1 643 53 2 2B 1350 27 1 2 3F6 1 873F A A6 20 7200 A"),
   (["dogr"],
    "964 C 9EC0 A 6FC6 3C"),
   (["dupl"],
    "B7 1 24F 2 1 1 18 2 2B17 1 18DC3 6B 5 D 3 9 7 A 2 8"),
   (["elba"],
    "B7 1 24D 1 101FA 28"),
   (["ethi"],
    "30E 1 EF1 49 1 4 2 7 1 1 1 4 2 29 1 4 2 21 1 4 2 7 1 1 1 4 2 F 1 39 1 4 2 43 2 20 3 1A 19E6
     17 9 7 1 7 1 7 1 7 1 7 1 7 1 7 1 7 7D22 6 2 6 2 6 9 7 1 7 13CB1 7 1 4 1 2 1 F"),
   (["gara"],
    "60C 1 E 1 3 1 10720 26 3 1D 8 2"),
   (["geor"],
    "B7 1 4D1 1 B16 26 1 1 5 1 2 30 B90 2B 2 3 39A 1 CA5 26 1 1 5 1 103 1"),
   (["glag"],
    "B7 1 24B 1 1 1 17E 1 2 1 101 1 B71 1 F5E 1 BA5 60 1E3 1 782B 1 13990 7 1 11 2 7 1 2 1 5"),
   (["goth"],
    "B7 1 24C 2 2 1 28 1 FFFE 1B"),
   (["gran"],
    "951 2 11 2 280 E 10DC 1 1 2 1E 3 3 2 3F6 1 F20F 4 1 8 2 2 2 16 1 7 1 2 1 5 1 A 2 2 2 3 2 1 6
     1 5 7 2 7 3 5 C5B 2 1 1"),
   (["grek"],
    "B7 1 248 2 2 1 1 1 1 1 A 1 2E 1 2 1 2A 8 2 4 1 1 4 1 1 1 1 3 1 1 1 14 1 3F E 10 1926 5 32 5
     4 5 54 3 13E 16 2 6 2 26 2 6 2 8 1 1 1 1 1 1 1 1F 2 35 1 F 1 E 2 6 1 13 2 3 1 9 5E 1 C8 1
     8A3E 1 55DA 4F 11 1 D05F 46"),
   (["gujr"],
    "951 2 11 2 11B 3 1 9 1 3 1 16 1 7 1 2 1 5 2 A 1 3 1 3 2 1 F 4 2 C 7 7 9D30 A"),
   (["gong"],
    "B7 1 8AC 2 113FA 6 1 2 1 25 1 2 1 6 7 A"),
   (["guru"],
    "951 2 11 2 9B 3 1 6 4 2 2 16 1 7 1 2 1 2 1 2 2 1 1 5 4 2 2 3 3 1 7 4 1 1 7 11 9DB9 A"),
   (["gukh"],
    "965 1 1579A 3A"),
   (["hani"],
    "B7 1 2DC8 1A 1 59 C D6 1A 10 1 3 1 D 1 D 1 D 2 1 6 9 BB 1 94 10 20 26 9 1 30 28 38 31 F C 33
     1 58 19 A 5 60 1F 1 19C0 40 5200 700 8 51F8 16E 2 6A 36B 2 11A 5 707C 2 C 2 636E 12 1EDE 2
     DAE A6E0 20 103A 6 DE 2 1682 E 1D31 F 26E 9A2 21E 5E2 134B 5 1060"),
   (["hang"],
    "1100 100 1E01 3 4 A 1 D E 3 6 1 C3 1 35 5E 71 1F 41 1F 76E1 1D 283 2BA4 C 17 4 31 2649 2 11A
     5 3A 1F 3 6 2 6 2 6 2 3"),
   (["rohg"],
    "60C 1 E 1 3 1 20 1 93 1 1062B 28 8 A"),
   (["hano"],
    "1720 17"),
   (["hebr"],
    "307 2 288 37 8 1B 4 6 F528 1A 1 5 1 1 1 2 1 2 1 A"),
   (["hira"],
    "3001 3 4 A 1 D 10 6 1 1 4 2 3 56 2 8 5A 2 CD48 2 11A 5 A 1 2D 2 B061 11F 12 1 1D 3 40AD 1"),
   (["zinh"],
    "30F 1 2 1 1 C 1 2 3 7 2 1 2 10 1 2 1 12 1 5 1 4 5F0 2 115B 1F 2F3 36 1 1 1 5 20C 2 C2 20
     DD10 10 10 E 3CF 1 CD02 2E 2 17 220 3 11 8 2 7 1E 4 C2F52 F0"),
   (["java"],
    "A980 4E 1 B 4 2"),
   (["kthi"],
    "966 A 24C1 1 79FE A 6846 43 A 1"),
   (["knda"],
    "951 2 11 2 31A D 1 3 1 17 1 A 1 5 2 9 1 3 1 4 7 2 6 2 1 4 2 A 1 3 FDC 1 1 2 6 1 17 1 1 1
     8B3B 6"),
   (["kana"],
    "305 1 1D 1 2CDD 3 4 A 1 D 10 6 1 1 4 2 5B 4 3 60 F0 10 D0 2F 1 58 CAED 2 11A 3F B050 4 1 7 1
     2 1 1 11F 3 32 1 E 4"),
   (["kali"],
    "A900 30"),
   (["khoj"],
    "AE6 A 9D40 A 69C6 12 1 2F"),
   (["sind"],
    "964 2 9ECA A 6A76 3B 5 A"),
   (["latn"],
    "41 1A 6 1A 2F 1 C 1 2 1 5 17 1 1F 1 1C1 3 1 A 1 1 3 1 1 9 1 1 1 6 5 1B F 1 2 1 1 C 1 2 3 7 2
     1 2 26 1 5 1 4 D 115 2 4CA 2 7A8 1 C04 26 6 31 5 4 5 D 1 46 39 1 7 100 12F 1 41 1 D 1 10 D
     53 1 39 2 6 1 1B 1 11 29 AD7 20 197 1 78E8 8 1A 66 3 43 2 2 1 1 1 8 15 E 12E 1 201 2B 1 9 1
     4 4F96 7 41A 1A 6 1A 825 6 1 2A 1 9 D745 1F 6 6"),
   (["limb"],
    "965 1 F9A 1F 1 C 4 C 4 1 3 C"),
   (["lina"],
    "10107 2D 4CC 137 9 16 A 8"),
   (["linb"],
    "10000 C 1 1A 1 13 1 2 1 F 2 E 22 7B 5 3 4 2D 3 9"),
   (["lisu"],
    "2BC 1 10 1 2D3C 2 74C4 30 7AB0 1"),
   (["lyci"],
    "205A 1 E225 1D"),
   (["lydi"],
    "B7 1 2D79 1 DAEE 1A 5 1"),
   (["mahj"],
    "B7 1 8AC C 9EC0 A 6916 27"),
   (["mlym"],
    "951 2 11 2 39A D 1 3 1 33 1 3 1 6 4 10 2 1A F5A 1 17 1 8B3D 3"),
   (["mand"],
    "640 1 1FF 1C 2 1"),
   (["mani"],
    "640 1 1047F 27 4 C"),
   (["gonm"],
    "964 2 1139A 7 1 2 1 2C 3 1 1 2 1 9 8 A"),
   (["mero"],
    "205D 1 E922 20"),
   (["modi"],
    "A830 A 6DC6 45 B A"),
   (["mong"],
    "1800 1A 6 59 7 2B 784 1 FD1 2 5 4 E654 D"),
   (["mult"],
    "A66 A 10810 7 1 1 1 4 1 F 1 B"),
   (["mymr"],
    "1000 A0 988E 1 B1 1F 61 20 6C50 14"),
   (["nand"],
    "951 1 12 2 380 A FF9 1 8 1 7 1 8B35 6 716A 8 2 2E 2 B"),
   (["nkoo"],
    "60C 1 E 1 3 1 1A0 3B 2 3 F53E 2"),
   (["onao"],
    "964 2 1DC6A 2B 4 1"),
   (["hung"],
    "205A 1 2 1 DD3 1 F 1 DE3E 33 D 33 7 6"),
   (["perm"],
    "B7 1 248 1 5 3 A 1 16F 1 FECC 2B"),
   (["orkh"],
    "205A 1 DD5 1 DDCF 49"),
   (["ougr"],
    "640 1 104B1 1 47D 1A"),
   (["orya"],
    "951 2 11 2 19B 3 1 8 2 2 2 16 1 7 1 2 1 5 2 9 2 2 2 3 7 3 4 2 1 5 2 12 1162 1 17 1"),
   (["osge"],
    "301 1 2 1 6 1 4C 1 10157 24 4 24"),
   (["phag"],
    "1802 2 1 1 829 1 FD2 1 783D 38"),
   (["phlp"],
    "640 1 1053F 12 7 4 C 7"),
   (["runr"],
    "16A0 59"),
   (["samr"],
    "800 2E 2 F 25F2 1"),
   (["shrd"],
    "951 1 1385 1 1 1 2 2 2 1 8B4F 6 2 1 6947 60"),
   (["shaw"],
    "B7 1 10398 30"),
   (["sinh"],
    "964 2 41B 3 1 12 3 18 1 9 1 1 2 7 3 1 4 6 1 1 1 8 6 A 2 3 EFD 1 F4EE 14"),
   (["sogd"],
    "640 1 108EF 2A"),
   (["sunu"],
    "300 2 1 1 9 1 2 1 1C 1 3 1 1188E 22 E A"),
   (["sylo"],
    "964 2 80 A 9E10 2D"),
   (["syrc"],
    "303 2 2 2 1 1 15 1 2 3 7 2 1 1 2DB 1 E 2 2 1 20 1 A B 1A 1 8F E 1 3C 2 3 110 B 158D 1 1 1"),
   (["tglg"],
    "1700 16 9 1 15 2"),
   (["tagb"],
    "1735 2 29 D 1 3 1 2"),
   (["tale"],
    "300 2 5 2 3 1 D33 A 906 1E 2 5"),
   (["takr"],
    "964 2 9ECA A 6E46 3A 6 A"),
   (["taml"],
    "951 2 11 2 21C 2 1 6 3 3 1 4 3 2 1 1 1 2 3 2 3 3 3 C 4 5 3 3 1 4 2 1 6 1 E 15 10DF 1 8C18 1
     6A0D 1 1 1 37 2 C83 32 D 1"),
   (["tang"],
    "2FF0 10 1EF 1 13DF0 1 1F 17F8 8 300 200 9"),
   (["telu"],
    "951 2 11 2 29A D 1 3 1 17 1 10 2 9 1 3 1 4 7 2 1 3 2 1 2 4 2 A 7 9 1055 2 1 1 1 1 17 1"),
   (["thaa"],
    "60C 1 E 2 2 1 40 A 116 32 F640 1 A 1"),
   (["thai"],
    "2BC 1 1A 1 2B 1 2D 1 ACF 3A 5 1C"),
   (["tibt"],
    "F00 48 1 24 4 27 1 24 1 F 1 7 4 2 202D 4"),
   (["tfng"],
    "302 1 1 1 2 1 1 1 2A26 38 7 2 E 1"),
   (["tirh"],
    "951 2 11 2 138C 1 8B3D A 6C46 48 8 A"),
   (["todr"],
    "301 1 2 1 2 1 9 1 1 1 4A 1 10261 34"),
   (["toto"],
    "2BC 1 1DFD3 1F"),
   (["tutg"],
    "CE6 A 1002 1 1 1 8B3B 6 BB 1 6A8E A 1 1 2 1 1 26 1 A 1 1 2 1 1 4 1 A 1 2 8 2"),
   (["yezi"],
    "60C 1 E 1 3 1 40 A 10816 2A 1 3 2 2"),
   (["yiii"],
    "3001 2 5 A 2 8 DF 1 6F04 48D 3 37 5A9A 5")]

end Unicode
end Tariff
