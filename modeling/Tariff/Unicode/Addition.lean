import Tariff.Unicode.Property
import Tariff.Unicode.Runs

/-!
# Additions

Version 17 of Unicode assigns characters that version 16 does not.  A pattern asks for
the properties of version 16, but the names of its groups and the texts in messages may
hold the new characters.  They are given by the lengths of their runs, outside and
inside by turns, in hexadecimal.
-/

namespace Tariff
namespace Unicode

/-- The new letters. -/
def newAlphabetic : CharSet :=
  CharSet.ofRuns
  "88F 1 3CC 1 7F 1 9AF1 2 2 1 1 1 1C 1 614E 1A 56B 3 32 2 C64 8 248 2C 50C4 19 2 19 11E 5 1801 8
   509 16 61 73 58CD 1F 1 16 8 2 D03A 6 1762 C 5502 10CA"

/-- The new numbers. -/
def newNumeric : CharSet :=
  CharSet.ofRuns "11DE0 A 520A 3"

/-- The new characters that show on their own. -/
def newVisible : CharSet :=
  CharSet.ofRuns
  "88F 1 3CC 1 7F 1 13E4 1 AD4 1 7C37 2 2 1 1 1 1C 1 53D1 10 1BD 2 36 7 B71 1A 56B 3 8 9 C88 1 3
   1 1 1 248 2C 4 A 50B6 19 2 19 11E 5 1801 8 509 16 61 73 3F07 3 1BD 17 F 11 17CF 1F 1 3 1 2 1 7
   2 5 9 2 FD8 1 9E 4 155 9 17B 4 32 1 3 1 39 1 4 1 1C 1 4 1 10A 1 BB3F 6 1762 C 5502 10CA"

/-- The letters of version 17. -/
def latestAlphabetic : CharSet :=
  alphabetic.union newAlphabetic

/-- The numbers of version 17. -/
def latestNumeric : CharSet :=
  numeric.union newNumeric

end Unicode
end Tariff
