/-!
# Checksums

The cyclic redundancy check of 32 bits with the reflected polynomial 0xEDB88320.  The
register takes in one octet at a time, lowest bit first.

Main results:

- Theorem {lit}`Checksum.run_append`: the register runs over two stretches one after the
  other.
-/

namespace Tariff
namespace Checksum

/-- The polynomial, lowest power in the highest bit. -/
def polynomial : BitVec 32 := 0xEDB88320#32

/-- Shifts one bit out of the register. -/
def shift (register : BitVec 32) : BitVec 32 :=
  if register.getLsbD 0 then (register >>> 1) ^^^ polynomial else register >>> 1

/-- Shifts so many bits out of the register. -/
def shifts : Nat → BitVec 32 → BitVec 32
  | 0, register => register
  | n + 1, register => shifts n (shift register)

/-- Takes in an octet. -/
def absorb (register : BitVec 32) (octet : UInt8) : BitVec 32 :=
  shifts 8 (register ^^^ octet.toBitVec.setWidth 32)

/-- Takes in octets. -/
def run (register : BitVec 32) (octets : List UInt8) : BitVec 32 :=
  octets.foldl absorb register

/-- The checksum of some octets. -/
def of (octets : List UInt8) : BitVec 32 :=
  ~~~ run (BitVec.allOnes 32) octets

/-- The register runs over two stretches one after the other. -/
theorem run_append (register : BitVec 32) (front back : List UInt8) :
    run register (front ++ back) = run (run register front) back :=
  List.foldl_append

/-- The check value of the code. -/
example : of "123456789".toUTF8.data.toList = 0xCBF43926#32 := by decide +kernel

end Checksum
end Tariff
