/-!
# Numbers and texts in octets

Whole numbers are written with a fixed number of octets, the least significant first.
A text is its length and its octets, a list its length and its items.

Main results:

- Theorem {lit}`Octets.readNat_nat`: what was written is read back, whatever follows.
-/

namespace Tariff
namespace Octets

/-- A number written with so many octets; what does not fit is lost. -/
def nat : Nat → Nat → List UInt8
  | 0, _ => []
  | width + 1, n => UInt8.ofNat n :: nat width (n / 256)

/-- Reads a number of so many octets. -/
def readNat : Nat → List UInt8 → Option (Nat × List UInt8)
  | 0, bs => some (0, bs)
  | _ + 1, [] => none
  | width + 1, b :: bs => (readNat width bs).map fun r => (b.toNat + 256 * r.1, r.2)

/-- How many numbers there are of so many octets. -/
def capacity : Nat → Nat
  | 0 => 1
  | width + 1 => 256 * capacity width

/-- Takes so many octets off the front. -/
def take (n : Nat) (bs : List UInt8) : Option (List UInt8 × List UInt8) :=
  if n ≤ bs.length then some (bs.take n, bs.drop n) else none

/-- A text. -/
def string (s : String) : List UInt8 :=
  nat 8 s.utf8ByteSize ++ s.toUTF8.data.toList

/-- Reads a text, whose octets must be UTF-8. -/
def readString (bs : List UInt8) : Option (String × List UInt8) := do
  let (size, bs) ← readNat 8 bs
  let (inside, bs) ← take size bs
  let s ← String.fromUTF8? ⟨inside.toArray⟩
  some (s, bs)

/-- A list of texts. -/
def strings (ss : List String) : List UInt8 :=
  nat 8 ss.length ++ ss.flatMap string

/-- Reads so many texts. -/
def readStringsOf : Nat → List UInt8 → Option (List String × List UInt8)
  | 0, bs => some ([], bs)
  | n + 1, bs =>
    match readString bs with
    | none => none
    | some (s, bs) => (readStringsOf n bs).map fun r => (s :: r.1, r.2)

/-- Reads a list of texts. -/
def readStrings (bs : List UInt8) : Option (List String × List UInt8) := do
  let (count, bs) ← readNat 8 bs
  readStringsOf count bs

/-! ## Laws -/

@[simp] theorem length_nat (width n : Nat) : (nat width n).length = width := by
  induction width generalizing n with
  | zero => rfl
  | succ width ih => simp [nat, ih]

/-- What was written is read back, whatever follows. -/
theorem readNat_nat (width n : Nat) (bs : List UInt8) :
    readNat width (nat width n ++ bs) = some (n % capacity width, bs) := by
  induction width generalizing n with
  | zero => simp [nat, readNat, capacity, Nat.mod_one]
  | succ width ih =>
    have hstep : n % 256 + 256 * (n / 256 % capacity width) = n % (256 * capacity width) :=
      (Nat.mod_mul).symm
    simp only [nat, readNat, List.cons_append, ih, Option.map_some, UInt8.toNat_ofNat']
    rw [hstep, capacity]

@[simp] theorem take_append (bs rest : List UInt8) :
    take bs.length (bs ++ rest) = some (bs, rest) := by
  simp [take]

end Octets
end Tariff
