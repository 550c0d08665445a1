import Tariff.Record.Basic
import Tariff.Record.Octets

/-!
# Payloads

The octets of a record: four for its kind, then its fields in order.  Octets behind the
last field do not count.

Main results:

- Theorem {lit}`Payload.kind_encode`: the first four octets tell the kind.
-/

namespace Tariff
namespace Payload

/-- The number of a kind of record. -/
def kind : Record → Nat
  | .validity _ => 0
  | .interval .. => 1
  | .mapping .. => 2
  | .rule .. => 3

/-- The octets of the fields of a record. -/
def fields : Record → List UInt8
  | .validity v =>
    Octets.nat 8 v.id.toNat ++ Octets.string v.group ++ Octets.string v.resource ++
      Octets.nat 8 v.start.toUInt64.toNat ++ Octets.nat 8 v.stop.toUInt64.toNat ++
      Octets.strings v.results ++ Octets.nat 8 v.modified.toUInt64.toNat
  | .interval model day start stop result =>
    Octets.string model ++ Octets.nat 1 day.toNat ++ Octets.string start ++
      Octets.string stop ++ Octets.string result
  | .mapping plan model => Octets.string plan ++ Octets.string model
  | .rule group conditions results =>
    Octets.string group ++ Octets.strings conditions ++ Octets.strings results

/-- The octets of a record. -/
def encode (r : Record) : List UInt8 :=
  Octets.nat 4 (kind r) ++ fields r

/-- Reads a time. -/
def readTime (bs : List UInt8) : Option (Int64 × List UInt8) :=
  (Octets.readNat 8 bs).map fun r => ((UInt64.ofNat r.1).toInt64, r.2)

/-- Reads the fields of a validity entry. -/
def readValidity (bs : List UInt8) : Option Record := do
  let (id, bs) ← Octets.readNat 8 bs
  let (group, bs) ← Octets.readString bs
  let (resource, bs) ← Octets.readString bs
  let (start, bs) ← readTime bs
  let (stop, bs) ← readTime bs
  let (results, bs) ← Octets.readStrings bs
  let (modified, _) ← readTime bs
  some (.validity ⟨UInt64.ofNat id, group, resource, start, stop, results, modified⟩)

/-- Reads the fields of an interval. -/
def readInterval (bs : List UInt8) : Option Record := do
  let (model, bs) ← Octets.readString bs
  let (day, bs) ← Octets.readNat 1 bs
  let (start, bs) ← Octets.readString bs
  let (stop, bs) ← Octets.readString bs
  let (result, _) ← Octets.readString bs
  some (.interval model (UInt8.ofNat day) start stop result)

/-- Reads the fields of a mapping. -/
def readMapping (bs : List UInt8) : Option Record := do
  let (plan, bs) ← Octets.readString bs
  let (model, _) ← Octets.readString bs
  some (.mapping plan model)

/-- Reads the fields of a rule. -/
def readRule (bs : List UInt8) : Option Record := do
  let (group, bs) ← Octets.readString bs
  let (conditions, bs) ← Octets.readStrings bs
  let (results, _) ← Octets.readStrings bs
  some (.rule group conditions results)

/-- Reads the fields of a record of a kind. -/
def readFields (kind : Nat) (bs : List UInt8) : Option Record :=
  match kind with
  | 0 => readValidity bs
  | 1 => readInterval bs
  | 2 => readMapping bs
  | 3 => readRule bs
  | _ => none

/-- The record that octets write. -/
def decode (bs : List UInt8) : Option Record := do
  let (kind, bs) ← Octets.readNat 4 bs
  readFields kind bs

/-- The first four octets tell the kind. -/
theorem kind_encode (r : Record) :
    Octets.readNat 4 (encode r) = some (kind r, fields r) := by
  rw [encode, Octets.readNat_nat]
  cases r <;> rfl

end Payload
end Tariff
