/-!
# Little-endian integers

A field of so many bytes holds an integer with its lowest byte first.
-/

namespace Mixdown

/-- The `width` low bytes of a number, the lowest first. -/
def littleEndian : (width : Nat) → Nat → List UInt8
  | 0, _ => []
  | width + 1, n => .ofNat n :: littleEndian width (n / 256)

/-- The number that some bytes hold, the lowest first. -/
def ofLittleEndian : List UInt8 → Nat
  | [] => 0
  | byte :: rest => byte.toNat + 256 * ofLittleEndian rest

/-- The number in a field of `width` bytes in front of some bytes, and the bytes after it. -/
def takeField? (width : Nat) (bytes : List UInt8) : Option (Nat × List UInt8) :=
  let field := bytes.take width
  if field.length = width then some (ofLittleEndian field, bytes.drop width) else none

/-- The numbers in a row of fields of `width` bytes; an incomplete field at the end is dropped. -/
def littleEndianFields (width : Nat) (bytes : Array UInt8) : List Nat :=
  (List.range (bytes.size / width)).map fun i =>
    ofLittleEndian (bytes.extract (i * width) ((i + 1) * width)).toList

@[simp] theorem length_littleEndian (width n : Nat) : (littleEndian width n).length = width := by
  induction width generalizing n with
  | zero => rfl
  | succ width ih => simp [littleEndian, ih]

end Mixdown
