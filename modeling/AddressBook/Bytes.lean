import AddressBook.Radix

namespace AddressBook

abbrev Bytes := List UInt8

namespace Bytes

def ofText (text : String) : Bytes := text.toUTF8.toList

/-- The number whose base-256 digits are the bytes, least significant first. -/
def littleEndian (bytes : Bytes) : Nat :=
  bytes.foldr (fun byte rest => byte.toNat + 256 * rest) 0

/-- The number whose base-256 digits are the bytes, most significant first. -/
def bigEndian (bytes : Bytes) : Nat :=
  bytes.foldl (fun high byte => 256 * high + byte.toNat) 0

/-- The lowest `count` bytes of a number, least significant first. -/
def ofLittleEndian (count n : Nat) : Bytes :=
  (Radix.lowest 256 count n).map UInt8.ofNat

def ofBigEndian (count n : Nat) : Bytes := (ofLittleEndian count n).reverse

theorem length_ofLittleEndian (count n : Nat) :
    (ofLittleEndian count n).length = count := by
  rw [ofLittleEndian, List.length_map, Radix.length_lowest]

end Bytes
end AddressBook
