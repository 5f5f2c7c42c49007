import Dossier.Text.Utf8

/-!
# Checksums

The cyclic redundancy check of archives: the remainder of the bytes, read as a
polynomial over two elements with the lowest bit first, by the polynomial
`0xEDB88320`.
-/

namespace Dossier.Archive.Checksum

/-- One bit of the division. -/
def bitStep (r : UInt32) : UInt32 :=
  if r &&& 1 == 1 then (r >>> 1) ^^^ 0xEDB88320 else r >>> 1

/-- One byte of the division. -/
def byteStep (r : UInt32) (b : UInt8) : UInt32 :=
  bitStep (bitStep (bitStep (bitStep (bitStep (bitStep (bitStep (bitStep (r ^^^ b.toUInt32))))))))

/-- The checksum of a file. -/
def ofBytes (bytes : Bytes) : UInt32 := bytes.foldl byteStep 0xFFFFFFFF ^^^ 0xFFFFFFFF

example : ofBytes (Utf8.encode "123456789".toList) = 0xCBF43926 := by decide +kernel

end Dossier.Archive.Checksum
