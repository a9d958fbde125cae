import LargeFiles.Bytes

/-!
# CRC-32

The checksum of the journal's records: the reflected CRC-32 with polynomial `0xEDB88320`,
initial register and final inversion all ones.  `shiftBit` is one step of the shift register
and `feed` shifts in one byte.
-/

namespace LargeFiles.Digest.Crc32

/-- One step of the shift register. -/
def shiftBit (register : UInt32) : UInt32 :=
  if register &&& 1 = 1 then (register >>> 1) ^^^ 0xEDB88320 else register >>> 1

/-- Eight steps of the shift register. -/
def shiftByte (register : UInt32) : UInt32 :=
  shiftBit (shiftBit (shiftBit (shiftBit (shiftBit (shiftBit (shiftBit (shiftBit register)))))))

/-- Shifts one byte into the register. -/
def feed (register : UInt32) (b : UInt8) : UInt32 :=
  shiftByte (register ^^^ b.toUInt32)

/-- The CRC-32 checksum. -/
def checksum (data : Bytes) : UInt32 :=
  data.foldl feed 0xFFFFFFFF ^^^ 0xFFFFFFFF

end LargeFiles.Digest.Crc32
