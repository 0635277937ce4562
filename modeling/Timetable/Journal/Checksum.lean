/-!
# Checksums

CRC-32 with the reflected polynomial of IEEE 802.3: the remainder starts with all bits set, takes in
one byte after the other, low bit first, and is inverted at the end.
-/

set_option autoImplicit false

namespace Timetable.Journal

def polynomial : UInt32 := 0xEDB88320

/-- Moves the remainder down by one bit and reduces it. -/
def shift (crc : UInt32) : UInt32 :=
  if crc &&& 1 = 1 then (crc >>> 1) ^^^ polynomial else crc >>> 1

/-- Takes in one byte. -/
def absorbByte (crc : UInt32) (byte : UInt8) : UInt32 :=
  shift (shift (shift (shift (shift (shift (shift (shift (crc ^^^ byte.toUInt32))))))))

def remainder (crc : UInt32) (bytes : List UInt8) : UInt32 := bytes.foldl absorbByte crc

def checksum (bytes : List UInt8) : UInt32 := remainder 0xFFFFFFFF bytes ^^^ 0xFFFFFFFF

theorem remainder_append (crc : UInt32) (xs ys : List UInt8) :
    remainder crc (xs ++ ys) = remainder (remainder crc xs) ys := List.foldl_append

end Timetable.Journal
