namespace FixGrader.Shell.Checksum

def generator : UInt32 := 0x04C11DB7

def shift (crc : UInt32) : UInt32 :=
  if crc &&& 0x80000000 == 0 then crc <<< 1 else (crc <<< 1) ^^^ generator

def feed (crc : UInt32) (byte : Nat) : UInt32 :=
  Nat.repeat shift 8 (crc ^^^ (UInt32.ofNat byte <<< 24))

/-- The bytes of `n`, the lowest first, without zeros at the end. -/
def sizeBytes (n : Nat) : List Nat :=
  if n = 0 then [] else n % 0x100 :: sizeBytes (n / 0x100)
termination_by n

def ofBytes (s : String) : UInt32 :=
  ~~~ (sizeBytes s.length).foldl feed (s.foldl (fun crc c => feed crc c.toNat) 0)

end FixGrader.Shell.Checksum
