namespace FixGrader.Text.Utf8

def encodeChar (c : Char) : List Nat :=
  let n := c.toNat
  if n < 0x80 then [n]
  else if n < 0x800 then [0xC0 + n / 0x40, 0x80 + n % 0x40]
  else if n < 0x10000 then [0xE0 + n / 0x1000, 0x80 + n / 0x40 % 0x40, 0x80 + n % 0x40]
  else [0xF0 + n / 0x40000, 0x80 + n / 0x1000 % 0x40, 0x80 + n / 0x40 % 0x40, 0x80 + n % 0x40]

def encode (s : List Char) : List Nat := s.flatMap encodeChar

def size (s : String) : Nat := (s.toList.map Char.utf8Size).foldl (· + ·) 0

/-- What a first byte promises: how many bytes follow, the bits it gives, and the least and
greatest second byte. -/
structure Lead where
  following : Nat
  bits : Nat
  least : Nat := 0x80
  greatest : Nat := 0xBF

def lead? (b : Nat) : Option Lead :=
  if b < 0x80 then some { following := 0, bits := b }
  else if 0xC2 ≤ b && b ≤ 0xDF then some { following := 1, bits := b - 0xC0 }
  else if b == 0xE0 then some { following := 2, bits := 0, least := 0xA0 }
  else if b == 0xED then some { following := 2, bits := 0xD, greatest := 0x9F }
  else if 0xE1 ≤ b && b ≤ 0xEF then some { following := 2, bits := b - 0xE0 }
  else if b == 0xF0 then some { following := 3, bits := 0, least := 0x90 }
  else if b == 0xF4 then some { following := 3, bits := 4, greatest := 0x8F }
  else if 0xF1 ≤ b && b ≤ 0xF3 then some { following := 3, bits := b - 0xF0 }
  else none

/-- Reads `n` more bytes between `least` and `greatest`, the bounds of later ones being those of
any continuation. The result is the code point, if complete, and what was not consumed. -/
def follow (n value least greatest : Nat) (bytes : List Nat) : Option Nat × List Nat :=
  match n, bytes with
  | 0, rest => (some value, rest)
  | _ + 1, [] => (none, [])
  | n + 1, b :: rest =>
    if least ≤ b && b ≤ greatest then follow n (value * 0x40 + (b - 0x80)) 0x80 0xBF rest
    else (none, b :: rest)

theorem length_follow_le (n value least greatest : Nat) (bytes : List Nat) :
    (follow n value least greatest bytes).2.length ≤ bytes.length := by
  induction bytes generalizing n value least greatest with
  | nil => cases n <;> simp [follow]
  | cons b rest ih =>
    cases n with
    | zero => simp [follow]
    | succ n =>
      simp only [follow]
      split
      · exact Nat.le_succ_of_le (ih ..)
      · simp

def decodeParts (bytes : List Nat) : List (Option Char) :=
  match bytes with
  | [] => []
  | b :: rest =>
    match lead? b with
    | none => none :: decodeParts rest
    | some l =>
      let read := follow l.following l.bits l.least l.greatest rest
      read.1.map Char.ofNat :: decodeParts read.2
termination_by bytes.length
decreasing_by
  · exact Nat.lt_succ_self _
  · exact Nat.lt_succ_of_le (length_follow_le _ _ _ _ rest)

def decodeLossy (bytes : List Nat) : String :=
  String.ofList ((decodeParts bytes).map (·.getD '\ufffd'))

def decode? (bytes : List Nat) : Option String :=
  ((decodeParts bytes).mapM id).map String.ofList

end FixGrader.Text.Utf8
