import FixGrader.Json.Reader
import FixGrader.Json.Writer

namespace FixGrader

structure Uuid where
  bits : BitVec 128
  deriving DecidableEq, Repr, Inhabited

namespace Uuid

def nil : Uuid := ⟨0⟩

/-- `n` hexadecimal digits, the last standing for the lowest bits of `value`. -/
def digits (n value : Nat) : List Char :=
  match n with
  | 0 => []
  | n + 1 => digits n (value / 16) ++ [Json.hexChar (value % 16)]

/-- The value of hexadecimal digits, behind those that `value` stands for. -/
def digitsValue? (value : Nat) : List Char → Option Nat
  | [] => some value
  | c :: rest => do
    let d ← Json.hexDigit? c
    digitsValue? (value * 16 + d) rest

def groups : List Nat := [8, 4, 4, 4, 12]

def hyphenate : List Nat → List Char → List Char
  | [], s => s
  | [_], s => s
  | n :: sizes, s => s.take n ++ '-' :: hyphenate sizes (s.drop n)

def unhyphenate? : List Nat → List Char → Option (List Char)
  | [], s => if s.isEmpty then some [] else none
  | [n], s => if s.length = n then some s else none
  | n :: sizes, s =>
    match s.drop n with
    | '-' :: rest => (unhyphenate? sizes rest).map (s.take n ++ ·)
    | _ => none

def chars (u : Uuid) : List Char := hyphenate groups (digits 32 u.bits.toNat)

def toString (u : Uuid) : String := String.ofList u.chars

instance : ToString Uuid := ⟨toString⟩

def urnStart : List Char := "urn:uuid:".toList

/-- Takes off the braces or the URN part around the hyphenated form. -/
def unwrap (s : List Char) : List Char :=
  if s.length = 38 && s.head? == some '{' && s.getLast? == some '}' then s.tail.dropLast
  else if s.length = 45 && (s.take 9).map Char.toLower == urnStart then s.drop 9
  else s

def ofChars? (s : List Char) : Option Uuid := do
  let plain ← if s.length = 32 then some s else unhyphenate? groups (unwrap s)
  let value ← digitsValue? 0 plain
  some ⟨.ofNat 128 value⟩

def parse? (s : String) : Option Uuid := ofChars? s.toList

def version (u : Uuid) : Nat := (u.bits.toNat >>> 76) % 16

def le (a b : Uuid) : Bool := a.bits.toNat ≤ b.bits.toNat

end Uuid

end FixGrader
