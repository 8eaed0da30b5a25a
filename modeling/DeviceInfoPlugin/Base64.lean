import Mathlib.Algebra.Group.Nat.Defs
import Mathlib.Data.List.Basic

/-!
# Base64

The encoding with padding.  Three bytes are taken as one number of
24 bits and written as four digits of six bits; a group of one or two bytes at
the end is completed with zero bits and marked with `=`.
-/

namespace DeviceInfoPlugin
namespace Base64

def alphabet : List Char :=
  "ABCDEFGHIJKLMNOPQRSTUVWXYZabcdefghijklmnopqrstuvwxyz0123456789+/".toList

def digit (n : Nat) : Char :=
  alphabet.getD n '='

def value (c : Char) : Option Nat :=
  alphabet.findIdx? fun d => d = c

/-- Digit `k` of a group, counted from the last one. -/
def sextet (group k : Nat) : Char :=
  digit (group / 64 ^ k % 64)

/-- Byte `k` of a group, counted from the last one. -/
def byte (group k : Nat) : UInt8 :=
  UInt8.ofNat (group / 256 ^ k)

def encode : List UInt8 → List Char
  | [] => []
  | [a] =>
      let group := a.toNat * 65536
      [sextet group 3, sextet group 2, '=', '=']
  | [a, b] =>
      let group := a.toNat * 65536 + b.toNat * 256
      [sextet group 3, sextet group 2, sextet group 1, '=']
  | a :: b :: c :: rest =>
      let group := a.toNat * 65536 + b.toNat * 256 + c.toNat
      sextet group 3 :: sextet group 2 :: sextet group 1 :: sextet group 0 ::
        encode rest

/-- The number that four digits stand for. -/
def number (p q r s : Char) : Option Nat := do
  let first ← value p
  let second ← value q
  let third ← value r
  let last ← value s
  return ((first * 64 + second) * 64 + third) * 64 + last

/-- Padding is accepted at the end only, and read as zero bits. -/
def decode : List Char → Option (List UInt8)
  | [] => some []
  | p :: q :: r :: s :: rest =>
      if s ≠ '=' then do
        let group ← number p q r s
        let later ← decode rest
        return byte group 2 :: byte group 1 :: byte group 0 :: later
      else if rest ≠ [] then
        none
      else if r ≠ '=' then do
        let group ← number p q r 'A'
        return [byte group 2, byte group 1]
      else do
        let group ← number p q 'A' 'A'
        return [byte group 2]
  | _ => none

theorem value_digit {n : Nat} (hn : n < 64) : value (digit n) = some n := by
  have hall : ∀ n ∈ List.range 64, value (digit n) = some n := by decide
  exact hall n (List.mem_range.mpr hn)

theorem digit_ne_padding {n : Nat} (hn : n < 64) : digit n ≠ '=' := by
  have hall : ∀ n ∈ List.range 64, digit n ≠ '=' := by decide
  exact hall n (List.mem_range.mpr hn)

theorem value_sextet (group k : Nat) :
    value (sextet group k) = some (group / 64 ^ k % 64) :=
  value_digit (Nat.mod_lt _ (by omega))

theorem sextet_ne_padding (group k : Nat) : sextet group k ≠ '=' :=
  digit_ne_padding (Nat.mod_lt _ (by omega))

theorem sextet_zero {group k : Nat} (hzero : group / 64 ^ k % 64 = 0) :
    sextet group k = 'A' := by
  rw [sextet, hzero]
  rfl

theorem number_sextets (group : Nat) (hgroup : group < 256 ^ 3) :
    number (sextet group 3) (sextet group 2) (sextet group 1)
      (sextet group 0) = some group := by
  have hsum : ((group / 64 ^ 3 % 64 * 64 + group / 64 ^ 2 % 64) * 64 +
      group / 64 ^ 1 % 64) * 64 + group / 64 ^ 0 % 64 = group := by
    omega
  simp only [number, value_sextet, bind, Option.bind, hsum]
  rfl

theorem byte_eq {group k : Nat} {a : UInt8}
    (hgroup : group / 256 ^ k % 256 = a.toNat) : byte group k = a := by
  apply UInt8.toNat_inj.mp
  rw [byte, UInt8.toNat_ofNat', hgroup]

theorem decode_encode_one (a : UInt8) : decode (encode [a]) = some [a] := by
  have ha : a.toNat < 256 := a.toNat_lt
  have hnumber := number_sextets (a.toNat * 65536) (by omega)
  have hthird : sextet (a.toNat * 65536) 1 = 'A' := sextet_zero (by omega)
  have hlast : sextet (a.toNat * 65536) 0 = 'A' := sextet_zero (by omega)
  have hbyte : byte (a.toNat * 65536) 2 = a := byte_eq (by omega)
  rw [hthird, hlast] at hnumber
  simp [encode, decode, hnumber, hbyte]

theorem decode_encode_two (a b : UInt8) :
    decode (encode [a, b]) = some [a, b] := by
  have ha : a.toNat < 256 := a.toNat_lt
  have hb : b.toNat < 256 := b.toNat_lt
  have hnumber := number_sextets (a.toNat * 65536 + b.toNat * 256)
    (by omega)
  have hlast : sextet (a.toNat * 65536 + b.toNat * 256) 0 = 'A' :=
    sextet_zero (by omega)
  have hfirst : byte (a.toNat * 65536 + b.toNat * 256) 2 = a :=
    byte_eq (by omega)
  have hsecond : byte (a.toNat * 65536 + b.toNat * 256) 1 = b :=
    byte_eq (by omega)
  rw [hlast] at hnumber
  simp [encode, decode, sextet_ne_padding, hnumber, hfirst, hsecond]

theorem decode_encode_cons (a b c : UInt8) (rest : List UInt8) :
    decode (encode (a :: b :: c :: rest)) =
      (decode (encode rest)).map fun later => a :: b :: c :: later := by
  have ha : a.toNat < 256 := a.toNat_lt
  have hb : b.toNat < 256 := b.toNat_lt
  have hc : c.toNat < 256 := c.toNat_lt
  generalize hgroup : a.toNat * 65536 + b.toNat * 256 + c.toNat = group
  have hnumber := number_sextets group (by omega)
  have hfirst : byte group 2 = a := byte_eq (by omega)
  have hsecond : byte group 1 = b := byte_eq (by omega)
  have hthird : byte group 0 = c := byte_eq (by omega)
  simp only [encode, decode, hgroup, sextet_ne_padding, ne_eq,
    not_false_eq_true, if_true, hnumber]
  cases decode (encode rest) with
  | none => rfl
  | some later => simp [hfirst, hsecond, hthird]

/-- Nothing is lost, whatever the number of bytes. -/
theorem decode_encode (bytes : List UInt8) :
    decode (encode bytes) = some bytes := by
  induction bytes using encode.induct with
  | case1 => rfl
  | case2 a => exact decode_encode_one a
  | case3 a b => exact decode_encode_two a b
  | case4 a b c rest ih => rw [decode_encode_cons, ih, Option.map_some]

end Base64
end DeviceInfoPlugin
