import Invoicing.Text.Basic

/-!
# Base64

Octets are written six bits to a character, and the last group of four characters is
filled up with equals signs.
-/

namespace Invoicing.Text

/-- The character for six bits. -/
def base64Char (bits : Nat) : Char :=
  if bits < 26 then Char.ofNat ('A'.toNat + bits)
  else if bits < 52 then Char.ofNat ('a'.toNat + (bits - 26))
  else if bits < 62 then Char.ofNat ('0'.toNat + (bits - 52))
  else if bits = 62 then '+'
  else '/'

/-- The base64 form of a list of octets. -/
def base64 : List UInt8 → Text
  | first :: second :: third :: rest =>
      let bits := first.toNat * 0x10000 + second.toNat * 0x100 + third.toNat
      base64Char (bits / 0x40000) :: base64Char (bits / 0x1000 % 64) ::
        base64Char (bits / 0x40 % 64) :: base64Char (bits % 64) :: base64 rest
  | [first, second] =>
      let bits := first.toNat * 0x400 + second.toNat * 4
      [base64Char (bits / 0x1000), base64Char (bits / 0x40 % 64), base64Char (bits % 64), '=']
  | [first] =>
      let bits := first.toNat * 16
      [base64Char (bits / 0x40), base64Char (bits % 64), '=', '=']
  | [] => []

/-- Each group of three octets, the last one perhaps shorter, takes four characters. -/
theorem length_base64 (octets : List UInt8) :
    (base64 octets).length = 4 * ((octets.length + 2) / 3) := by
  fun_induction base64 octets with
  | case1 first second third rest bits ih =>
      simp only [List.length_cons, ih]
      omega
  | case2 => simp
  | case3 => simp
  | case4 => simp

end Invoicing.Text
