/-
Variable-length numbers: seven bits in each byte, the low bits first, the top
bit set on every byte but the last. A number below 2^64 fits in ten bytes, and
no reader looks at an eleventh.
-/

namespace FiatAccounts.Wire.Varint

/-- The shortest form of a number. -/
def write (n : Nat) : List UInt8 :=
  if n < 128 then [UInt8.ofNat n]
  else UInt8.ofNat (n % 128 + 128) :: write (n / 128)

/-- The number at the front of the bytes, of at most `left` bytes, and what
follows it. Once a single byte is left it may hold only the last of 64 bits. -/
def readWithin : (left : Nat) → List UInt8 → Option (Nat × List UInt8)
  | 0, _ => none
  | _ + 1, [] => none
  | left + 1, b :: rest =>
    if b.toNat < 128 then
      if left = 0 ∧ 2 ≤ b.toNat then none else some (b.toNat, rest)
    else
      match readWithin left rest with
      | some (high, rest) => some (b.toNat - 128 + 128 * high, rest)
      | none => none

/-- The number at the front of the bytes; forms longer than needed are read as
well. -/
def read (bytes : List UInt8) : Option (Nat × List UInt8) :=
  readWithin 10 bytes

/-- Every digit that is read uses up its byte. -/
theorem readWithin_shorter {left : Nat} {bytes rest : List UInt8} {n : Nat}
    (h : readWithin left bytes = some (n, rest)) :
    rest.length < bytes.length := by
  fun_induction readWithin left bytes generalizing n rest with
  | case1 | case2 => cases h
  | case3 => cases h
  | case4 => cases h; simp
  | case5 left b tail hb high rest' hr ih =>
    cases h
    have := ih hr
    simp only [List.length_cons]
    omega
  | case6 => cases h

/-- Reading a number uses up at least one byte. -/
theorem read_shorter {bytes rest : List UInt8} {n : Nat}
    (h : read bytes = some (n, rest)) :
    rest.length < bytes.length :=
  readWithin_shorter h

end FiatAccounts.Wire.Varint
