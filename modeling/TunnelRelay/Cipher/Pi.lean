/-!
# The binary digits of π

Blowfish takes its initial tables from the digits of π behind the binary point. They are computed
in whole numbers: π = 16 arctan (1/5) − 4 arctan (1/239), each arctangent by its series, with
spare digits that absorb the rounding of the terms.
-/

namespace TunnelRelay.Pi

/-- The terms of the series of arctan (1/k), summed from the one at the odd exponent `n`; `power`
is the scaled power of 1/k that belongs to it and `fuel` bounds the number of terms. -/
def arctanTail (k : Nat) : Nat → Nat → Nat → Int → Int
  | 0, _, _, sum => sum
  | fuel + 1, n, power, sum =>
    if power = 0 then sum
    else
      let term : Int := Int.ofNat (power / n)
      let sum := if n % 4 = 1 then sum + term else sum - term
      arctanTail k fuel (n + 2) (power / (k * k)) sum

/-- The arctangent of 1/k in units of 2⁻ᵇ; each term gains at least four bits. -/
def arctan (k bits : Nat) : Int := arctanTail k (bits / 4 + 1) 1 ((1 <<< bits) / k) 0

/-- The first `bits` binary digits of π behind the point, as a number. -/
def fraction (bits : Nat) : Nat :=
  let b := bits + 64
  ((16 * arctan 5 b - 4 * arctan 239 b).toNat >>> 64) % (1 <<< bits)

/-- The first `count` words of 32 binary digits of π behind the point. -/
def words (count : Nat) : Array UInt32 :=
  let digits := fraction (32 * count)
  Array.ofFn fun i : Fin count => UInt32.ofNat (digits >>> (32 * (count - 1 - i)))

end TunnelRelay.Pi
