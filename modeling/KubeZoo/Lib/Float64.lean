import Mathlib.Tactic

/-! # Numbers in the binary64 format -/

namespace Float64

/-- A finite value: `mantissa * 2 ^ exponent`, with a sign. -/
structure Value where
  negative : Bool
  mantissa : ℕ
  exponent : ℤ
deriving DecidableEq

structure Ratio where
  num : ℕ
  den : ℕ

/-- `n * b ^ e`. -/
def scaled (n b : ℕ) (e : ℤ) : Ratio :=
  if 0 ≤ e then ⟨n * b ^ e.toNat, 1⟩ else ⟨n, b ^ (-e).toNat⟩

/-- The quotient by `b ^ e`. -/
def Ratio.shift (r : Ratio) (b : ℕ) (e : ℤ) : Ratio :=
  if 0 ≤ e then ⟨r.num, r.den * b ^ e.toNat⟩ else ⟨r.num * b ^ (-e).toNat, r.den⟩

def Ratio.round (r : Ratio) : ℕ :=
  let q := r.num / r.den
  let rest := 2 * (r.num % r.den)
  if rest < r.den then q
  else if r.den < rest then q + 1
  else if q % 2 = 0 then q else q + 1

def minExponent : ℤ := -1074

def Ratio.exponent (r : Ratio) : ℤ :=
  let guess : ℤ := (r.num.log2 : ℤ) - r.den.log2 - 53
  let q := r.shift 2 guess
  max minExponent (if q.num / q.den < 2 ^ 53 then guess else guess + 1)

/-- The nearest value. -/
def ofRatio (negative : Bool) (r : Ratio) : Option Value :=
  let e := r.exponent
  let m := (r.shift 2 e).round
  let v : Value := if m = 2 ^ 53 then ⟨negative, 2 ^ 52, e + 1⟩ else ⟨negative, m, e⟩
  if v.mantissa = 0 then some ⟨negative, 0, minExponent⟩
  else if v.exponent > 971 then none
  else some v

/-- The value of `digits * 10 ^ e`. The first tests spare powers of ten that cannot matter. -/
def ofDecimal (negative : Bool) (digits : ℕ) (e : ℤ) : Option Value :=
  let top : ℤ := (Nat.toDigits 10 digits).length + e
  if digits = 0 ∨ top < -330 then some ⟨negative, 0, minExponent⟩
  else if top > 310 then none
  else ofRatio negative (scaled digits 10 e)

def Ratio.decimalPoint (r : Ratio) : ℤ :=
  let guess : ℤ := ((r.num.log2 : ℤ) - r.den.log2) * 30103 / 100000 - 1
  let above : ℤ → Bool := fun p =>
    let q := r.shift 10 p
    decide (q.den ≤ q.num)
  if above (guess + 2) then guess + 3
  else if above (guess + 1) then guess + 2
  else if above guess then guess + 1
  else guess

/-- The decimals of `n` digits around a value, and which of them reads back to it. -/
def candidate (v : Value) (r : Ratio) (point : ℤ) (n : ℕ) : Option ℕ :=
  let q := r.shift 10 (point - n)
  let low := q.num / q.den
  let reads := fun d => ofDecimal v.negative d (point - n) == some v
  if reads q.round then some q.round
  else if reads low then some low
  else if reads (low + 1) then some (low + 1)
  else none

def shortest (v : Value) : List Char × ℤ :=
  let r := scaled v.mantissa 2 v.exponent
  let point := r.decimalPoint
  match (List.range 17).findSome? fun n => (candidate v r point (n + 1)).map fun d => (d, n + 1) with
  | none => (['0'], 1)
  | some (d, n) =>
    let digits := Nat.toDigits 10 d
    let trimmed := (digits.reverse.dropWhile (· == '0')).reverse
    (trimmed, point + digits.length - n)

/-- Digits with the point after the first `p` of them. -/
def plain (digits : List Char) (p : ℤ) : List Char :=
  if p ≤ 0 then '0' :: '.' :: (List.replicate (-p).toNat '0' ++ digits)
  else if digits.length ≤ p.toNat then digits ++ List.replicate (p.toNat - digits.length) '0'
  else digits.take p.toNat ++ '.' :: digits.drop p.toNat

def scientific (digits : List Char) (p : ℤ) : List Char :=
  let e := p - 1
  digits.take 1 ++ (if digits.length ≤ 1 then [] else '.' :: digits.drop 1) ++
    'e' :: (if e < 0 then '-' else '+') :: Nat.toDigits 10 e.natAbs

/-- How a value is written: with an exponent below `1e-6` and from `1e21` on. -/
def format (v : Value) : List Char :=
  let sign := if v.negative then ['-'] else []
  if v.mantissa = 0 then sign ++ ['0']
  else
    let (digits, p) := shortest v
    sign ++ if p ≤ -6 ∨ 21 < p then scientific digits p else plain digits p

end Float64
