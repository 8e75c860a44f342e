import Mathlib.Data.Nat.Notation

/-!
# Base64url without padding

Three bytes are four digits of six bits; one or two bytes at the end are two or
three digits.
-/

namespace Base64Url

def digit (n : ℕ) : Char :=
  if n < 26 then .ofNat (n + 65)
  else if n < 52 then .ofNat (n + 71)
  else if n < 62 then .ofNat (n - 4)
  else if n = 62 then '-'
  else '_'

def value (c : Char) : Option ℕ :=
  if c.isUpper then some (c.toNat - 65)
  else if c.isLower then some (c.toNat - 71)
  else if c.isDigit then some (c.toNat + 4)
  else if c = '-' then some 62
  else if c = '_' then some 63
  else none

def encode : List UInt8 → List Char
  | a :: b :: c :: rest =>
    let n := (a.toNat * 256 + b.toNat) * 256 + c.toNat
    digit (n / 262144) :: digit (n / 4096 % 64) :: digit (n / 64 % 64) ::
      digit (n % 64) :: encode rest
  | [a, b] =>
    let n := (a.toNat * 256 + b.toNat) * 4
    [digit (n / 4096), digit (n / 64 % 64), digit (n % 64)]
  | [a] => [digit (a.toNat * 16 / 64), digit (a.toNat * 16 % 64)]
  | [] => []

def decode : List Char → Option (List UInt8)
  | a :: b :: c :: d :: rest => do
    let n := (((← value a) * 64 + (← value b)) * 64 + (← value c)) * 64 +
      (← value d)
    return .ofNat (n / 65536) :: .ofNat (n / 256) :: .ofNat n :: (← decode rest)
  | [a, b, c] => do
    let n := ((← value a) * 64 + (← value b)) * 64 + (← value c)
    return [.ofNat (n / 1024), .ofNat (n / 4)]
  | [a, b] => do
    return [.ofNat (((← value a) * 64 + (← value b)) / 16)]
  | [_] => none
  | [] => some []

theorem value_digit {n : ℕ} (h : n < 64) : value (digit n) = some n := by
  have hall : ∀ n : Fin 64, value (digit n) = some n.val := by decide
  exact hall ⟨n, h⟩

theorem ofNat_eq (byte : UInt8) {n : ℕ} (h : n % 256 = byte.toNat) :
    UInt8.ofNat n = byte := by
  rw [← UInt8.toNat_inj, UInt8.toNat_ofNat', ← h]

theorem decode_encode (bytes : List UInt8) :
    decode (encode bytes) = some bytes := by
  fun_induction encode bytes with
  | case1 a b c rest n ih =>
    have ha := a.toNat_lt
    have hb := b.toNat_lt
    have hc := c.toNat_lt
    have hn : n = (a.toNat * 256 + b.toNat) * 256 + c.toNat := rfl
    simp (disch := omega) only [decode, value_digit, ih, Option.bind_eq_bind,
      Option.bind_some, Option.pure_def]
    rw [ofNat_eq a, ofNat_eq b, ofNat_eq c]
    all_goals omega
  | case2 a b n =>
    have ha := a.toNat_lt
    have hb := b.toNat_lt
    have hn : n = (a.toNat * 256 + b.toNat) * 4 := rfl
    simp (disch := omega) only [decode, value_digit, Option.bind_eq_bind,
      Option.bind_some, Option.pure_def]
    rw [ofNat_eq a, ofNat_eq b]
    all_goals omega
  | case3 a =>
    have ha := a.toNat_lt
    simp (disch := omega) only [decode, value_digit, Option.bind_eq_bind,
      Option.bind_some, Option.pure_def]
    rw [ofNat_eq a]
    omega
  | case4 => rfl

end Base64Url
