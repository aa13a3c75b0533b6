import Mathlib.Data.List.Basic
import Mathlib.Tactic.Common
/-!
# Base64

Three bytes as four characters of six bits each. A last group of one or two
bytes is filled with zero bits, and with `=` for the characters that stand for
no byte.
-/

namespace RunLib

def pad : UInt8 := 61

/-- The character of six bits. -/
def digit64 (v : Nat) : UInt8 :=
  if v < 26 then UInt8.ofNat (65 + v)
  else if v < 52 then UInt8.ofNat (71 + v)
  else if v < 62 then UInt8.ofNat (v - 4)
  else if v = 62 then 43
  else 47

/-- The six bits of a character of the alphabet. -/
def value64 (c : UInt8) : Option Nat :=
  if 65 ≤ c ∧ c ≤ 90 then some (c.toNat - 65)
  else if 97 ≤ c ∧ c ≤ 122 then some (c.toNat - 71)
  else if 48 ≤ c ∧ c ≤ 57 then some (c.toNat + 4)
  else if c = 43 then some 62
  else if c = 47 then some 63
  else none

def encode64 : List UInt8 → List UInt8
  | [] => []
  | [a] => [digit64 (a.toNat / 4), digit64 (a.toNat % 4 * 16), pad, pad]
  | [a, b] =>
    [digit64 (a.toNat / 4), digit64 (a.toNat % 4 * 16 + b.toNat / 16), digit64 (b.toNat % 16 * 4), pad]
  | a :: b :: c :: rest =>
    digit64 (a.toNat / 4) :: digit64 (a.toNat % 4 * 16 + b.toNat / 16) ::
      digit64 (b.toNat % 16 * 4 + c.toNat / 64) :: digit64 (c.toNat % 64) :: encode64 rest

/-- The bytes of a group: as many as it has characters, less one. The bits that
stand for no byte must be zero. -/
def group64 : List Nat → Option (List UInt8)
  | [v₀, v₁] => if v₁ % 16 = 0 then some [UInt8.ofNat (v₀ * 4 + v₁ / 16)] else none
  | [v₀, v₁, v₂] =>
    if v₂ % 4 = 0 then some [UInt8.ofNat (v₀ * 4 + v₁ / 16), UInt8.ofNat (v₁ % 16 * 16 + v₂ / 4)] else none
  | [v₀, v₁, v₂, v₃] =>
    some [UInt8.ofNat (v₀ * 4 + v₁ / 16), UInt8.ofNat (v₁ % 16 * 16 + v₂ / 4), UInt8.ofNat (v₂ % 4 * 64 + v₃)]
  | _ => none

/-- The standard decoding: whole groups only, and `=` only at the end of the
last one. -/
def decode64 : List UInt8 → Option (List UInt8)
  | [] => some []
  | c₀ :: c₁ :: c₂ :: c₃ :: rest =>
    if c₃ = pad then
      if rest = [] then ((if c₂ = pad then [c₀, c₁] else [c₀, c₁, c₂]).mapM value64).bind group64 else none
    else do
      let bytes ← ([c₀, c₁, c₂, c₃].mapM value64).bind group64
      let more ← decode64 rest
      some (bytes ++ more)
  | _ => none

theorem digit64_value {v : Nat} (h : v < 64) : value64 (digit64 v) = some v := by
  have hall : ∀ v < 64, value64 (digit64 v) = some v := by decide
  exact hall v h

theorem digit64_ne_pad {v : Nat} (h : v < 64) : digit64 v ≠ pad := by
  intro heq
  have hvalue := digit64_value h
  rw [heq] at hvalue
  cases hvalue

theorem values_digits {l : List Nat} (h : ∀ v ∈ l, v < 64) : (l.map digit64).mapM value64 = some l := by
  induction l with
  | nil => rfl
  | cons v l ih =>
    rw [List.map_cons, List.mapM_cons, digit64_value (h v List.mem_cons_self), ih fun u hu => h u (List.mem_cons_of_mem _ hu)]
    rfl

/-! ## Groups -/

theorem ofNat_of_eq {n : Nat} {a : UInt8} (h : n = a.toNat) : UInt8.ofNat n = a := by
  rw [h]
  exact UInt8.ofNat_toNat

theorem group64_one (a : UInt8) : group64 [a.toNat / 4, a.toNat % 4 * 16] = some [a] := by
  have hzero : a.toNat % 4 * 16 % 16 = 0 := Nat.mul_mod_left _ _
  have hbyte : UInt8.ofNat (a.toNat / 4 * 4 + a.toNat % 4 * 16 / 16) = a := ofNat_of_eq (by omega)
  rw [group64, if_pos hzero, hbyte]

theorem group64_two (a b : UInt8) :
    group64 [a.toNat / 4, a.toNat % 4 * 16 + b.toNat / 16, b.toNat % 16 * 4] = some [a, b] := by
  have hb := b.toNat_lt
  have hzero : b.toNat % 16 * 4 % 4 = 0 := Nat.mul_mod_left _ _
  have hfirst : UInt8.ofNat (a.toNat / 4 * 4 + (a.toNat % 4 * 16 + b.toNat / 16) / 16) = a := ofNat_of_eq (by omega)
  have hsecond : UInt8.ofNat ((a.toNat % 4 * 16 + b.toNat / 16) % 16 * 16 + b.toNat % 16 * 4 / 4) = b :=
    ofNat_of_eq (by omega)
  rw [group64, if_pos hzero, hfirst, hsecond]

theorem group64_three (a b c : UInt8) :
    group64 [a.toNat / 4, a.toNat % 4 * 16 + b.toNat / 16, b.toNat % 16 * 4 + c.toNat / 64, c.toNat % 64] =
      some [a, b, c] := by
  have hb := b.toNat_lt
  have hc := c.toNat_lt
  have hfirst : UInt8.ofNat (a.toNat / 4 * 4 + (a.toNat % 4 * 16 + b.toNat / 16) / 16) = a := ofNat_of_eq (by omega)
  have hsecond : UInt8.ofNat ((a.toNat % 4 * 16 + b.toNat / 16) % 16 * 16 + (b.toNat % 16 * 4 + c.toNat / 64) / 4) = b :=
    ofNat_of_eq (by omega)
  have hthird : UInt8.ofNat ((b.toNat % 16 * 4 + c.toNat / 64) % 4 * 64 + c.toNat % 64) = c := ofNat_of_eq (by omega)
  rw [group64, hfirst, hsecond, hthird]

/-! ## The whole text -/

theorem encode64_length (src : List UInt8) : (encode64 src).length = 4 * ((src.length + 2) / 3) := by
  fun_induction encode64 src with
  | case1 => simp
  | case2 => simp
  | case3 => simp
  | case4 a b c rest ih =>
    simp only [List.length_cons, ih]
    omega

/-- Decoding gives back what was encoded. -/
theorem decode64_encode64 (src : List UInt8) : decode64 (encode64 src) = some src := by
  fun_induction encode64 src with
  | case1 => rfl
  | case2 a =>
    have ha := a.toNat_lt
    have hvalues := values_digits (l := [a.toNat / 4, a.toNat % 4 * 16]) (by simp; omega)
    rw [decode64, if_pos rfl, if_pos rfl, if_pos rfl]
    exact (congrArg (·.bind group64) hvalues).trans (group64_one a)
  | case3 a b =>
    have ha := a.toNat_lt
    have hb := b.toNat_lt
    have hpad : digit64 (b.toNat % 16 * 4) ≠ pad := digit64_ne_pad (by omega)
    have hvalues := values_digits (l := [a.toNat / 4, a.toNat % 4 * 16 + b.toNat / 16, b.toNat % 16 * 4]) (by simp; omega)
    rw [decode64, if_pos rfl, if_pos rfl, if_neg hpad]
    exact (congrArg (·.bind group64) hvalues).trans (group64_two a b)
  | case4 a b c rest ih =>
    have ha := a.toNat_lt
    have hb := b.toNat_lt
    have hc := c.toNat_lt
    have hpad : digit64 (c.toNat % 64) ≠ pad := digit64_ne_pad (by omega)
    have hvalues := values_digits (l := [a.toNat / 4, a.toNat % 4 * 16 + b.toNat / 16,
      b.toNat % 16 * 4 + c.toNat / 64, c.toNat % 64]) (by simp; omega)
    have hgroup := (congrArg (·.bind group64) hvalues).trans (group64_three a b c)
    dsimp only [List.map] at hgroup
    rw [decode64, if_neg hpad, hgroup, ih]
    rfl

end RunLib
