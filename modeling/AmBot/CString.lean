import Mathlib.Algebra.Ring.Nat
import Mathlib.Data.List.TakeWhile
import Mathlib.Data.List.Infix
import Mathlib.Order.Lattice
import Mathlib.Tactic.Common
/-!
# C strings

Byte strings and the few C library functions the bot uses on them, in the "C"
locale. A `Bytes` stands for the bytes of a C string without its NUL; where a
buffer can hold a NUL, `cstr` cuts it there.
-/

namespace AmBot

abbrev Bytes := List UInt8

/-- The one proof behind every test `line ∈ lines`. -/
instance lawfulBEqBytes : LawfulBEq Bytes := inferInstance

/-- The bytes of an ASCII literal. -/
def ascii (s : String) : Bytes := s.toList.map fun c => UInt8.ofNat c.toNat

/-- A buffer read as a C string. -/
def cstr (b : Bytes) : Bytes := b.takeWhile (· ≠ 0)

def NUL : UInt8 := 0
def TAB : UInt8 := 9
def LF : UInt8 := 10
def CR : UInt8 := 13
def SP : UInt8 := 32
def BANG : UInt8 := 33
def QUOTE : UInt8 := 34
def COLON : UInt8 := 58
def BACKSLASH : UInt8 := 92

def isSpace (c : UInt8) : Bool := c = 32 || (9 ≤ c && c ≤ 13)

def toUpper (c : UInt8) : UInt8 := if 97 ≤ c && c ≤ 122 then c - 32 else c

def isDigit (c : UInt8) : Bool := 48 ≤ c && c ≤ 57

/-- `while (*p == ' ') ++p;` -/
def skipBlanks (p : Bytes) : Bytes := p.dropWhile (· = SP)

/-- The bytes from `p` up to the first `c`, or all of them. -/
def upTo (c : UInt8) (p : Bytes) : Bytes := p.takeWhile (· ≠ c)

/-- `strchr(p, c)`: the rest of `p` from the first `c` on. -/
def strchr (c : UInt8) (p : Bytes) : Option Bytes :=
  match p.dropWhile (· ≠ c) with
  | [] => none
  | q => some q

/-- `strstr(line, token)`: the rest of `line` from the first `token` on. -/
def strstr (token : Bytes) : Bytes → Option Bytes
  | [] => if token.isPrefixOf [] then some [] else none
  | line@(_ :: rest) => if token.isPrefixOf line then some line else strstr token rest

/-- Two strings equal up to ASCII case: `key_equal` and `nick_equal`. -/
def equalIgnoreCase : Bytes → Bytes → Bool
  | [], [] => true
  | a :: as, b :: bs => toUpper a = toUpper b && equalIgnoreCase as bs
  | _, _ => false

/-- `copy_value` and `copy_field` into a field of `size` bytes: what fits, cut
off before the NUL. -/
def copyValue (size : Nat) (src : Bytes) : Bytes := src.take (size - 1)

/-- `written > 0 && written < sizeof(buffer)` after `snprintf`. -/
def fits (size : Nat) (text : Bytes) : Bool := 0 < text.length && text.length < size

/-- What `snprintf` leaves in a buffer of `size` bytes. -/
def snprintf (size : Nat) (text : Bytes) : Bytes := text.take (size - 1)

/-- The digits of `%u`. -/
def decimal (n : Nat) : Bytes := (Nat.toDigits 10 n).map fun c => UInt8.ofNat c.toNat

/-- `unsigned long` counters wrap at 32 bits. -/
def increment (n : Nat) : Nat := (n + 1) % 2 ^ 32

/-! ## Words

A scan that goes on while `p` holds, over a text whose first part is all `p`
and whose second part, if any, begins with a byte that is not.
-/

theorem takeWhile_until {p : UInt8 → Bool} {word rest : Bytes} (hword : ∀ c ∈ word, p c = true)
    (hrest : ∀ c ∈ rest.head?, p c = false) : (word ++ rest).takeWhile p = word := by
  rw [List.takeWhile_append_of_pos hword]
  cases rest with
  | nil => simp
  | cons c rest => simp [hrest c rfl]

theorem dropWhile_until {p : UInt8 → Bool} {word rest : Bytes} (hword : ∀ c ∈ word, p c = true)
    (hrest : ∀ c ∈ rest.head?, p c = false) : (word ++ rest).dropWhile p = rest := by
  rw [List.dropWhile_append_of_pos hword]
  cases rest with
  | nil => rfl
  | cons c rest => simp [hrest c rfl]

theorem head?_dropWhile {p : UInt8 → Bool} (text : Bytes) : ∀ c ∈ (text.dropWhile p).head?, p c = false := by
  intro c hc
  have := List.head?_dropWhile_not p text
  rw [Option.mem_def.1 hc] at this
  simpa using this

theorem not_mem_upTo (c : UInt8) (p : Bytes) : c ∉ upTo c p := fun h => by
  simpa using List.mem_takeWhile_imp h

theorem upTo_until {c : UInt8} {word rest : Bytes} (hword : c ∉ word) (hrest : ∀ b ∈ rest.head?, b = c) :
    upTo c (word ++ rest) = word := by
  refine takeWhile_until (fun b hb => ?_) fun b hb => by simpa using hrest b hb
  have hne : b ≠ c := by
    rintro rfl
    exact hword hb
  simpa using hne

/-- What follows `upTo` is nothing, or starts with the byte. -/
theorem dropWhile_byte (c : UInt8) (p : Bytes) :
    p.dropWhile (· ≠ c) = [] ∨ ∃ rest, p.dropWhile (· ≠ c) = c :: rest := by
  cases h : p.dropWhile (· ≠ c) with
  | nil => exact .inl rfl
  | cons d rest =>
    have hd := List.head?_dropWhile_not (fun x => decide (x ≠ c)) p
    rw [h] at hd
    exact .inr ⟨rest, by simpa using hd⟩

theorem upTo_append_dropWhile (c : UInt8) (p : Bytes) : upTo c p ++ p.dropWhile (· ≠ c) = p :=
  List.takeWhile_append_dropWhile

theorem drop_upTo (c : UInt8) (p : Bytes) : p.drop (upTo c p).length = p.dropWhile (· ≠ c) := by
  have h : (upTo c p ++ p.dropWhile (· ≠ c)).drop (upTo c p).length = p.dropWhile (· ≠ c) := List.drop_left
  rwa [upTo_append_dropWhile] at h

/-- `strchr` finds the first `c`. -/
theorem strchr_eq_some {c : UInt8} {p q : Bytes} :
    strchr c p = some q ↔ ∃ rest, q = c :: rest ∧ p = upTo c p ++ q := by
  have hsplit := upTo_append_dropWhile c p
  unfold strchr
  rcases dropWhile_byte c p with hnil | ⟨rest, hcons⟩
  · rw [hnil, List.append_nil] at hsplit
    rw [hnil]
    refine ⟨fun h => absurd h.symm (Option.some_ne_none q), ?_⟩
    rintro ⟨rest, rfl, hp⟩
    rw [hsplit] at hp
    simp at hp
  · rw [hcons]
    constructor
    · rintro h
      obtain rfl := Option.some.inj h
      exact ⟨rest, rfl, by rw [← hcons, hsplit]⟩
    · rintro ⟨rest', -, hp⟩
      rw [hcons] at hsplit
      exact congrArg some (List.append_cancel_left (hsplit.trans hp))

theorem strchr_until {c : UInt8} {word : Bytes} (hword : c ∉ word) (rest : Bytes) :
    strchr c (word ++ c :: rest) = some (c :: rest) := by
  have hstop : ∀ b ∈ (c :: rest).head?, b = c := fun b hb => (Option.some.inj hb).symm
  exact strchr_eq_some.2 ⟨rest, rfl, by rw [upTo_until hword hstop]⟩

/-! ## Searching -/

theorem strstr_isSome (token line : Bytes) : (strstr token line).isSome ↔ token <:+: line := by
  induction line with
  | nil =>
    simp only [strstr, List.infix_nil]
    cases token <;> simp
  | cons c rest ih =>
    simp only [strstr, List.infix_cons_iff]
    split
    · simp_all
    · simp_all

/-- `strstr` finds the first token: there is none before it. -/
theorem strstr_eq_some {token line rest : Bytes} :
    strstr token line = some rest ↔
      token <+: rest ∧ ∃ head, line = head ++ rest ∧ ∀ k < head.length, ¬ token <+: line.drop k := by
  induction line with
  | nil =>
    simp only [strstr, List.isPrefixOf_iff_prefix]
    constructor
    · intro h
      split at h
      · cases h
        exact ⟨‹_›, [], rfl, by simp⟩
      · cases h
    · rintro ⟨h, head, hline, -⟩
      obtain ⟨rfl, rfl⟩ := List.append_eq_nil_iff.1 hline.symm
      simp [h]
  | cons c line ih =>
    simp only [strstr, List.isPrefixOf_iff_prefix]
    by_cases hc : token <+: c :: line
    · rw [if_pos hc]
      constructor
      · intro h
        cases h
        exact ⟨hc, [], rfl, by simp⟩
      · rintro ⟨-, head, hline, hbefore⟩
        cases head with
        | nil => exact congrArg some hline
        | cons d head => exact absurd hc (by simpa using hbefore 0 (by simp))
    · rw [if_neg hc, ih]
      refine and_congr_right fun hrest => ⟨?_, ?_⟩
      · rintro ⟨head, rfl, hbefore⟩
        refine ⟨c :: head, rfl, fun k hk => ?_⟩
        cases k with
        | zero => exact hc
        | succ k => exact hbefore k (by simpa using hk)
      · rintro ⟨head, hline, hbefore⟩
        cases head with
        | nil => exact absurd hrest (by rw [List.nil_append] at hline; rwa [← hline])
        | cons d head =>
          obtain ⟨rfl, rfl⟩ := List.cons.inj hline
          exact ⟨head, rfl, fun k hk => by simpa using hbefore (k + 1) (by simpa using hk)⟩

/-! ## Buffers -/

theorem copyValue_copyValue (size : Nat) (src : Bytes) : copyValue size (copyValue size src) = copyValue size src := by
  simp [copyValue, List.take_take]

theorem copyValue_of_short {size : Nat} {src : Bytes} (h : src.length < size) : copyValue size src = src :=
  List.take_of_length_le (by omega)

end AmBot
