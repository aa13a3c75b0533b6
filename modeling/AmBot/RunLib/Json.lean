import Mathlib.Data.Bool.AllAny
import Mathlib.Data.List.TakeWhile
import Mathlib.Data.List.Infix
import Mathlib.Tactic.Common
/-!
# Texts of objects

The text of an object whose members are all strings. A relation holds of a
text, what the first part of it denotes, and the text that is left. What one
unit of a string (a byte, an escape) stands for is a parameter, so that a
reader with a smaller set of escapes is measured by the same grammar; the units
of JSON itself are one instance.
-/

namespace RunLib

/-- The marks and blanks of a notation, and the units of its strings: the text
of a unit and what it stands for. -/
structure Lexis (α : Type) where
  quote : α
  colon : α
  comma : α
  left : α
  right : α
  blank : α → Bool
  unit : List α → List α → Prop

namespace Lexis

variable {α : Type} (L : Lexis α)

/-- The text between the quotes of a string, and the value it stands for. -/
inductive Spells : List α → List α → Prop
  | nil : Spells [] []
  | unit {t v ts vs : List α} : L.unit t v → Spells ts vs → Spells (t ++ ts) (v ++ vs)

/-- `p` is a string that stands for `v`, and then `q`. -/
def Str (p v q : List α) : Prop := ∃ t, p = L.quote :: (t ++ L.quote :: q) ∧ L.Spells t v

/-- `p` is blanks, and then `q`. -/
def Blanks (p q : List α) : Prop := ∃ s, (∀ c ∈ s, L.blank c = true) ∧ p = s ++ q

/-- `p` is the mark `c` between blanks, and then `q`. -/
def Mark (c : α) (p q : List α) : Prop := ∃ r, L.Blanks p (c :: r) ∧ L.Blanks r q

/-- `p` is a member, a key and a string, and then `q`. -/
def Member (p : List α) (m : List α × List α) (q : List α) : Prop :=
  ∃ r r', L.Str p m.1 r ∧ L.Mark L.colon r r' ∧ L.Str r' m.2 q

/-- `p` is members, each with a comma after it, and then `q`. -/
inductive Before : List α → List (List α × List α) → List α → Prop
  | nil {p : List α} : Before p [] p
  | member {p m r r' ms q} : L.Member p m r → L.Mark L.comma r r' → Before r' ms q → Before p (m :: ms) q

/-- `p` is one or more members with commas between them, and then `q`. -/
def Members (p : List α) (ms : List (List α × List α)) (q : List α) : Prop :=
  ∃ first r last, L.Before p first r ∧ L.Member r last q ∧ ms = first ++ [last]

/-- The whole text is one object with these members, up to blanks. -/
def Object (p : List α) (ms : List (List α × List α)) : Prop :=
  ∃ r q, L.Mark L.left p r ∧ L.Members r ms q ∧ L.Mark L.right q []

variable {L}

/-! ## Blanks -/

theorem Blanks.rfl (p : List α) : L.Blanks p p := ⟨[], by simp, by simp⟩

theorem blanks_dropWhile (p : List α) : L.Blanks p (p.dropWhile L.blank) :=
  ⟨p.takeWhile L.blank, fun _ h => List.mem_takeWhile_imp h, List.takeWhile_append_dropWhile.symm⟩

/-- Skipping blanks stops where a text that is not blank begins. -/
theorem Blanks.dropWhile_eq {p q : List α} (h : L.Blanks p q) (hq : q.dropWhile L.blank = q) :
    p.dropWhile L.blank = q := by
  obtain ⟨s, hs, rfl⟩ := h
  rw [List.dropWhile_append_of_pos hs, hq]

/-- What is left when the blanks on both sides of a mark are skipped. -/
theorem mark_skip {c : α} {p r : List α} (h : p.dropWhile L.blank = c :: r) : L.Mark c p (r.dropWhile L.blank) :=
  ⟨r, h ▸ blanks_dropWhile p, blanks_dropWhile r⟩

/-- A mark is found by skipping the blanks before it and those after it. -/
theorem mark_iff {c : α} {p q : List α} (hc : L.blank c = false) (hq : q.dropWhile L.blank = q) :
    L.Mark c p q ↔ ∃ r, p.dropWhile L.blank = c :: r ∧ r.dropWhile L.blank = q := by
  constructor
  · rintro ⟨r, hp, hr⟩
    exact ⟨r, hp.dropWhile_eq (by simp [hc]), hr.dropWhile_eq hq⟩
  · rintro ⟨r, hp, rfl⟩
    exact mark_skip hp

/-! ## Strings -/

theorem Str.dropWhile_eq {p v q : List α} (h : L.Str p v q) (hb : L.blank L.quote = false) :
    p.dropWhile L.blank = p := by
  obtain ⟨t, rfl, -⟩ := h
  simp [hb]

theorem Str.length_lt {p v q : List α} (h : L.Str p v q) : q.length < p.length := by
  obtain ⟨t, rfl, -⟩ := h
  simp only [List.length_cons, List.length_append]
  omega

theorem Blanks.length_le {p q : List α} (h : L.Blanks p q) : q.length ≤ p.length := by
  obtain ⟨s, -, rfl⟩ := h
  simp

theorem Mark.length_lt {c : α} {p q : List α} (h : L.Mark c p q) : q.length < p.length := by
  obtain ⟨r, hp, hr⟩ := h
  have h₁ := hp.length_le
  have h₂ := hr.length_le
  rw [List.length_cons] at h₁
  omega

theorem Member.length_lt {p q : List α} {m : List α × List α} (h : L.Member p m q) : q.length < p.length := by
  obtain ⟨r, r', hk, hmark, hv⟩ := h
  have h₁ := hk.length_lt
  have h₂ := hmark.length_lt
  have h₃ := hv.length_lt
  omega

theorem Str.suffix {p v q : List α} (h : L.Str p v q) : q <:+ p := by
  obtain ⟨t, rfl, -⟩ := h
  exact ⟨L.quote :: (t ++ [L.quote]), by simp⟩

theorem Blanks.suffix {p q : List α} (h : L.Blanks p q) : q <:+ p := by
  obtain ⟨s, -, rfl⟩ := h
  exact List.suffix_append s q

theorem Mark.suffix {c : α} {p q : List α} (h : L.Mark c p q) : q <:+ p := by
  obtain ⟨r, hp, hr⟩ := h
  exact (hr.suffix.trans (List.suffix_cons c r)).trans hp.suffix

theorem Member.suffix {p q : List α} {m : List α × List α} (h : L.Member p m q) : q <:+ p := by
  obtain ⟨r, r', hk, hmark, hv⟩ := h
  exact (hv.suffix.trans hmark.suffix).trans hk.suffix

/-- A text that begins with a member, or with members, is not blank where it
begins. -/
theorem Member.dropWhile_eq {p q : List α} {m : List α × List α} (h : L.Member p m q) (hb : L.blank L.quote = false) :
    p.dropWhile L.blank = p := by
  obtain ⟨r, r', hk, -, -⟩ := h
  exact hk.dropWhile_eq hb

theorem Before.dropWhile_eq {p q : List α} {ms : List (List α × List α)} (h : L.Before p ms q)
    (hb : L.blank L.quote = false) (hq : q.dropWhile L.blank = q) : p.dropWhile L.blank = p := by
  cases h with
  | nil => exact hq
  | member hm _ _ => exact hm.dropWhile_eq hb

/-- Text in which every element stands for itself. -/
theorem Spells.plain {t : List α} (h : ∀ c ∈ t, L.unit [c] [c]) : L.Spells t t := by
  induction t with
  | nil => exact .nil
  | cons c t ih =>
    have hc : L.unit [c] [c] := h c (by simp)
    exact .unit hc (ih fun d hd => h d (by simp [hd]))

/-! ## Values -/

/-- What holds of the symbols every unit stands for holds of the symbols of a value. -/
theorem Spells.all {t v : List α} {P : α → Prop} (h : L.Spells t v) (hunit : ∀ t v, L.unit t v → ∀ c ∈ v, P c) :
    ∀ c ∈ v, P c := by
  induction h with
  | nil => exact fun c hc => absurd hc List.not_mem_nil
  | unit hu _ ih =>
    intro c hc
    rcases List.mem_append.1 hc with hc | hc
    · exact hunit _ _ hu c hc
    · exact ih c hc

theorem Before.spelled {p q : List α} {ms : List (List α × List α)} (h : L.Before p ms q) :
    ∀ m ∈ ms, ∃ t, L.Spells t m.2 := by
  induction h with
  | nil => exact fun m hm => absurd hm List.not_mem_nil
  | member hmember _ _ ih =>
    obtain ⟨r, r', -, -, t, -, hspells⟩ := hmember
    intro m hm
    rcases List.mem_cons.1 hm with rfl | hm
    · exact ⟨t, hspells⟩
    · exact ih m hm

/-- The values of an object are spelled in it. -/
theorem Object.spelled {p : List α} {ms : List (List α × List α)} (h : L.Object p ms) :
    ∀ m ∈ ms, ∃ t, L.Spells t m.2 := by
  obtain ⟨r, q, -, ⟨first, s, last, hfirst, ⟨k, k', -, -, t, -, hlast⟩, rfl⟩, -⟩ := h
  intro m hm
  rcases List.mem_append.1 hm with hm | hm
  · exact hfirst.spelled m hm
  · obtain rfl := List.mem_singleton.1 hm
    exact ⟨t, hlast⟩

end Lexis

/-! ## JSON -/

/-- The value of a hexadecimal digit. -/
def hexDigit (c : UInt8) : Option Nat :=
  if 48 ≤ c ∧ c ≤ 57 then some (c.toNat - 48)
  else if 65 ≤ c ∧ c ≤ 70 then some (c.toNat - 55)
  else if 97 ≤ c ∧ c ≤ 102 then some (c.toNat - 87)
  else none

/-- Four hexadecimal digits. -/
inductive Hex4 : List UInt8 → Nat → Prop
  | mk {c₃ c₂ c₁ c₀ : UInt8} {d₃ d₂ d₁ d₀ : Nat} : hexDigit c₃ = some d₃ → hexDigit c₂ = some d₂ →
      hexDigit c₁ = some d₁ → hexDigit c₀ = some d₀ →
      Hex4 [c₃, c₂, c₁, c₀] (4096 * d₃ + 256 * d₂ + 16 * d₁ + d₀)

/-- The encoding of a code point in one to four bytes. -/
def utf8 (n : Nat) : List UInt8 :=
  if n < 0x80 then [UInt8.ofNat n]
  else if n < 0x800 then [UInt8.ofNat (0xC0 + n / 64), UInt8.ofNat (0x80 + n % 64)]
  else if n < 0x10000 then
    [UInt8.ofNat (0xE0 + n / 4096), UInt8.ofNat (0x80 + n / 64 % 64), UInt8.ofNat (0x80 + n % 64)]
  else
    [UInt8.ofNat (0xF0 + n / 262144), UInt8.ofNat (0x80 + n / 4096 % 64), UInt8.ofNat (0x80 + n / 64 % 64),
      UInt8.ofNat (0x80 + n % 64)]

/-- The escapes of two bytes. -/
def jsonEscapes : List (UInt8 × UInt8) :=
  [(34, 34), (92, 92), (47, 47), (98, 8), (102, 12), (110, 10), (114, 13), (116, 9)]

/-- A byte that stands for itself: the bytes of characters outside ASCII do. -/
def Unescaped (c : UInt8) : Prop := 32 ≤ c ∧ c ≠ 34 ∧ c ≠ 92

instance : DecidablePred Unescaped := fun c => inferInstanceAs (Decidable (32 ≤ c ∧ c ≠ 34 ∧ c ≠ 92))

/-- Whether a given text is written as it is can be computed. -/
theorem unescaped_of_all {s : List UInt8} (h : s.all (Unescaped ·) = true) : ∀ c ∈ s, Unescaped c :=
  List.all_iff_forall_prop.1 h

/-- The units of a JSON string, over the bytes of its encoding. -/
inductive JsonUnit : List UInt8 → List UInt8 → Prop
  | plain {c : UInt8} : Unescaped c → JsonUnit [c] [c]
  | escape {d c : UInt8} : (d, c) ∈ jsonEscapes → JsonUnit [92, d] [c]
  | code {ds : List UInt8} {n : Nat} : Hex4 ds n → (n < 0xD800 ∨ 0xE000 ≤ n) → JsonUnit ([92, 117] ++ ds) (utf8 n)
  | pair {hs ls : List UInt8} {h l : Nat} : Hex4 hs h → Hex4 ls l → 0xD800 ≤ h → h < 0xDC00 → 0xDC00 ≤ l →
      l < 0xE000 → JsonUnit ([92, 117] ++ hs ++ [92, 117] ++ ls) (utf8 (0x10000 + (h - 0xD800) * 0x400 + (l - 0xDC00)))

def json : Lexis UInt8 :=
  { quote := 34, colon := 58, comma := 44, left := 123, right := 125,
    blank := fun c => c = 32 || c = 9 || c = 10 || c = 13, unit := JsonUnit }

/-- A text in which every byte stands for itself. -/
theorem plain_spells {t : List UInt8} (h : ∀ c ∈ t, Unescaped c) : json.Spells t t :=
  Lexis.Spells.plain fun c hc => JsonUnit.plain (h c hc)

theorem hex4_length {ds : List UInt8} {n : Nat} (h : Hex4 ds n) : ds.length = 4 ∧ 34 ∉ ds := by
  cases h with
  | @mk c₃ c₂ c₁ c₀ _ _ _ _ h₃ h₂ h₁ h₀ =>
    refine ⟨rfl, ?_⟩
    have hquote : hexDigit 34 = none := by decide
    intro hmem
    simp only [List.mem_cons, List.not_mem_nil, or_false] at hmem
    rcases hmem with rfl | rfl | rfl | rfl <;> simp_all

theorem utf8_length (n : Nat) : (utf8 n).length ≤ 4 := by
  unfold utf8
  split
  · simp
  · split
    · simp
    · split <;> simp

/-- An escape is longer than what it stands for. -/
theorem JsonUnit.length {t v : List UInt8} (h : JsonUnit t v) :
    v.length < t.length ∨ ∃ c, t = [c] ∧ v = [c] ∧ Unescaped c := by
  cases h with
  | plain hc => exact .inr ⟨_, rfl, rfl, hc⟩
  | escape => exact .inl (by simp)
  | @code ds n hds =>
    have h₁ := (hex4_length hds).1
    have h₂ := utf8_length n
    exact .inl (by simp only [List.length_append, List.length_cons, List.length_nil]; omega)
  | @pair hs ls h l hhs hls =>
    have h₁ := (hex4_length hhs).1
    have h₂ := (hex4_length hls).1
    have h₃ := utf8_length (0x10000 + (h - 0xD800) * 0x400 + (l - 0xDC00))
    exact .inl (by simp only [List.length_append, List.length_cons, List.length_nil]; omega)

/-- A quote in a unit is the second byte of an escape. -/
theorem JsonUnit.quote {t v a b : List UInt8} (h : JsonUnit t v) (ht : t = a ++ 34 :: b) : a = [92] := by
  cases h with
  | @plain c hc =>
    cases a with
    | nil => exact absurd (List.cons.inj ht).1 hc.2.1
    | cons _ a => simp at ht
  | @escape d c =>
    cases a with
    | nil => exact absurd (List.cons.inj ht).1 (by decide)
    | cons x a =>
      cases a with
      | nil => rw [(List.cons.inj ht).1]
      | cons _ a => simp at ht
  | code hds =>
    have hmem : (34 : UInt8) ∈ [92, 117] ++ _ := ht ▸ List.mem_append_right a (List.mem_cons_self)
    simp [(hex4_length hds).2] at hmem
  | pair hhs hls =>
    have hmem : (34 : UInt8) ∈ [92, 117] ++ _ ++ [92, 117] ++ _ := ht ▸ List.mem_append_right a (List.mem_cons_self)
    simp [(hex4_length hhs).2, (hex4_length hls).2] at hmem

/-! ## Strings of JSON -/

theorem json_length {t v : List UInt8} (h : json.Spells t v) : v.length ≤ t.length := by
  induction h with
  | nil => exact Nat.le_refl _
  | unit hu _ ih =>
    rw [List.length_append, List.length_append]
    rcases JsonUnit.length hu with hlt | ⟨c, rfl, rfl, -⟩
    · omega
    · simpa using ih

/-- A string no longer than its value is its value, and has nothing in it that
would need an escape. -/
theorem json_same {t v : List UInt8} (h : json.Spells t v) (hlen : t.length ≤ v.length) :
    t = v ∧ ∀ c ∈ t, Unescaped c := by
  induction h with
  | nil => exact ⟨rfl, by simp⟩
  | unit hu hrest ih =>
    have hle := json_length hrest
    rw [List.length_append, List.length_append] at hlen
    rcases JsonUnit.length hu with hlt | ⟨c, rfl, rfl, hc⟩
    · omega
    · obtain ⟨rfl, hall⟩ := ih (by simpa using hlen)
      exact ⟨rfl, by simpa [hc] using hall⟩

/-- A string without a backslash is its value. -/
theorem json_unescaped {t v : List UInt8} (h : json.Spells t v) (ht : 92 ∉ t) : t = v := by
  induction h with
  | nil => rfl
  | unit hu _ ih =>
    rw [List.mem_append, not_or] at ht
    have hplain := ht.1
    rw [ih ht.2]
    cases hu with
    | plain => rfl
    | escape => exact absurd List.mem_cons_self hplain
    | code => exact absurd (by simp) hplain
    | pair => exact absurd (by simp) hplain

/-- A quote within a string has a backslash before it. -/
theorem json_quote {t v a b : List UInt8} (h : json.Spells t v) (ht : t = a ++ 34 :: b) : ∃ a', a = a' ++ [92] := by
  induction h generalizing a with
  | nil => simp at ht
  | @unit t _ ts _ hu _ ih =>
    rcases List.append_eq_append_iff.1 ht with ⟨a', rfl, hts⟩ | ⟨c, rfl, hb⟩
    · obtain ⟨a'', rfl⟩ := ih hts
      exact ⟨t ++ a'', by simp⟩
    · cases c with
      | nil =>
        obtain ⟨a', hnil⟩ := ih (a := []) (by simpa using hb.symm)
        simp at hnil
      | cons d c =>
        obtain ⟨rfl, -⟩ := List.cons.inj hb
        exact ⟨[], JsonUnit.quote hu rfl⟩

/-- A string ends at the first quote, where no backslash is before it. -/
theorem json_ends {t v q a r : List UInt8} (h : json.Spells t v) (heq : t ++ 34 :: q = a ++ 34 :: r) (ha : 34 ∉ a)
    (hb : ∀ a', a ≠ a' ++ [92]) : t = a ∧ q = r := by
  rcases List.append_eq_append_iff.1 heq with ⟨b, rfl, hb'⟩ | ⟨b, rfl, hb'⟩
  · cases b with
    | nil => exact ⟨by simp, by simpa using hb'⟩
    | cons c b =>
      obtain ⟨rfl, -⟩ := List.cons.inj hb'
      exact absurd (by simp) ha
  · cases b with
    | nil => exact ⟨by simp, by simpa using hb'.symm⟩
    | cons c b =>
      obtain ⟨rfl, -⟩ := List.cons.inj hb'
      obtain ⟨a', rfl⟩ := json_quote h rfl
      exact absurd rfl (hb a')

end RunLib
