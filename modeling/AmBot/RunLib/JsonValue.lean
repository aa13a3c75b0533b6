import AmBot.RunLib.Json
import Mathlib.Data.Rat.Defs
import Mathlib.Algebra.Order.Field.Basic
/-!
# JSON texts

Every JSON value, and which texts stand for it. A text is cut into its parts,
the blanks of each among them, so that a member of an object comes with the
text of its value.
-/

namespace RunLib.Json

/-- A JSON value. An object keeps its members in order, and a key may occur
more than once. -/
inductive Value where
  | null
  | bool (b : Bool)
  | number (q : ℚ)
  | string (s : List UInt8)
  | array (items : List Value)
  | object (entries : List (List UInt8 × Value))

def Value.string? : Value → Option (List UInt8)
  | .string s => some s
  | _ => none

def Value.number? : Value → Option ℚ
  | .number q => some q
  | _ => none

/-! ## Numbers -/

/-- Digits, and the number they write. -/
inductive Digits : List UInt8 → ℕ → Prop
  | one {c : UInt8} : 48 ≤ c → c ≤ 57 → Digits [c] (c.toNat - 48)
  | more {ds : List UInt8} {n : ℕ} {c : UInt8} : Digits ds n → 48 ≤ c → c ≤ 57 → Digits (ds ++ [c]) (10 * n + (c.toNat - 48))

/-- The part before the point has no zeros in front. -/
def Whole (t : List UInt8) (n : ℕ) : Prop := Digits t n ∧ (t.head? = some 48 → t = [48])

inductive Fraction : List UInt8 → ℚ → Prop
  | none : Fraction [] 0
  | digits {ds : List UInt8} {n : ℕ} : Digits ds n → Fraction (46 :: ds) (n / 10 ^ ds.length)

inductive Exponent : List UInt8 → ℤ → Prop
  | none : Exponent [] 0
  | plain {e : UInt8} {ds : List UInt8} {n : ℕ} : e ∈ [69, 101] → Digits ds n → Exponent (e :: ds) n
  | plus {e : UInt8} {ds : List UInt8} {n : ℕ} : e ∈ [69, 101] → Digits ds n → Exponent (e :: 43 :: ds) n
  | minus {e : UInt8} {ds : List UInt8} {n : ℕ} : e ∈ [69, 101] → Digits ds n → Exponent (e :: 45 :: ds) (-n)

inductive Number : List UInt8 → ℚ → Prop
  | plus {w f e : List UInt8} {n : ℕ} {r : ℚ} {k : ℤ} : Whole w n → Fraction f r → Exponent e k →
      Number (w ++ f ++ e) ((n + r) * 10 ^ k)
  | minus {w f e : List UInt8} {n : ℕ} {r : ℚ} {k : ℤ} : Whole w n → Fraction f r → Exponent e k →
      Number (45 :: (w ++ f ++ e)) (-((n + r) * 10 ^ k))

/-! ## Texts -/

def Blank (s : List UInt8) : Prop := ∀ c ∈ s, json.blank c = true

/-- A string between its quotes. -/
def quoted (t : List UInt8) : List UInt8 := 34 :: (t ++ [34])

/-- A value in an array: its text between blanks. -/
structure Item where
  before : List UInt8 := []
  text : List UInt8
  value : Value
  after : List UInt8 := []

def Item.write (i : Item) : List UInt8 := i.before ++ i.text ++ i.after

def Item.Laid (i : Item) : Prop := Blank i.before ∧ Blank i.after

/-- A member of an object: a key and how it is written, a value and its text,
and the blanks around both. -/
structure Member where
  before : List UInt8 := []
  key : List UInt8
  keyText : List UInt8 := key
  afterKey : List UInt8 := []
  beforeValue : List UInt8 := []
  text : List UInt8
  value : Value
  after : List UInt8 := []

def Member.write (m : Member) : List UInt8 :=
  m.before ++ quoted m.keyText ++ m.afterKey ++ 58 :: (m.beforeValue ++ m.text ++ m.after)

structure Member.Laid (m : Member) : Prop where
  before : Blank m.before
  key : json.Spells m.keyText m.key
  afterKey : Blank m.afterKey
  beforeValue : Blank m.beforeValue
  after : Blank m.after

/-- What a member says. -/
def Member.entry (m : Member) : List UInt8 × Value := (m.key, m.value)

/-- The text of a value, without the blanks around it. -/
inductive Text : List UInt8 → Value → Prop
  | null : Text [110, 117, 108, 108] .null
  | true : Text [116, 114, 117, 101] (.bool .true)
  | false : Text [102, 97, 108, 115, 101] (.bool .false)
  | number {t : List UInt8} {q : ℚ} : Number t q → Text t (.number q)
  | string {t s : List UInt8} : json.Spells t s → Text (quoted t) (.string s)
  | emptyArray {w : List UInt8} : Blank w → Text (91 :: (w ++ [93])) (.array [])
  | array {is : List Item} : is ≠ [] → (∀ i ∈ is, i.Laid) → (∀ i ∈ is, Text i.text i.value) →
      Text (91 :: ([44].intercalate (is.map Item.write) ++ [93])) (.array (is.map Item.value))
  | emptyObject {w : List UInt8} : Blank w → Text (123 :: (w ++ [125])) (.object [])
  | object {ms : List Member} : ms ≠ [] → (∀ m ∈ ms, m.Laid) → (∀ m ∈ ms, Text m.text m.value) →
      Text (123 :: ([44].intercalate (ms.map Member.write) ++ [125])) (.object (ms.map Member.entry))

/-- The members of an object between its braces. -/
inductive Members : List UInt8 → List Member → Prop
  | none {w : List UInt8} : Blank w → Members w []
  | some {ms : List Member} : ms ≠ [] → (∀ m ∈ ms, m.Laid) → (∀ m ∈ ms, Text m.text m.value) →
      Members ([44].intercalate (ms.map Member.write)) ms

/-- The whole text is one object with these members, with blanks around it. -/
def Object (text : List UInt8) (ms : List Member) : Prop :=
  ∃ a t b, Blank a ∧ Members t ms ∧ Blank b ∧ text = a ++ 123 :: (t ++ 125 :: b)

/-- The member with this key; of several, the last. -/
def member (ms : List Member) (key : List UInt8) : Option Member := ms.reverse.find? (·.key = key)

/-- The value an object has under this key. -/
def field (ms : List Member) (key : List UInt8) : Option Value := (member ms key).map Member.value

/-! ## Reading a text -/

theorem Text.string_inv {t s : List UInt8} (h : Text t (.string s)) : ∃ r, t = quoted r ∧ json.Spells r s := by
  cases h with
  | string h => exact ⟨_, rfl, h⟩

theorem Object.text {text : List UInt8} {ms : List Member} (h : Object text ms) :
    ∀ m ∈ ms, Text m.text m.value := by
  obtain ⟨a, t, b, -, hmembers, -, -⟩ := h
  cases hmembers with
  | none => exact fun m hm => absurd hm List.not_mem_nil
  | some _ _ htext => exact htext

theorem within_intercalate {x sep : List UInt8} {xs : List (List UInt8)} (h : x ∈ xs) : x <:+: sep.intercalate xs := by
  induction xs with
  | nil => exact absurd h List.not_mem_nil
  | cons y ys ih =>
    cases ys with
    | nil =>
      obtain rfl := List.mem_singleton.1 h
      rw [List.intercalate_singleton]
    | cons z zs =>
      rw [List.intercalate_cons_cons]
      rcases List.mem_cons.1 h with rfl | h
      · exact ⟨[], sep ++ sep.intercalate (z :: zs), by simp⟩
      · exact (ih h).trans (List.suffix_append _ _).isInfix

/-- The texts of the values are in the text of the object. -/
theorem Object.within {text : List UInt8} {ms : List Member} (h : Object text ms) {m : Member} (hm : m ∈ ms) :
    m.text <:+: text := by
  obtain ⟨a, t, b, -, hmembers, -, rfl⟩ := h
  cases hmembers with
  | none => exact absurd hm List.not_mem_nil
  | some =>
    have hwrite : m.text <:+: m.write :=
      ⟨m.before ++ quoted m.keyText ++ m.afterKey ++ 58 :: m.beforeValue, m.after, by simp [Member.write]⟩
    have hmember : m.text <:+: [44].intercalate (ms.map Member.write) :=
      hwrite.trans (within_intercalate (List.mem_map_of_mem hm))
    exact hmember.trans ⟨a ++ [123], 125 :: b, by simp⟩

theorem member_mem {ms : List Member} {key : List UInt8} {m : Member} (h : member ms key = some m) : m ∈ ms :=
  List.mem_reverse.1 (List.mem_of_find?_eq_some h)

/-- A member under another key is not looked at. -/
theorem field_cons_ne {ms : List Member} {m : Member} {key : List UInt8} (h : m.key ≠ key) :
    field (m :: ms) key = field ms key := by
  simp [field, member, List.find?_append, h]

/-! ## Texts without blanks -/

theorem blank_nil : Blank [] := fun _ h => absurd h List.not_mem_nil

theorem plain_text {s : List UInt8} (h : ∀ c ∈ s, Unescaped c) : Text (quoted s) (.string s) := .string (plain_spells h)

/-- A member without blanks, with a key that stands for itself. -/
def Member.Compact (m : Member) : Prop :=
  (∀ c ∈ m.key, Unescaped c) ∧ m = { key := m.key, text := m.text, value := m.value }

theorem Member.Compact.laid {m : Member} (h : m.Compact) : m.Laid := by
  obtain ⟨hkey, heq⟩ := h
  rw [heq]
  exact ⟨blank_nil, plain_spells hkey, blank_nil, blank_nil, blank_nil⟩

/-- An object without blanks. -/
def objectText (ms : List Member) : List UInt8 := 123 :: ([44].intercalate (ms.map Member.write) ++ [125])

/-- Members that can stand in an object without blanks. -/
def Written (ms : List Member) : Prop := ms ≠ [] ∧ ∀ m ∈ ms, m.Compact ∧ Text m.text m.value

theorem Written.object {ms : List Member} (h : Written ms) : Object (objectText ms) ms := by
  refine ⟨[], _, [], blank_nil, .some h.1 (fun m hm => (h.2 m hm).1.laid) fun m hm => (h.2 m hm).2, blank_nil, ?_⟩
  rfl

theorem Written.text {ms : List Member} (h : Written ms) : Text (objectText ms) (.object (ms.map Member.entry)) :=
  .object h.1 (fun m hm => (h.2 m hm).1.laid) fun m hm => (h.2 m hm).2

/-- An array without blanks. -/
def arrayText (ts : List (List UInt8 × Value)) : List UInt8 := 91 :: ([44].intercalate (ts.map Prod.fst) ++ [93])

theorem array_text {ts : List (List UInt8 × Value)} (hne : ts ≠ []) (h : ∀ t ∈ ts, Text t.1 t.2) :
    Text (arrayText ts) (.array (ts.map Prod.snd)) := by
  have harray : Text (91 :: ([44].intercalate ((ts.map fun t => { text := t.1, value := t.2 : Item }).map Item.write) ++ [93]))
      (.array ((ts.map fun t => { text := t.1, value := t.2 : Item }).map Item.value)) := by
    refine .array (by simpa using hne) (fun i hi => ?_) fun i hi => ?_
    · obtain ⟨t, -, rfl⟩ := List.mem_map.1 hi
      exact ⟨blank_nil, blank_nil⟩
    · obtain ⟨t, ht, rfl⟩ := List.mem_map.1 hi
      exact h t ht
  have hwrite : (Item.write ∘ fun t : List UInt8 × Value => { text := t.1, value := t.2 : Item }) = Prod.fst := by
    funext t
    simp [Item.write]
  rw [List.map_map, List.map_map, hwrite] at harray
  exact harray

/-- `1` is a number. -/
theorem number_one : Number [49] 1 := by
  have hwhole : Whole [49] 1 := ⟨.one (by decide) (by decide), fun h => absurd h (by decide)⟩
  have hone : Number ([49] ++ [] ++ []) (((1 : ℕ) + 0) * 10 ^ (0 : ℤ)) := .plus hwhole .none .none
  simpa using hone

end RunLib.Json
