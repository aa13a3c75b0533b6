import Mathlib.Data.List.Basic
/-!
# Requests and their answers in a log

A log owes an answer while it has a `p` with no `r` after it. `Until p r q`
says that no `q` is logged while one is owed: after each `p`, no `q` until an
`r`. `Lawful law` says of every entry what the log before it must be. All are
read off a log one entry at a time.
-/

namespace RunLib

variable {O : Type} {p r q : O → Prop} {t : List O} {o : O}

/-- Some `p` with no `r` after it. -/
def Owed (p r : O → Prop) (t : List O) : Prop :=
  ∃ before x after, t = before ++ x :: after ∧ p x ∧ ∀ y ∈ after, ¬ r y

/-- After each `p`, no `q` until an `r`. -/
def Until (p r q : O → Prop) (t : List O) : Prop :=
  ∀ before x after, t = before ++ x :: after → q x → ¬ Owed p r before

/-- An entry of a log in two parts is one of the second or of the first. -/
theorem append_eq_append_cons {t' before after : List O} {x : O} (h : t ++ t' = before ++ x :: after) :
    (∃ mid, before = t ++ mid ∧ t' = mid ++ x :: after) ∨ ∃ mid, after = mid ++ t' ∧ t = before ++ x :: mid := by
  rcases List.append_eq_append_iff.1 h with ⟨mid, rfl, hmid⟩ | ⟨mid, rfl, hmid⟩
  · -- `before` is at least as long as `t`
    exact .inl ⟨mid, rfl, hmid⟩
  · cases mid with
    | nil => exact .inl ⟨[], by simp, hmid.symm⟩
    | cons y mid =>
      obtain ⟨rfl, rfl⟩ := List.cons.inj hmid
      exact .inr ⟨mid, rfl, rfl⟩

/-- An entry of a longer log is its last one or an entry of the log before. -/
theorem snoc_eq_append_cons {before after : List O} {x : O} (h : t ++ [o] = before ++ x :: after) :
    (before = t ∧ x = o ∧ after = []) ∨ ∃ after', after = after' ++ [o] ∧ t = before ++ x :: after' := by
  rcases append_eq_append_cons h with ⟨mid, rfl, hmid⟩ | hfirst
  · cases mid with
    | nil =>
      cases hmid
      exact .inl ⟨List.append_nil t, rfl, rfl⟩
    | cons y mid => simp at hmid
  · exact .inr hfirst

theorem not_owed_nil : ¬ Owed p r [] := by
  rintro ⟨before, x, after, h, -⟩
  cases before <;> cases h

theorem owed_snoc : Owed p r (t ++ [o]) ↔ p o ∨ (Owed p r t ∧ ¬ r o) := by
  constructor
  · rintro ⟨before, x, after, h, hp, hr⟩
    rcases snoc_eq_append_cons h with ⟨-, rfl, -⟩ | ⟨after', rfl, ht⟩
    · exact .inl hp
    · exact .inr ⟨⟨before, x, after', ht, hp, fun y hy => hr y (List.mem_append_left _ hy)⟩,
        hr o (List.mem_append_right _ (List.mem_singleton.2 rfl))⟩
  · rintro (hp | ⟨⟨before, x, after, rfl, hp, hr⟩, ho⟩)
    · exact ⟨t, o, [], rfl, hp, fun _ hy => absurd hy List.not_mem_nil⟩
    · refine ⟨before, x, after ++ [o], by simp, hp, fun y hy => ?_⟩
      rcases List.mem_append.1 hy with hy | hy
      · exact hr y hy
      · rw [List.mem_singleton.1 hy]
        exact ho

theorem until_nil : Until p r q [] := by
  intro before x after h
  cases before <;> cases h

theorem until_snoc : Until p r q (t ++ [o]) ↔ Until p r q t ∧ (q o → ¬ Owed p r t) := by
  constructor
  · intro h
    exact ⟨fun before x after ht => h before x (after ++ [o]) (by simp [ht]), h t o [] rfl⟩
  · rintro ⟨h, ho⟩ before x after ht
    rcases snoc_eq_append_cons ht with ⟨rfl, rfl, -⟩ | ⟨after', -, ht'⟩
    · exact ho
    · exact h before x after' ht'

/-! ## Laws of a log -/

/-- Every entry meets `law`, given the log before it. -/
def Lawful (law : List O → O → Prop) (t : List O) : Prop := ∀ before x after, t = before ++ x :: after → law before x

/-- Some `p` with a `q` after it. -/
def After (p q : O → Prop) (t : List O) : Prop := ∃ before x after, t = before ++ x :: after ∧ p x ∧ ∃ y ∈ after, q y

section
variable {law : List O → O → Prop}

theorem lawful_nil : Lawful law [] := by
  intro before x after h
  cases before <;> cases h

theorem lawful_snoc : Lawful law (t ++ [o]) ↔ Lawful law t ∧ law t o := by
  constructor
  · intro h
    exact ⟨fun before x after ht => h before x (after ++ [o]) (by simp [ht]), h t o [] rfl⟩
  · rintro ⟨h, ho⟩ before x after ht
    rcases snoc_eq_append_cons ht with ⟨rfl, rfl, -⟩ | ⟨after', -, ht'⟩
    · exact ho
    · exact h before x after' ht'

/-- A log is lawful where its first part is, and each entry after that meets
the law. -/
theorem lawful_append {t' : List O} :
    Lawful law (t ++ t') ↔ Lawful law t ∧ Lawful (fun before => law (t ++ before)) t' := by
  constructor
  · intro h
    refine ⟨fun before x after ht => h before x (after ++ t') (by simp [ht]), fun before x after ht => ?_⟩
    exact h (t ++ before) x after (by simp [ht])
  · rintro ⟨h, h'⟩ before x after ht
    rcases append_eq_append_cons ht with ⟨mid, rfl, hmid⟩ | ⟨mid, -, hmid⟩
    · -- the entry is one of `t'`
      exact h' mid x after hmid
    · exact h before x mid hmid

theorem Lawful.mono {law' : List O → O → Prop} (h : Lawful law t)
    (hlaw : ∀ before x, before <+: t → x ∈ t → law before x → law' before x) : Lawful law' t := by
  rintro before x after rfl
  exact hlaw before x (List.prefix_append _ _) (by simp) (h before x after rfl)

theorem not_after_nil : ¬ After p q [] := by
  rintro ⟨before, x, after, h, -⟩
  cases before <;> cases h

theorem After.append (h : After p q t) (t' : List O) : After p q (t ++ t') := by
  obtain ⟨before, x, after, rfl, hp, y, hy, hq⟩ := h
  exact ⟨before, x, after ++ t', by simp, hp, y, by simp [hy], hq⟩

theorem after_snoc : After p q (t ++ [o]) ↔ After p q t ∨ (q o ∧ ∃ x ∈ t, p x) := by
  constructor
  · rintro ⟨before, x, after, h, hp, y, hy, hq⟩
    rcases snoc_eq_append_cons h with ⟨-, -, rfl⟩ | ⟨after', rfl, ht⟩
    · exact absurd hy List.not_mem_nil
    · rcases List.mem_append.1 hy with hy | hy
      · exact .inl ⟨before, x, after', ht, hp, y, hy, hq⟩
      · rw [List.mem_singleton.1 hy] at hq
        exact .inr ⟨hq, x, by simp [ht], hp⟩
  · rintro (⟨before, x, after, rfl, hp, y, hy, hq⟩ | ⟨hq, x, hx, hp⟩)
    · exact ⟨before, x, after ++ [o], by simp, hp, y, by simp [hy], hq⟩
    · obtain ⟨before, after, rfl⟩ := List.append_of_mem hx
      exact ⟨before, x, after ++ [o], by simp, hp, o, by simp, hq⟩

end

/-! ## Deciding them on a given log -/

theorem owed_cons : Owed p r (o :: t) ↔ (p o ∧ ∀ y ∈ t, ¬ r y) ∨ Owed p r t := by
  constructor
  · rintro ⟨before, x, after, h, hp, hr⟩
    cases before with
    | nil =>
      cases h
      exact .inl ⟨hp, hr⟩
    | cons z before =>
      cases h
      exact .inr ⟨before, x, after, rfl, hp, hr⟩
  · rintro (⟨hp, hr⟩ | ⟨before, x, after, rfl, hp, hr⟩)
    · exact ⟨[], o, t, rfl, hp, hr⟩
    · exact ⟨o :: before, x, after, rfl, hp, hr⟩

theorem after_cons : After p q (o :: t) ↔ (p o ∧ ∃ y ∈ t, q y) ∨ After p q t := by
  constructor
  · rintro ⟨before, x, after, h, hp, hq⟩
    cases before with
    | nil =>
      cases h
      exact .inl ⟨hp, hq⟩
    | cons z before =>
      cases h
      exact .inr ⟨before, x, after, rfl, hp, hq⟩
  · rintro (⟨hp, hq⟩ | ⟨before, x, after, rfl, hp, hq⟩)
    · exact ⟨[], o, t, rfl, hp, hq⟩
    · exact ⟨o :: before, x, after, rfl, hp, hq⟩

theorem lawful_iff {law : List O → O → Prop} :
    Lawful law t ↔ ∀ i, (h : i < t.length) → law (t.take i) t[i] := by
  constructor
  · intro hl i h
    exact hl (t.take i) t[i] (t.drop (i + 1)) (by simp)
  · rintro hl before x after rfl
    simpa using hl before.length (by simp)

theorem until_iff : Until p r q t ↔ ∀ i, (h : i < t.length) → q t[i] → ¬ Owed p r (t.take i) := by
  constructor
  · intro hu i h
    exact hu (t.take i) t[i] (t.drop (i + 1)) (by simp)
  · rintro hu before x after rfl hq
    simpa using hu before.length (by simp) (by simpa using hq)

variable [DecidablePred p] [DecidablePred r] [DecidablePred q]

instance decidableOwed : (t : List O) → Decidable (Owed p r t)
  | [] => isFalse not_owed_nil
  | _ :: t =>
    have := decidableOwed t
    decidable_of_iff' _ owed_cons

instance decidableAfter : (t : List O) → Decidable (After p q t)
  | [] => isFalse not_after_nil
  | _ :: t =>
    have := decidableAfter t
    decidable_of_iff' _ after_cons

instance decidableLawful {law : List O → O → Prop} [∀ before x, Decidable (law before x)] : Decidable (Lawful law t) :=
  decidable_of_iff' _ lawful_iff

instance decidableUntil : Decidable (Until p r q t) := decidable_of_iff' _ until_iff

end RunLib
