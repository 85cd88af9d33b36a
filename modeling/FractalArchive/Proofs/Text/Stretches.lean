/-!
# Starts and stretches of lists

What a list starts with (`isPrefixOf?_eq_some_iff`), where a start of two stretches breaks off
(`prefix_append_cases`), and what stands before and after a stop that occurs once.
-/

namespace FractalArchive

/-! ### Starts -/

/-- What a list starts with, and the rest. -/
theorem isPrefixOf?_eq_some_iff {α : Type} [BEq α] [LawfulBEq α] {start whole rest : List α} :
    start.isPrefixOf? whole = some rest ↔ whole = start ++ rest := by
  induction start generalizing whole with
  | nil =>
      show some whole = some rest ↔ whole = rest
      exact Option.some_inj
  | cons a start ih =>
      cases whole with
      | nil =>
          show none = some rest ↔ [] = a :: (start ++ rest)
          simp
      | cons b whole =>
          show (if a == b then start.isPrefixOf? whole else none) = some rest ↔
            b :: whole = a :: (start ++ rest)
          by_cases h : a = b
          · simp [h, ih]
          · have : ¬ b = a := fun e => h e.symm
            simp [h, this]

theorem isPrefixOf?_eq_none_iff {α : Type} [BEq α] [LawfulBEq α] {start whole : List α} :
    start.isPrefixOf? whole = none ↔ ¬ start <+: whole := by
  rw [Option.eq_none_iff_forall_ne_some]
  constructor
  · rintro h ⟨rest, e⟩
    exact h rest (isPrefixOf?_eq_some_iff.mpr e.symm)
  · rintro h rest e
    exact h ⟨rest, (isPrefixOf?_eq_some_iff.mp e).symm⟩

/-- A start of two stretches breaks off in the first, or takes it whole. -/
theorem prefix_append_cases {α : Type} {part xs ys : List α} (h : part <+: xs ++ ys) :
    (part <+: xs ∧ part ≠ xs) ∨ ∃ more, part = xs ++ more ∧ more <+: ys := by
  rcases List.prefix_or_prefix_of_prefix h (List.prefix_append xs ys) with hp | ⟨more, rfl⟩
  · by_cases e : part = xs
    · exact .inr ⟨[], by simp [e], List.nil_prefix⟩
    · exact .inl ⟨hp, e⟩
  · exact .inr ⟨more, rfl, (List.prefix_append_right_inj xs).mp h⟩

/-! ### Up to a stop -/

section Stop

variable {α : Type} {p : α → Bool} {xs ys : List α} {stop : α}

theorem takeWhile_append_stop (h : ∀ x ∈ xs, p x = true) (hs : p stop = false) :
    (xs ++ stop :: ys).takeWhile p = xs := by
  rw [List.takeWhile_append_of_pos h, List.takeWhile_cons_of_neg (by simp [hs]), List.append_nil]

theorem dropWhile_append_stop (h : ∀ x ∈ xs, p x = true) (hs : p stop = false) :
    (xs ++ stop :: ys).dropWhile p = stop :: ys := by
  rw [List.dropWhile_append_of_pos h, List.dropWhile_cons_of_neg (by simp [hs])]

/-- A list without the stop stands on one side of it. -/
theorem infix_of_infix_append_cons {mark : List α} (h : mark <:+: xs ++ stop :: ys)
    (hs : stop ∉ mark) : mark <:+: xs ∨ mark <:+: ys := by
  rcases List.infix_append_iff_ne_nil.mp h with h | h | ⟨u, v, -, hv, rfl, -, hp⟩
  · exact .inl h
  · rcases List.infix_cons_iff.mp h with h | h
    · cases mark with
      | nil => exact .inl List.nil_infix
      | cons x rest => exact absurd ((List.cons_prefix_cons.mp h).1 ▸ List.mem_cons_self) hs
    · exact .inr h
  · obtain ⟨x, v', rfl⟩ := List.exists_cons_of_ne_nil hv
    obtain rfl : x = stop := (List.cons_prefix_cons.mp hp).1
    exact absurd (List.mem_append_right _ List.mem_cons_self) hs

end Stop

end FractalArchive
