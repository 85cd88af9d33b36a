import FractalArchive.Text.Blank
import Mathlib.Data.List.TakeWhile

/-!
# Trimming

A text is blanks, what trimming leaves of it, and blanks again; what is left has no blank at either
end, and there is only one way to part a text so (`trim_eq_iff`).  Blanks around a text therefore do
not matter to trimming (`trim_append`), and a text that is bare is left as it is (`trim_of_bare`).
-/

namespace FractalArchive.Blank

variable {cs text before after : List Char}

/-- All characters are blank. -/
def All (cs : List Char) : Prop :=
  ∀ c ∈ cs, isBlank c = true

/-- No blank stands at either end. -/
structure Bare (cs : List Char) : Prop where
  first : ∀ c, cs.head? = some c → isBlank c = false
  last : ∀ c, cs.getLast? = some c → isBlank c = false

theorem All.append (h : All before) (h' : All after) : All (before ++ after) :=
  fun c hc => (List.mem_append.mp hc).elim (h c) (h' c)

theorem All.reverse (h : All cs) : All cs.reverse :=
  fun c hc => h c (List.mem_reverse.mp hc)

/-- Blanks at the start are dropped, up to a text that starts with none. -/
theorem trimStart_append (blank : All before)
    (first : ∀ c, text.head? = some c → isBlank c = false) :
    trimStart (before ++ text) = text := by
  rw [trimStart, List.dropWhile_append_of_pos blank]
  cases text with
  | nil => rfl
  | cons c rest => exact List.dropWhile_cons_of_neg (by simp [first c rfl])

/-- Blanks at the end are dropped, up to a text that ends with none. -/
theorem trimEnd_append (blank : All after)
    (last : ∀ c, text.getLast? = some c → isBlank c = false) :
    trimEnd (text ++ after) = text := by
  have start : trimStart (after.reverse ++ text.reverse) = text.reverse :=
    trimStart_append blank.reverse fun c hc => last c (List.head?_reverse ▸ hc)
  rw [trimEnd, List.reverse_append]
  exact (congrArg List.reverse start).trans (List.reverse_reverse text)

/-- What trimming leaves of blanks around a bare text. -/
theorem trim_append_bare (blank : All before) (bare : Bare text) (blank' : All after) :
    trim (before ++ text ++ after) = text := by
  unfold trim
  cases text with
  | nil =>
      have all : All (before ++ [] ++ after) := (List.append_nil before).symm ▸ blank.append blank'
      have nothing : trimStart (before ++ [] ++ after) = [] := List.dropWhile_eq_nil_iff.mpr all
      rw [nothing]
      rfl
  | cons c rest =>
      have start : trimStart (before ++ (c :: rest ++ after)) = c :: rest ++ after :=
        trimStart_append blank bare.first
      rw [List.append_assoc, start, trimEnd_append blank' bare.last]

theorem exists_eq_append_trimStart (cs : List Char) :
    ∃ before, All before ∧ cs = before ++ trimStart cs :=
  ⟨cs.takeWhile isBlank, fun _ hc => List.mem_takeWhile_imp hc,
    List.takeWhile_append_dropWhile.symm⟩

theorem exists_eq_trimEnd_append (cs : List Char) :
    ∃ after, All after ∧ cs = trimEnd cs ++ after := by
  obtain ⟨before, blank, parted⟩ := exists_eq_append_trimStart cs.reverse
  refine ⟨before.reverse, blank.reverse, ?_⟩
  rw [trimEnd, ← List.reverse_append]
  exact List.reverse_eq_iff.mp parted

/-- Trimming parts a text into blanks, what is left, and blanks. -/
theorem exists_eq_append_trim (cs : List Char) :
    ∃ before after, All before ∧ All after ∧ cs = before ++ trim cs ++ after := by
  obtain ⟨before, blank, parted⟩ := exists_eq_append_trimStart cs
  obtain ⟨after, blank', parted'⟩ := exists_eq_trimEnd_append (trimStart cs)
  refine ⟨before, after, blank, blank', ?_⟩
  rw [List.append_assoc, trim, ← parted', ← parted]

/-- What is left has no blank at either end. -/
theorem bare_trim (cs : List Char) : Bare (trim cs) where
  first := fun c hc => by
    -- What is left is the start of a text that starts with no blank.
    obtain ⟨after, -, parted⟩ := exists_eq_trimEnd_append (trimStart cs)
    have start : (trimStart cs).head? = some c := by
      rw [parted, List.head?_append]
      exact Option.or_eq_some_iff.mpr (.inl hc)
    exact head?_trimStart start
  last := fun _ hc => getLast?_trimEnd hc

/-- **Trimming** is the only way to part a text into blanks, a bare text, and blanks. -/
theorem trim_eq_iff :
    trim cs = text ↔ Bare text ∧ ∃ before after, All before ∧ All after ∧
      cs = before ++ text ++ after := by
  constructor
  · rintro rfl
    exact ⟨bare_trim cs, exists_eq_append_trim cs⟩
  · rintro ⟨bare, before, after, blank, blank', rfl⟩
    exact trim_append_bare blank bare blank'

theorem trim_of_bare (bare : Bare cs) : trim cs = cs :=
  trim_eq_iff.mpr ⟨bare, [], [], nofun, nofun, (List.append_nil cs).symm⟩

/-- **Blanks around a text** do not matter. -/
theorem trim_append (blank : All before) (blank' : All after) (cs : List Char) :
    trim (before ++ cs ++ after) = trim cs := by
  obtain ⟨start, rest, all, all', parted⟩ := exists_eq_append_trim cs
  refine trim_eq_iff.mpr ⟨bare_trim cs, before ++ start, rest ++ after, blank.append all,
    all'.append blank', ?_⟩
  calc before ++ cs ++ after = before ++ (start ++ trim cs ++ rest) ++ after := by rw [← parted]
    _ = before ++ start ++ trim cs ++ (rest ++ after) := by simp only [List.append_assoc]

end FractalArchive.Blank
