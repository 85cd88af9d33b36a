import FractalArchive.Form.Multipart
import FractalArchive.Proofs.Text.Stretches

/-!
# Searching for a mark

The reader of multipart forms cuts octets at the first place where a mark stands.  A mark is *only
at the end* of a stretch when it stands right after it and nowhere before, not even across the seam
(`OnlyAtEnd`).  Then the cut falls at the end of the stretch, whatever follows
(`splitAtMark_append`), and octets that break off before the mark is complete are not cut at all
(`splitAtMark_of_start`).

A mark that begins nowhere within itself cannot stand across the seam (`Unbordered`), so it is
enough that it does not stand within the stretch; likewise when its first octet is not in the
stretch.
-/

namespace FractalArchive.Multipart

open PartHeaders (findMark)

/-- A mark stands at the end of `before ++ mark` and nowhere before. -/
def OnlyAtEnd (mark before : Octets) : Prop :=
  ¬ mark <:+: before ++ mark.dropLast

/-- No proper end of a mark is a start of it. -/
def Unbordered (mark : Octets) : Prop :=
  ∀ u v, u ≠ [] → v ≠ [] → mark = u ++ v → ¬ v <+: mark

/-! ### When a mark is only at the end -/

/-- A mark that is not within a stretch, nor across its end. -/
theorem onlyAtEnd_of_seam {mark before : Octets} (nonempty : mark ≠ [])
    (absent : ¬ mark <:+: before)
    (seam : ∀ u v, u ≠ [] → v ≠ [] → mark = u ++ v → u <:+ before → ¬ v <+: mark) :
    OnlyAtEnd mark before := by
  intro h
  rcases List.infix_append_iff_ne_nil.mp h with h | h | ⟨u, v, hu, hv, e, hub, hvm⟩
  · exact absent h
  · have := h.length_le
    have := List.length_pos_iff.mpr nonempty
    simp at *
    omega
  · exact seam u v hu hv e hub (hvm.trans (List.dropLast_prefix mark))

theorem Unbordered.onlyAtEnd {mark before : Octets} (h : Unbordered mark) (nonempty : mark ≠ [])
    (absent : ¬ mark <:+: before) : OnlyAtEnd mark before :=
  onlyAtEnd_of_seam nonempty absent fun u v hu hv e _ => h u v hu hv e

/-- A mark whose first octet is not in a stretch. -/
theorem onlyAtEnd_of_not_mem {first : UInt8} {mark before : Octets} (h : first ∉ before) :
    OnlyAtEnd (first :: mark) before := by
  refine onlyAtEnd_of_seam (by simp) (fun hi => h (hi.mem List.mem_cons_self)) ?_
  intro u v hu _ e hub _
  obtain ⟨o, u', rfl⟩ := List.exists_cons_of_ne_nil hu
  obtain rfl : first = o := (List.cons.inj e).1
  exact h (hub.mem List.mem_cons_self)

/-- A mark whose first octet does not come again. -/
theorem unbordered_of_not_mem {first : UInt8} {mark : Octets} (h : first ∉ mark) :
    Unbordered (first :: mark) := by
  intro u v hu hv e hp
  obtain ⟨o, u', rfl⟩ := List.exists_cons_of_ne_nil hu
  obtain ⟨p, v', rfl⟩ := List.exists_cons_of_ne_nil hv
  obtain rfl : p = first := (List.cons_prefix_cons.mp hp).1
  have : mark = u' ++ p :: v' := (List.cons.inj e).2
  exact h (this ▸ List.mem_append_right _ List.mem_cons_self)

/-! ### What the search finds -/

theorem findMark_eq_none {mark octets : Octets} (absent : ¬ mark <:+: octets) (passed : Octets) :
    findMark mark passed octets = none := by
  induction octets generalizing passed with
  | nil =>
      have : mark ≠ [] := fun e => absent (e ▸ List.nil_infix)
      simp [findMark, this]
  | cons o rest ih =>
      rw [List.infix_cons_iff, not_or] at absent
      have : mark.isPrefixOf? (o :: rest) = none := by
        rw [Option.eq_none_iff_forall_ne_some]
        intro after h
        exact absent.1 ⟨after, (isPrefixOf?_eq_some_iff.mp h).symm⟩
      rw [findMark, this]
      exact ih absent.2 _

theorem OnlyAtEnd.nonempty {mark before : Octets} (h : OnlyAtEnd mark before) : mark ≠ [] :=
  fun e => h (e ▸ List.nil_infix)

theorem OnlyAtEnd.tail {mark before : Octets} {o : UInt8} (h : OnlyAtEnd mark (o :: before)) :
    OnlyAtEnd mark before :=
  fun hi => h (List.infix_cons hi)

/-- The mark is not at the start of a stretch that it only ends. -/
theorem OnlyAtEnd.not_prefix {mark before : Octets} {o : UInt8} (h : OnlyAtEnd mark (o :: before))
    (rest : Octets) : ¬ mark <+: o :: before ++ mark ++ rest := by
  intro hp
  have whole : o :: before ++ mark.dropLast <+: o :: before ++ mark ++ rest :=
    ((List.prefix_append_right_inj _).mpr (List.dropLast_prefix mark)).trans
      (List.prefix_append _ _)
  have : mark.length ≤ (o :: before ++ mark.dropLast).length := by simp; omega
  exact h (List.prefix_of_prefix_length_le hp whole this).isInfix

theorem findMark_append {mark before : Octets} (h : OnlyAtEnd mark before)
    (passed rest : Octets) :
    findMark mark passed (before ++ mark ++ rest) = some (before.reverse ++ passed, rest) := by
  induction before generalizing passed with
  | nil =>
      obtain ⟨o, mark', rfl⟩ := List.exists_cons_of_ne_nil h.nonempty
      have : (o :: mark').isPrefixOf? (o :: mark' ++ rest) = some rest :=
        isPrefixOf?_eq_some_iff.mpr rfl
      rw [List.nil_append, List.cons_append, findMark, ← List.cons_append, this]
      rfl
  | cons o before ih =>
      have : mark.isPrefixOf? (o :: (before ++ mark ++ rest)) = none := by
        rw [Option.eq_none_iff_forall_ne_some]
        intro after e
        exact h.not_prefix rest ⟨after, (isPrefixOf?_eq_some_iff.mp e).symm⟩
      rw [List.cons_append, List.cons_append, findMark, this]
      simpa using ih h.tail (o :: passed)

/-! ### Where octets are cut -/

/-- The cut falls at the end of a stretch that the mark only ends. -/
theorem splitAtMark_append {mark before : Octets} (h : OnlyAtEnd mark before) (rest : Octets) :
    splitAtMark mark (before ++ mark ++ rest) = some (before, rest) := by
  rw [splitAtMark, findMark_append h]
  simp

theorem splitAtMark_eq_none {mark octets : Octets} (absent : ¬ mark <:+: octets) :
    splitAtMark mark octets = none := by
  simp [splitAtMark, findMark_eq_none absent]

/-- A part of `before ++ mark` that breaks off before its end has no place to be cut. -/
theorem splitAtMark_of_start {mark before part : Octets} (h : OnlyAtEnd mark before)
    (start : part <+: before ++ mark) (proper : part ≠ before ++ mark) :
    splitAtMark mark part = none := by
  refine splitAtMark_eq_none fun hi => h ?_
  have split : before ++ mark = before ++ mark.dropLast ++ [mark.getLast h.nonempty] := by
    rw [List.append_assoc, List.dropLast_concat_getLast]
  rw [split, List.prefix_concat_iff, ← split] at start
  exact hi.trans (start.resolve_left proper).isInfix

end FractalArchive.Multipart
