import FractalArchive.Service
import Mathlib.Algebra.Order.Floor.Div
import Mathlib.Data.List.Perm.Basic
import Mathlib.Order.Interval.Finset.Nat
import Mathlib.Tactic.Ring

/-!
# Drawing

The number that a generator draws below a bound is the place of a *ticket*: the number that its next
words spell, of which there are `tickets`, is scaled down to the bound (`below_eq`).  Scaling gives
every place as many tickets as any other, or one more (`card_scaled`).  Whatever the bound, the
number is below it (`below_lt`), so there is an element to take out at the place that is drawn
(`takeOut_eq`), and a pick gives the element there (`Service.pick_of_listed`).
-/

namespace FractalArchive

/-! ### Scaling -/

namespace Generator

variable {size bound x y i : Nat} {draw : Generator → Nat × Generator}

/-- A number of two digits is scaled down by its first digit, with the carry of the second. -/
theorem scaled_digits (positive : 0 < size) : (x * size + y) * bound / (size * size) =
    x * bound / size + (x * bound % size + y * bound / size) / size :=
  calc (x * size + y) * bound / (size * size)
      = (y * bound + size * (x * bound)) / size / size := by
        rw [Nat.div_div_eq_div_mul]
        congr 1
        ring
    _ = (y * bound / size + x * bound) / size := by
        rw [Nat.add_mul_div_left _ _ positive]
    _ = (x * bound % size + y * bound / size + size * (x * bound / size)) / size := by
        congr 1
        have := Nat.mod_add_div (x * bound) size
        omega
    _ = x * bound / size + (x * bound % size + y * bound / size) / size := by
        rw [Nat.add_mul_div_left _ _ positive, Nat.add_comm]

/-- A number below the size is scaled down below the bound. -/
theorem scaled_lt (bounded : 0 < bound) (small : x < size) : x * bound / size < bound :=
  Nat.div_lt_of_lt_mul (Nat.mul_lt_mul_of_pos_right small bounded)

theorem digits_lt (x_lt : x < size) (y_lt : y < size) : x * size + y < size * size := by
  have := Nat.mul_le_mul_right size x_lt
  rw [Nat.succ_mul] at this
  omega

/-- What is drawn is at most the place of the ticket. -/
theorem scale_le (small : ∀ g, (draw g).1 < size) (g : Generator) : (scale size draw bound g).1 ≤
    ((draw g).1 * size + (draw (draw g).2).1) * bound / (size * size) := by
  have positive : 0 < size := Nat.zero_lt_of_lt (small g)
  rw [scaled_digits positive]
  unfold scale
  simp only
  split
  · split
    next carry =>
      have := Nat.div_pos carry positive
      omega
    · exact Nat.le_add_right _ _
  · exact Nat.le_add_right _ _

/-- What is drawn below a bound that is not above the size is the place of the ticket. -/
theorem scale_eq (small : ∀ g, (draw g).1 < size) (bounded : 0 < bound) (le : bound ≤ size)
    (g : Generator) : (scale size draw bound g).1 =
      ((draw g).1 * size + (draw (draw g).2).1) * bound / (size * size) := by
  have positive : 0 < size := Nat.zero_lt_of_lt (small g)
  have second := scaled_lt bounded (small (draw g).2)
  have first := Nat.mod_lt ((draw g).1 * bound) positive
  rw [scaled_digits positive]
  unfold scale
  simp only
  split
  · split
    next carry =>
      have one : ((draw g).1 * bound % size + (draw (draw g).2).1 * bound / size) / size = 1 :=
        Nat.div_eq_of_lt_le (by omega) (by omega)
      omega
    next fits => rw [Nat.div_eq_of_lt (Nat.not_le.mp fits), Nat.add_zero]
  next low =>
    -- The second number, which is not drawn, would not carry.
    have fits : ((draw g).1 * bound % size + (draw (draw g).2).1 * bound / size) / size = 0 :=
      Nat.div_eq_of_lt (by omega)
    rw [fits, Nat.add_zero]

/-- The tickets of a place are those from a first one up to the first one of the next place. -/
theorem scaled_eq_iff (bounded : 0 < bound) (positive : 0 < size) :
    x * bound / size = i ↔ i * size ⌈/⌉ bound ≤ x ∧ x < (i + 1) * size ⌈/⌉ bound := by
  have next : x < (i + 1) * size ⌈/⌉ bound ↔ bound * x < (i + 1) * size := by
    rw [← not_le, ← not_le, ceilDiv_le_iff_le_mul bounded]
  rw [next, ceilDiv_le_iff_le_mul bounded, Nat.mul_comm x, Nat.div_eq_iff positive, Nat.succ_mul]
  omega

/-- **Every place has as many tickets as any other**, or one more. -/
theorem card_scaled (bounded : i < bound) (positive : 0 < size) :
    size / bound ≤ ((Finset.range size).filter fun x => x * bound / size = i).card ∧
      ((Finset.range size).filter fun x => x * bound / size = i).card ≤ size / bound + 1 := by
  have pos : 0 < bound := Nat.zero_lt_of_lt bounded
  have last : (i + 1) * size ⌈/⌉ bound ≤ size :=
    (ceilDiv_le_iff_le_mul pos).mpr (Nat.mul_le_mul_right size bounded)
  have between : (Finset.range size).filter (fun x => x * bound / size = i) =
      Finset.Ico (i * size ⌈/⌉ bound) ((i + 1) * size ⌈/⌉ bound) := by
    ext x
    rw [Finset.mem_filter, Finset.mem_range, Finset.mem_Ico, scaled_eq_iff pos positive]
    omega
  have width : (i + 1) * size + bound - 1 = (i * size + bound - 1) + size := by
    rw [Nat.succ_mul]
    omega
  rw [between, Nat.card_Ico, Nat.ceilDiv_eq_add_pred_div, Nat.ceilDiv_eq_add_pred_div, width,
    Nat.add_div pos]
  generalize (i * size + bound - 1) / bound = start, size / bound = share
  split
  · omega
  · omega

/-! ### Tickets -/

theorem drawWord_lt (g : Generator) : g.drawWord.1 < wordCount :=
  (g.word g.used).toNat_lt

theorem drawPair_lt (g : Generator) : g.drawPair.1 < pairCount :=
  digits_lt g.drawWord.2.drawWord_lt g.drawWord_lt

/-- The number of tickets for a bound. -/
def tickets (bound : Nat) : Nat :=
  if bound < wordCount then wordCount * wordCount else pairCount * pairCount

/-- The ticket that the next words of a generator spell. -/
def ticket (bound : Nat) (g : Generator) : Nat :=
  if bound < wordCount then g.drawWord.1 * wordCount + g.drawWord.2.drawWord.1
  else g.drawPair.1 * pairCount + g.drawPair.2.drawPair.1

theorem tickets_pos (bound : Nat) : 0 < tickets bound := by
  unfold tickets
  split
  · decide
  · decide

theorem ticket_lt (bound : Nat) (g : Generator) : g.ticket bound < tickets bound := by
  unfold ticket tickets
  split
  · exact digits_lt g.drawWord_lt (drawWord_lt _)
  · exact digits_lt g.drawPair_lt (drawPair_lt _)

/-- The generator of these words. -/
def ofWords (words : List Nat) : Generator :=
  ⟨fun i => UInt32.ofNat (words.getD i 0), 0⟩

/-- The two digits of a number are words, and spell it. -/
theorem digits_spell (h : x < wordCount * wordCount) :
    (UInt32.ofNat (x / wordCount)).toNat * wordCount + (UInt32.ofNat (x % wordCount)).toNat =
      x := by
  have first : (UInt32.ofNat (x / wordCount)).toNat = x / wordCount :=
    UInt32.toNat_ofNat_of_lt' (Nat.div_lt_of_lt_mul h)
  have second : (UInt32.ofNat (x % wordCount)).toNat = x % wordCount :=
    UInt32.toNat_ofNat_of_lt' (Nat.mod_lt x (by decide))
  rw [first, second, Nat.mul_comm]
  exact Nat.div_add_mod x wordCount

/-- **Every ticket** is spelled by some generator. -/
theorem exists_ticket_eq (bound : Nat) (h : x < tickets bound) :
    ∃ g : Generator, g.ticket bound = x := by
  unfold tickets at h
  unfold ticket
  split at h
  next word =>
    refine ⟨ofWords [x / wordCount, x % wordCount], ?_⟩
    rw [if_pos word]
    exact digits_spell h
  next pair =>
    let high := x / pairCount
    let low := x % pairCount
    let g := ofWords [high % wordCount, high / wordCount, low % wordCount, low / wordCount]
    have first : g.drawPair.1 = high := digits_spell (Nat.div_lt_of_lt_mul h)
    have second : g.drawPair.2.drawPair.1 = low := digits_spell (Nat.mod_lt x (by decide))
    refine ⟨g, ?_⟩
    rw [if_neg pair, first, second, Nat.mul_comm]
    exact Nat.div_add_mod x pairCount

/-- **What is drawn** is the place of the ticket. -/
theorem below_eq (bounded : 0 < bound) (le : bound ≤ pairCount) (g : Generator) :
    (g.below bound).1 = g.ticket bound * bound / tickets bound := by
  unfold below ticket tickets
  split
  next word => exact scale_eq drawWord_lt bounded (Nat.le_of_lt word) g
  · exact scale_eq drawPair_lt bounded le g

/-- **What is drawn** is below the bound. -/
theorem below_lt (bounded : 0 < bound) (g : Generator) : (g.below bound).1 < bound := by
  have place := scaled_lt bounded (g.ticket_lt bound)
  refine Nat.lt_of_le_of_lt ?_ place
  unfold below ticket tickets
  split
  · exact scale_le drawWord_lt g
  · exact scale_le drawPair_lt g

end Generator

/-! ### Taking out -/

section TakeOut

variable {α : Type} {l : List α} {i : Nat}

/-- The last element, put at a place, leaves the element there out. -/
theorem cons_set_perm (inside : i < l.length) (last : α) :
    (l[i] :: l.set i last).Perm (l ++ [last]) :=
  calc (l[i] :: l.set i last).Perm (l[i] :: last :: l.eraseIdx i) :=
        (List.set_perm_cons_eraseIdx inside last).cons _
    List.Perm _ (last :: l[i] :: l.eraseIdx i) := .swap _ _ _
    List.Perm _ (last :: l) := (List.getElem_cons_eraseIdx_perm inside).cons _
    List.Perm _ (l ++ [last]) := (List.perm_append_singleton last l).symm

/-- **What is taken out** is the element at the place, and all others are left. -/
theorem takeOut_eq (inside : i < l.length) :
    ∃ left, takeOut i l = some (l[i], left) ∧ (l[i] :: left).Perm l := by
  obtain ⟨rest, last, rfl⟩ : ∃ rest last, l = rest ++ [last] :=
    List.eq_nil_or_concat' l |>.resolve_left (List.ne_nil_of_length_pos (Nat.zero_lt_of_lt inside))
  have taken : takeOut i (rest ++ [last]) =
      some ((rest ++ [last])[i], ((rest ++ [last]).set i last).dropLast) := by
    unfold takeOut
    rw [List.getElem?_eq_getElem inside, List.getLast?_concat]
  refine ⟨_, taken, ?_⟩
  by_cases before : i < rest.length
  · rw [List.set_append_left _ _ before, List.dropLast_concat, List.getElem_append_left before]
    exact cons_set_perm before last
  · -- The last element itself is taken out.
    obtain rfl : i = rest.length := by
      rw [List.length_append, List.length_singleton] at inside
      omega
    rw [List.getElem_concat_length rfl, List.set_append_right _ _ (Nat.le_refl _), Nat.sub_self,
      List.set_cons_zero, List.dropLast_concat]
    exact (List.perm_append_singleton last rest).symm

end TakeOut

/-! ### Picking -/

namespace Service

/-- **A pick from a listing** takes out the record at the place that is drawn, and reports it with
the number of all records. -/
theorem pick_of_listed {c : Connection} {records : List Record}
    (listed : Repository.list c = .ok records) (nonempty : records ≠ []) (g : Generator) :
    ∃ a, records[(g.below records.length).1]? = some a ∧
      pick g c = ⟨.returned (.ok (some a, (g.below records.length).2)), c,
        [.recordPicked a.id records.length]⟩ := by
  have inside := g.below_lt (List.length_pos_iff.mpr nonempty)
  obtain ⟨left, taken, rest⟩ := takeOut_eq inside
  have counted : left.length + 1 = records.length := rest.length_eq
  refine ⟨_, List.getElem?_eq_getElem inside, ?_⟩
  obtain ⟨first, others, rfl⟩ := List.exists_cons_of_ne_nil nonempty
  unfold pick
  rw [listed]
  simp only [taken, counted]

end Service

end FractalArchive
