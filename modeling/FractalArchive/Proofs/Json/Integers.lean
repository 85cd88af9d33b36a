import FractalArchive.Json.Reader
import FractalArchive.Proofs.Json.Strings

/-!
# Reading integers back

An integer is written with its decimal digits, without leading zeros.  If nothing follows that goes
on with a number (`EndsNumber`), these digits are read as a whole, and their value is kept as long
as 64 bits hold it (`read_toDigits`).  So every 64-bit integer with a sign is read back
(`takes_readId`), the least one included: its absolute value is a limit of its own.
-/

namespace FractalArchive.Json

/-- What may follow an integer: the end, or an octet that does not go on with a number. -/
def EndsNumber (rest : Octets) : Prop :=
  ∀ o ∈ rest.head?, isDigit o = false ∧ o ≠ code '.' ∧ o ≠ code 'e' ∧ o ≠ code 'E'

/-- What may follow a row of digits: anything but another one. -/
def EndsDigits (rest : Octets) : Prop :=
  ∀ o ∈ rest.head?, isDigit o = false

theorem EndsNumber.endsDigits {rest : Octets} (h : EndsNumber rest) : EndsDigits rest :=
  fun o ho => (h o ho).1

/-! ### Digits -/

section Digits

variable {c : Char} {m : Nat}

/-- The octet of a character of ASCII has its code. -/
theorem toNat_code (h : c.toNat ≤ 0x7F) : (code c).toNat = c.toNat :=
  Utf8.toNat_ofNat (by omega)

theorem toNat_of_isDigit (h : c.isDigit = true) : 0x30 ≤ c.toNat ∧ c.toNat ≤ 0x39 :=
  Char.isDigit_iff_toNat.mp h

theorem isDigit_code (h : c.isDigit = true) : isDigit (code c) = true := by
  obtain ⟨low, high⟩ := toNat_of_isDigit h
  have := toNat_code (c := c) (by omega)
  rw [isDigit, Bool.and_eq_true, decide_eq_true_eq, decide_eq_true_eq, UInt8.le_iff_toNat_le,
    UInt8.le_iff_toNat_le, this]
  exact ⟨low, high⟩

theorem isDigit_of_mem {o : UInt8} (h : o ∈ (Nat.toDigits 10 m).map code) : isDigit o = true := by
  obtain ⟨c, hc, rfl⟩ := List.mem_map.mp h
  exact isDigit_code (Nat.isDigit_of_mem_toDigits (by decide) (by decide) hc)

theorem code_ne_zero (h : c.isDigit = true) (ne : c ≠ '0') : code c ≠ code '0' := by
  obtain ⟨-, high⟩ := toNat_of_isDigit h
  intro e
  have same : (code c).toNat = '0'.toNat := congrArg UInt8.toNat e
  rw [toNat_code (by omega)] at same
  exact ne (Char.toNat_inj.mp same)

theorem encode_toDigits (m : Nat) :
    Utf8.encode (Nat.toDigits 10 m) = (Nat.toDigits 10 m).map code := by
  refine encode_of_ascii fun c hc => ?_
  have := toNat_of_isDigit (Nat.isDigit_of_mem_toDigits (by decide) (by decide) hc)
  omega

/-- A digit is neither white space nor a sign. -/
theorem ne_of_isDigit : ∀ o : UInt8, isDigit o = true →
    Cursor.isBlankOctet o = false ∧ o ≠ code '-' :=
  forall_octet (by decide +kernel)

/-- A number other than zero does not begin with the digit zero. -/
theorem head_toDigits_ne (h : 0 < m) : (Nat.toDigits 10 m).head? ≠ some '0' := by
  induction m using Nat.strongRecOn with
  | ind m ih =>
      rw [Nat.toDigits_eq_if (by decide)]
      split
      next small =>
        have digit : ∀ d < 10, 0 < d → [Nat.digitChar d].head? ≠ some '0' := by decide
        exact digit m small h
      next large =>
        obtain ⟨c, cs, e⟩ : ∃ c cs, Nat.toDigits 10 (m / 10) = c :: cs :=
          List.exists_cons_of_ne_nil Nat.toDigits_ne_nil
        have first := ih (m / 10) (by omega) (by omega)
        rw [e] at first ⊢
        exact first

/-- The first digit of a number other than zero is a digit other than zero. -/
theorem exists_cons_toDigits (h : 0 < m) : ∃ o os, (Nat.toDigits 10 m).map code = o :: os ∧
    (o == code '0') = false ∧ isDigit o = true := by
  have first := head_toDigits_ne h
  obtain ⟨c, cs, e⟩ : ∃ c cs, Nat.toDigits 10 m = c :: cs :=
    List.exists_cons_of_ne_nil Nat.toDigits_ne_nil
  have digit : c.isDigit = true :=
    Nat.isDigit_of_mem_toDigits (b := 10) (n := m) (by decide) (by decide) (e ▸ List.mem_cons_self)
  rw [e] at first ⊢
  exact ⟨code c, cs.map code, rfl,
    beq_eq_false_iff_ne.mpr (code_ne_zero digit fun zero => first (zero ▸ rfl)),
    isDigit_code digit⟩

/-- Digits whose value 64 bits hold are all taken. -/
theorem takeDigits_map_code {cs : List Char} {value : Nat} (digits : ∀ c ∈ cs, c.isDigit = true)
    (bound : Nat.ofDigitChars 10 cs value < Numeral.limit) :
    Numeral.takeDigits value (cs.map code) = (Nat.ofDigitChars 10 cs value, []) := by
  induction cs generalizing value with
  | nil => rfl
  | cons c rest ih =>
      rw [List.forall_mem_cons] at digits
      obtain ⟨low, high⟩ := toNat_of_isDigit digits.1
      have digit : Numeral.digitValue (code c) = c.toNat - '0'.toNat := by
        rw [Numeral.digitValue, toNat_code (by omega)]
        rfl
      rw [Nat.ofDigitChars_cons] at bound ⊢
      -- The value only grows, so it stays below the limit all the way.
      have next : 10 * value + (c.toNat - '0'.toNat) < Numeral.limit := by
        refine Nat.lt_of_le_of_lt ?_ bound
        rw [Nat.ofDigitChars_eq_ofDigitChars_zero]
        exact Nat.le_trans (Nat.le_mul_of_pos_left _ (Nat.pow_pos (by decide)))
          (Nat.le_add_right ..)
      rw [List.map_cons, Numeral.takeDigits, digit, if_pos next, ih digits.2 bound]

theorem digitsAt_append {digits rest : Octets} (all : ∀ o ∈ digits, isDigit o = true)
    (ends : EndsDigits rest) (i : Nat) :
    Numeral.digitsAt ⟨i, digits ++ rest⟩ = (digits, ⟨i + digits.length, rest⟩) := by
  have none : rest.takeWhile isDigit = [] := by
    cases rest with
    | nil => rfl
    | cons o rest => exact List.takeWhile_cons_of_neg (by simp [ends o rfl])
  rw [Numeral.digitsAt]
  simp only
  rw [List.takeWhile_append_of_pos all, none, List.append_nil, advance_append]

end Digits

/-! ### Numbers -/

section Numbers

variable {m : Nat} {rest : Octets}

theorem afterWhole_false (ends : EndsNumber rest) (m i : Nat) :
    Numeral.afterWhole false m 0 ⟨i, rest⟩ = .ok (.integer m, ⟨i, rest⟩) := by
  cases rest with
  | nil => rfl
  | cons o rest =>
      obtain ⟨-, point, small, capital⟩ := ends o rfl
      simp [Numeral.afterWhole, Cursor.peek?, point, small, capital]

theorem afterWhole_true (ends : EndsNumber rest) (positive : 0 < m)
    (bound : m ≤ Numeral.signedLimit) (i : Nat) :
    Numeral.afterWhole true m 0 ⟨i, rest⟩ = .ok (.integer (-m), ⟨i, rest⟩) := by
  have kept : ¬ (m = 0 ∨ Numeral.signedLimit < m) := by omega
  cases rest with
  | nil => simp [Numeral.afterWhole, Cursor.peek?, kept]
  | cons o rest =>
      obtain ⟨-, point, small, capital⟩ := ends o rfl
      simp [Numeral.afterWhole, Cursor.peek?, point, small, capital, kept]

/-- The digits of a number are read to their end, as far as 64 bits hold their value. -/
theorem read_digits (ends : EndsDigits rest) (m : Nat) (negative : Bool) (i : Nat) :
    let taken := Numeral.takeDigits 0 ((Nat.toDigits 10 m).map code)
    ∃ j, Numeral.read negative ⟨i, (Nat.toDigits 10 m).map code ++ rest⟩ =
      Numeral.afterWhole negative taken.1 taken.2.length ⟨j, rest⟩ := by
  by_cases zero : m = 0
  · subst zero
    have stop : (rest.head?.map isDigit).getD false = false := by
      cases rest with
      | nil => rfl
      | cons o rest => exact ends o rfl
    refine ⟨i + 1, ?_⟩
    show (if (rest.head?.map isDigit).getD false then _ else _) = _
    rw [stop]
    rfl
  · have whole := digitsAt_append (fun o => isDigit_of_mem (m := m)) ends i
    obtain ⟨o, os, e, noZero, digit⟩ := exists_cons_toDigits (m := m) (by omega)
    rw [e] at whole ⊢
    rw [List.cons_append] at whole ⊢
    refine ⟨i + (o :: os).length, ?_⟩
    rw [Numeral.read]
    simp only [noZero, digit, whole]
    rfl

/-- The digits of a number that 64 bits hold are all taken. -/
theorem takeDigits_toDigits (bound : m < Numeral.limit) :
    Numeral.takeDigits 0 ((Nat.toDigits 10 m).map code) = (m, []) := by
  rw [takeDigits_map_code (fun c => Nat.isDigit_of_mem_toDigits (by decide) (by decide))]
  · rw [Nat.ofDigitChars_ten_toDigits]
  · rwa [Nat.ofDigitChars_ten_toDigits]

/-- **The digits of a number** are read to their end, with its value. -/
theorem read_toDigits (ends : EndsDigits rest) (bound : m < Numeral.limit) (negative : Bool)
    (i : Nat) : ∃ j, Numeral.read negative ⟨i, (Nat.toDigits 10 m).map code ++ rest⟩ =
      Numeral.afterWhole negative m 0 ⟨j, rest⟩ := by
  obtain ⟨j, read⟩ := read_digits ends m negative i
  rw [takeDigits_toDigits bound] at read
  exact ⟨j, read⟩

/-- **Every 64-bit integer is read** from its digits. -/
theorem takes_readId {n : Int} (least : -(Numeral.signedLimit : Int) ≤ n)
    (greatest : n < Numeral.signedLimit) (ends : EndsNumber rest) :
    Takes readId (Utf8.encode (writeInt n)) n rest := by
  intro i
  cases n with
  | ofNat m =>
      rw [Int.ofNat_eq_natCast] at greatest ⊢
      have bound : m < Numeral.limit := by
        have : Numeral.signedLimit < Numeral.limit := by decide
        omega
      obtain ⟨j, read⟩ := read_toDigits ends.endsDigits bound false i
      rw [afterWhole_false ends] at read
      have digits := fun o => isDigit_of_mem (m := m) (o := o)
      have written : writeInt (m : Int) = Nat.toDigits 10 m := rfl
      rw [written, encode_toDigits]
      obtain ⟨o, os, e⟩ : ∃ o os, (Nat.toDigits 10 m).map code = o :: os :=
        List.exists_cons_of_ne_nil (by simp)
      rw [e] at read digits ⊢
      have digit := digits o List.mem_cons_self
      obtain ⟨blank, sign⟩ := ne_of_isDigit o digit
      refine ⟨j, ?_⟩
      rw [List.cons_append] at read ⊢
      rw [readId, skipBlanks_cons blank]
      simp only [Cursor.peek?, List.head?_cons, beq_iff_eq, sign, digit, read, if_false, if_true,
        greatest]
  | negSucc m =>
      have signed : m + 1 ≤ Numeral.signedLimit := by
        rw [Int.negSucc_eq] at least
        omega
      have bound : m + 1 < Numeral.limit :=
        Nat.lt_of_le_of_lt signed (by decide)
      obtain ⟨j, read⟩ := read_toDigits ends.endsDigits bound true (i + 1)
      rw [afterWhole_true ends (Nat.succ_pos m) signed] at read
      have sign : Utf8.encode (writeInt (.negSucc m)) =
          code '-' :: (Nat.toDigits 10 (m + 1)).map code := by
        rw [writeInt, Utf8.encode_cons, encode_toDigits]
        rfl
      refine ⟨j, ?_⟩
      rw [sign, List.cons_append, readId, skipBlanks_cons (by decide)]
      simp only [Cursor.peek?, List.head?_cons, beq_self_eq_true, if_true, advance_cons, read]
      exact if_pos greatest

end Numbers

end FractalArchive.Json
