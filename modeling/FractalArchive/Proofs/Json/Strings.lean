import FractalArchive.Json.Text
import FractalArchive.Json.Writer
import FractalArchive.Proofs.Text.Utf8

/-!
# Reading strings back

A reader *takes* octets for a value when it reads the value from them, at any place, and leaves what
follows (`Takes`).

Octets *spell* others when they fall into pieces of a string that stand for those (`Spells`).  What
spells the octets of a text is taken for this text up to the closing quote
(`Spells.takes_readString`), and the escapes of a text spell it (`spells_escapes`): each character
is one escape or the octets of the character as they are (`spells_escape`).
-/

namespace FractalArchive.Json

/-! ### Octets of ASCII -/

theorem encodeChar_of_ascii {c : Char} (h : c.toNat ≤ 0x7F) :
    String.utf8EncodeChar c = [code c] := by
  rw [Utf8.encodeChar_eq, if_pos h]
  rfl

theorem encode_of_ascii {cs : List Char} (h : ∀ c ∈ cs, c.toNat ≤ 0x7F) :
    Utf8.encode cs = cs.map code := by
  induction cs with
  | nil => rfl
  | cons c rest ih =>
      rw [List.forall_mem_cons] at h
      rw [Utf8.encode_cons, encodeChar_of_ascii h.1, ih h.2]
      rfl

/-! ### Cursors -/

theorem advance_append (i : Nat) (written rest : Octets) :
    (Cursor.mk i (written ++ rest)).advance written.length = ⟨i + written.length, rest⟩ := by
  simp [Cursor.advance]

theorem advance_cons (i : Nat) (o : UInt8) (rest : Octets) :
    (Cursor.mk i (o :: rest)).advance 1 = ⟨i + 1, rest⟩ := rfl

/-- A cursor that is not before a blank stays. -/
theorem skipBlanks_cons {o : UInt8} (h : Cursor.isBlankOctet o = false) (i : Nat) (rest : Octets) :
    (Cursor.mk i (o :: rest)).skipBlanks = ⟨i, o :: rest⟩ := by
  unfold Cursor.skipBlanks
  rw [List.takeWhile_cons_of_neg (by simp [h])]
  rfl

/-- A reader takes these octets for a value when this rest follows, and leaves the rest. -/
def Takes {ε α : Type} (read : Cursor → Except ε (α × Cursor)) (written : Octets) (value : α)
    (rest : Octets) : Prop :=
  ∀ i, ∃ j, read ⟨i, written ++ rest⟩ = .ok (value, ⟨j, rest⟩)

/-! ### Pieces -/

/-- Pieces of a string, one after another, with the octets for which they stand; what follows a
piece does not matter. -/
inductive Spells : Octets → Octets → Prop where
  | nil : Spells [] []
  | piece {written value more values : Octets} (nonempty : written ≠ [])
      (next : ∀ rest, nextPiece (written ++ rest) = .octets value written.length)
      (others : Spells more values) : Spells (written ++ more) (value ++ values)

namespace Spells

variable {written value more values : Octets}

theorem append (h : Spells written value) (others : Spells more values) :
    Spells (written ++ more) (value ++ values) := by
  induction h with
  | nil => exact others
  | piece nonempty next _ ih =>
      rw [List.append_assoc, List.append_assoc]
      exact .piece nonempty next ih

theorem of_next (nonempty : written ≠ [])
    (next : ∀ rest, nextPiece (written ++ rest) = .octets value written.length) :
    Spells written value := by
  simpa using Spells.piece nonempty next .nil

/-- Octets that are spelled are read, and reading goes on behind them. -/
theorem readOctets_append (h : Spells written value) {fuel : Nat} (enough : written.length ≤ fuel)
    (read : Octets) (i : Nat) (rest : Octets) : ∃ left, fuel ≤ left + written.length ∧
      readOctets fuel read ⟨i, written ++ rest⟩ =
        readOctets left (value.reverse ++ read) ⟨i + written.length, rest⟩ := by
  induction h generalizing fuel read i with
  | nil => exact ⟨fuel, Nat.le_refl _, rfl⟩
  | @piece written value more values nonempty next _ ih =>
      have := List.length_pos_iff.mpr nonempty
      rw [List.length_append] at enough ⊢
      cases fuel with
      | zero => omega
      | succ fuel =>
          have others : more.length ≤ fuel := by omega
          obtain ⟨left, spent, steps⟩ := ih others (value.reverse ++ read) (i + written.length)
          refine ⟨left, by omega, ?_⟩
          rw [readOctets, List.append_assoc, next]
          simp only
          rw [advance_append, steps]
          simp [Nat.add_assoc]

/-- Octets that are spelled are read up to the closing quote. -/
theorem readOctets (h : Spells written value) {fuel : Nat} (enough : written.length < fuel)
    (read : Octets) (i : Nat) (rest : Octets) :
    readOctets fuel read ⟨i, written ++ code '\x22' :: rest⟩ =
      .ok (read.reverse ++ value, ⟨i + written.length + 1, rest⟩) := by
  obtain ⟨left, spent, steps⟩ :=
    h.readOctets_append (Nat.le_of_lt enough) read i (code '\x22' :: rest)
  rw [steps]
  cases left with
  | zero => omega
  | succ left =>
      have closed : Json.readOctets (left + 1) (value.reverse ++ read)
          ⟨i + written.length, code '\x22' :: rest⟩ =
            .ok ((value.reverse ++ read).reverse, ⟨i + written.length + 1, rest⟩) := rfl
      rw [closed]
      simp

/-- **A string is read** from what spells it. -/
theorem takes_readString {s : String} (h : Spells written (octetsOf s)) (rest : Octets) :
    Takes readString (written ++ [code '\x22']) s rest := by
  intro i
  refine ⟨i + written.length + 1, ?_⟩
  rw [List.append_assoc, List.singleton_append, readString,
    h.readOctets (by rw [List.length_append]; omega)]
  simp only [List.reverse_nil, List.nil_append, octetsOf, Utf8.decode_encode, String.ofList_toList]

end Spells

/-! ### Escapes -/

/-- An octet that stands for itself in a string: no quote, backslash or control character. -/
def IsPlain (o : UInt8) : Prop :=
  o.toNat ≠ 0x22 ∧ o.toNat ≠ 0x5C ∧ 0x20 ≤ o.toNat

theorem spells_plain {octets : Octets} (h : ∀ o ∈ octets, IsPlain o) : Spells octets octets := by
  induction octets with
  | nil => exact .nil
  | cons o rest ih =>
      rw [List.forall_mem_cons] at h
      obtain ⟨⟨quote, slash, control⟩, plain⟩ := h
      have noQuote : o ≠ code '\x22' := fun e => quote (e ▸ rfl)
      have noSlash : o ≠ code '\\' := fun e => slash (e ▸ rfl)
      have noControl : ¬ o < 0x20 := fun lt => Nat.not_lt.mpr control (UInt8.lt_iff_toNat_lt.mp lt)
      have one : Spells [o] [o] := .of_next (by simp) fun more => by
        simp [nextPiece, noQuote, noSlash, noControl]
      exact one.append (ih plain)

/-- The octets of a character that needs no escape stand for themselves. -/
theorem isPlain_encodeChar {c : Char} (quote : c.toNat ≠ 0x22) (slash : c.toNat ≠ 0x5C)
    (control : 0x20 ≤ c.toNat) : ∀ o ∈ String.utf8EncodeChar c, IsPlain o := by
  intro o ho
  rw [IsPlain]
  rcases Utf8.toNat_of_mem_encodeChar ho with same | large <;> omega

/-- The digits of a control character give its code. -/
theorem hex4?_hexDigit : ∀ n < 0x20, hex4? (code '0') (code '0') (code (hexDigit (n / 16)))
    (code (hexDigit (n % 16))) = some n := by
  decide

/-- A control character is read from its escape with digits. -/
theorem nextPiece_control {c : Char} (control : c.toNat < 0x20) (rest : Octets) :
    nextPiece (code '\\' :: code 'u' :: code '0' :: code '0' :: code (hexDigit (c.toNat / 16)) ::
      code (hexDigit (c.toNat % 16)) :: rest) = .octets (String.utf8EncodeChar c) 6 := by
  have noTrailing : isTrailing c.toNat = false := by
    simp only [isTrailing, Bool.and_eq_false_iff, decide_eq_false_iff_not]
    omega
  have noLeading : isLeading c.toNat = false := by
    simp only [isLeading, Bool.and_eq_false_iff, decide_eq_false_iff_not]
    omega
  have escape : ∀ more, nextPiece (code '\\' :: code 'u' :: more) = hexEscape more := fun _ => rfl
  rw [escape, hexEscape, hex4?_hexDigit c.toNat control]
  simp [noTrailing, noLeading, codePoint]

/-- **A character is read** from its escape. -/
theorem spells_escape (c : Char) :
    Spells (Utf8.encode (escape c)) (String.utf8EncodeChar c) := by
  by_cases short : c ∈ ['\x22', '\\', '\x08', '\x0c', '\n', '\r', '\t']
  · simp only [List.mem_cons, List.not_mem_nil, or_false] at short
    rcases short with rfl | rfl | rfl | rfl | rfl | rfl | rfl <;>
      exact .of_next (by decide) fun _ => rfl
  have long : escape c = if c.toNat < 0x20 then
      ['\\', 'u', '0', '0', hexDigit (c.toNat / 16), hexDigit (c.toNat % 16)] else [c] := by
    simp only [List.mem_cons, List.not_mem_nil, or_false, not_or] at short
    simp [escape, short]
  rw [long]
  split
  next control =>
    have digit : ∀ n < 16, String.utf8EncodeChar (hexDigit n) = [code (hexDigit n)] := by decide
    have written : Utf8.encode
        ['\\', 'u', '0', '0', hexDigit (c.toNat / 16), hexDigit (c.toNat % 16)] =
          [code '\\', code 'u', code '0', code '0', code (hexDigit (c.toNat / 16)),
            code (hexDigit (c.toNat % 16))] := by
      simp only [Utf8.encode_cons, digit (c.toNat / 16) (by omega), digit (c.toNat % 16) (by omega)]
      rfl
    rw [written]
    exact .of_next (by simp) (nextPiece_control control)
  next visible =>
    have alone : Utf8.encode [c] = String.utf8EncodeChar c := by simp [Utf8.encode]
    have other : ∀ d ∈ ['\x22', '\\'], c.toNat ≠ d.toNat := by
      intro d hd e
      obtain rfl : c = d := Char.toNat_inj.mp e
      exact short (List.mem_append_left ['\x08', '\x0c', '\n', '\r', '\t'] hd)
    rw [alone]
    exact spells_plain (isPlain_encodeChar (other '\x22' (by simp)) (other '\\' (by simp))
      (Nat.not_lt.mp visible))

/-- **The escapes of a text spell it.** -/
theorem spells_escapes (cs : List Char) :
    Spells (Utf8.encode (cs.flatMap escape)) (Utf8.encode cs) := by
  induction cs with
  | nil => exact .nil
  | cons c rest ih =>
      rw [List.flatMap_cons, Utf8.encode_append, Utf8.encode_cons]
      exact (spells_escape c).append ih

end FractalArchive.Json
