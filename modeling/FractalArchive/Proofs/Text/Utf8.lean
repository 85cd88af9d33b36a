import FractalArchive.Text.Utf8

/-!
# Reading a text back from its octets

The octets of a text fall into its characters and nothing else (`pieces_encode`).  So strict reading
gives the text back (`decode_encode`), and so does lenient reading (`decodeLossy_encode`).  Octets
none of which is zero are read as a text without null characters (`null_not_mem_of_decode`).

The machine reads a character in the four shapes in which one is written, by the number of octets:
a leading octet fixes how many follow and in which range the next one lies, and each octet that
follows brings six more bits.
-/

namespace FractalArchive

/-- What holds of the first 256 numbers holds of all octets. -/
theorem forall_octet {P : UInt8 → Prop} (h : ∀ n < 256, P (UInt8.ofNat n)) (o : UInt8) : P o := by
  have := h o.toNat o.toNat_lt
  rwa [UInt8.ofNat_toNat] at this

namespace Utf8

/-! ### Leading octets -/

/-- The least octet after a leading one: below it, the character would be too long for its value. -/
def leastAfter (b : Nat) : Nat :=
  if b = 0xE0 then 0xA0 else if b = 0xF0 then 0x90 else 0x80

/-- The greatest octet after a leading one: above it, the value would be a surrogate or too large.
-/
def greatestAfter (b : Nat) : Nat :=
  if b = 0xED then 0x9F else if b = 0xF4 then 0x8F else 0xBF

theorem start_ascii (found : List Piece) {b : Nat} (h : b ≤ 0x7F) :
    start found b = ⟨.char (Char.ofNat b) :: found, none⟩ := by
  simp [start, h]

theorem start_two (found : List Piece) {b : Nat} (h₁ : 0xC2 ≤ b) (h₂ : b ≤ 0xDF) :
    start found b = ⟨found, some ⟨1, 1, 0x80, 0xBF, b - 0xC0⟩⟩ := by
  unfold start
  rw [if_neg (by omega), if_neg (by omega), if_pos h₂]

theorem start_three (found : List Piece) {b : Nat} (h₁ : 0xE0 ≤ b) (h₂ : b ≤ 0xEF) :
    start found b = ⟨found, some ⟨1, 2, leastAfter b, greatestAfter b, b - 0xE0⟩⟩ := by
  unfold start leastAfter greatestAfter
  rw [if_neg (by omega), if_neg (by omega), if_neg (by omega)]
  by_cases h : b = 0xE0
  · simp [h]
  · by_cases h' : b = 0xED
    · simp [h']
    · rw [if_neg h, if_neg h', if_pos h₂, if_neg h, if_neg (by omega), if_neg h', if_neg (by omega)]

theorem start_four (found : List Piece) {b : Nat} (h₁ : 0xF0 ≤ b) (h₂ : b ≤ 0xF4) :
    start found b = ⟨found, some ⟨1, 3, leastAfter b, greatestAfter b, b - 0xF0⟩⟩ := by
  have : b = 0xF0 ∨ b = 0xF1 ∨ b = 0xF2 ∨ b = 0xF3 ∨ b = 0xF4 := by omega
  rcases this with rfl | rfl | rfl | rfl | rfl <;> rfl

/-! ### Octets that follow -/

theorem step_more {found : List Piece} {seen owed low high value : Nat} {o : UInt8}
    (h₁ : low ≤ o.toNat) (h₂ : o.toNat ≤ high) (more : 1 < owed) :
    step ⟨found, some ⟨seen, owed, low, high, value⟩⟩ o =
      ⟨found, some ⟨seen + 1, owed - 1, 0x80, 0xBF, value * 64 + (o.toNat - 0x80)⟩⟩ := by
  simp [step, h₁, h₂, Nat.not_le.mpr more]

theorem step_last {found : List Piece} {seen low high value : Nat} {o : UInt8}
    (h₁ : low ≤ o.toNat) (h₂ : o.toNat ≤ high) :
    step ⟨found, some ⟨seen, 1, low, high, value⟩⟩ o =
      ⟨.char (Char.ofNat (value * 64 + (o.toNat - 0x80))) :: found, none⟩ := by
  simp [step, h₁, h₂]

theorem step_start (found : List Piece) (o : UInt8) :
    step ⟨found, none⟩ o = start found o.toNat := rfl

/-! ### Characters -/

theorem toNat_ofNat {n : Nat} (h : n < 256) : (UInt8.ofNat n).toNat = n := by
  simp [Nat.mod_eq_of_lt h]

/-- The octet that carries six bits of a number. -/
theorem toNat_trailing (n : Nat) : (UInt8.ofNat (n % 0x40 + 0x80)).toNat = n % 64 + 0x80 :=
  toNat_ofNat (by omega)

theorem foldl_step_one (found : List Piece) {n : Nat} (h : n ≤ 0x7F) :
    [UInt8.ofNat n].foldl step ⟨found, none⟩ = ⟨.char (Char.ofNat n) :: found, none⟩ := by
  rw [List.foldl_cons, List.foldl_nil, step_start, toNat_ofNat (by omega), start_ascii found h]

theorem foldl_step_two (found : List Piece) {n : Nat} (h₁ : 0x7F < n) (h₂ : n ≤ 0x7FF) :
    [UInt8.ofNat (n / 64 % 0x20 + 0xC0), UInt8.ofNat (n % 0x40 + 0x80)].foldl step
      ⟨found, none⟩ = ⟨.char (Char.ofNat n) :: found, none⟩ := by
  have lead : (UInt8.ofNat (n / 64 % 0x20 + 0xC0)).toNat = n / 64 + 0xC0 := by
    rw [toNat_ofNat (by omega)]
    omega
  have last := toNat_trailing n
  rw [List.foldl_cons, step_start, lead, start_two found (by omega) (by omega), List.foldl_cons,
    step_last (by omega) (by omega), List.foldl_nil, last]
  have value : (n / 64 + 0xC0 - 0xC0) * 64 + (n % 64 + 0x80 - 0x80) = n := by omega
  rw [value]

theorem foldl_step_three (found : List Piece) {n : Nat} (h₁ : 0x7FF < n) (h₂ : n ≤ 0xFFFF)
    (valid : n < 0xD800 ∨ 0xDFFF < n) :
    [UInt8.ofNat (n / 4096 % 0x10 + 0xE0), UInt8.ofNat (n / 64 % 0x40 + 0x80),
      UInt8.ofNat (n % 0x40 + 0x80)].foldl step ⟨found, none⟩ =
      ⟨.char (Char.ofNat n) :: found, none⟩ := by
  have lead : (UInt8.ofNat (n / 4096 % 0x10 + 0xE0)).toNat = n / 4096 + 0xE0 := by
    rw [toNat_ofNat (by omega)]
    omega
  have next := toNat_trailing (n / 64)
  have last := toNat_trailing n
  -- The least octet keeps out a value of two octets, the greatest one a surrogate.
  have least : leastAfter (n / 4096 + 0xE0) ≤ n / 64 % 64 + 0x80 := by
    unfold leastAfter
    split
    · omega
    · split <;> omega
  have greatest : n / 64 % 64 + 0x80 ≤ greatestAfter (n / 4096 + 0xE0) := by
    unfold greatestAfter
    split
    · omega
    · split <;> omega
  rw [List.foldl_cons, step_start, lead, start_three found (by omega) (by omega), List.foldl_cons,
    step_more (by omega) (by omega) (by omega), next, List.foldl_cons,
    step_last (by omega) (by omega), last, List.foldl_nil]
  have value : ((n / 4096 + 0xE0 - 0xE0) * 64 + (n / 64 % 64 + 0x80 - 0x80)) * 64 +
      (n % 64 + 0x80 - 0x80) = n := by omega
  rw [value]

theorem foldl_step_four (found : List Piece) {n : Nat} (h₁ : 0xFFFF < n) (h₂ : n < 0x110000) :
    [UInt8.ofNat (n / 262144 % 0x08 + 0xF0), UInt8.ofNat (n / 4096 % 0x40 + 0x80),
      UInt8.ofNat (n / 64 % 0x40 + 0x80), UInt8.ofNat (n % 0x40 + 0x80)].foldl step
      ⟨found, none⟩ = ⟨.char (Char.ofNat n) :: found, none⟩ := by
  have lead : (UInt8.ofNat (n / 262144 % 0x08 + 0xF0)).toNat = n / 262144 + 0xF0 := by
    rw [toNat_ofNat (by omega)]
    omega
  have next := toNat_trailing (n / 4096)
  have third := toNat_trailing (n / 64)
  have last := toNat_trailing n
  have least : leastAfter (n / 262144 + 0xF0) ≤ n / 4096 % 64 + 0x80 := by
    unfold leastAfter
    split
    · omega
    · split <;> omega
  have greatest : n / 4096 % 64 + 0x80 ≤ greatestAfter (n / 262144 + 0xF0) := by
    unfold greatestAfter
    split
    · omega
    · split <;> omega
  rw [List.foldl_cons, step_start, lead, start_four found (by omega) (by omega), List.foldl_cons,
    step_more (by omega) (by omega) (by omega), next, List.foldl_cons,
    step_more (by omega) (by omega) (by omega), third, List.foldl_cons,
    step_last (by omega) (by omega), last, List.foldl_nil]
  have value : (((n / 262144 + 0xF0 - 0xF0) * 64 + (n / 4096 % 64 + 0x80 - 0x80)) * 64 +
      (n / 64 % 64 + 0x80 - 0x80)) * 64 + (n % 64 + 0x80 - 0x80) = n := by omega
  rw [value]

/-- The octets of a character in its four shapes. -/
theorem encodeChar_eq (c : Char) :
    String.utf8EncodeChar c =
      if c.toNat ≤ 0x7F then [UInt8.ofNat c.toNat]
      else if c.toNat ≤ 0x7FF then
        [UInt8.ofNat (c.toNat / 64 % 0x20 + 0xC0), UInt8.ofNat (c.toNat % 0x40 + 0x80)]
      else if c.toNat ≤ 0xFFFF then
        [UInt8.ofNat (c.toNat / 4096 % 0x10 + 0xE0), UInt8.ofNat (c.toNat / 64 % 0x40 + 0x80),
          UInt8.ofNat (c.toNat % 0x40 + 0x80)]
      else
        [UInt8.ofNat (c.toNat / 262144 % 0x08 + 0xF0), UInt8.ofNat (c.toNat / 4096 % 0x40 + 0x80),
          UInt8.ofNat (c.toNat / 64 % 0x40 + 0x80), UInt8.ofNat (c.toNat % 0x40 + 0x80)] := rfl

/-- An octet of a character is the character's number, or it is none of ASCII. -/
theorem toNat_of_mem_encodeChar {c : Char} {o : UInt8} (h : o ∈ String.utf8EncodeChar c) :
    o.toNat = c.toNat ∨ 0x80 ≤ o.toNat := by
  have large : ∀ n, 0x80 ≤ n → n < 0x100 → 0x80 ≤ (UInt8.ofNat n).toNat := by
    intro n low high
    rwa [toNat_ofNat high]
  have valid : c.toNat < 0x110000 := by
    have : c.toNat < 0xD800 ∨ 0xDFFF < c.toNat ∧ c.toNat < 0x110000 := c.valid
    omega
  rw [encodeChar_eq] at h
  split at h
  · obtain rfl := List.mem_singleton.1 h
    exact .inl (toNat_ofNat (by omega))
  · refine .inr ?_
    revert o
    split
    · simp only [List.forall_mem_cons]
      exact ⟨large _ (by omega) (by omega), large _ (by omega) (by omega), by simp⟩
    split
    · simp only [List.forall_mem_cons]
      exact ⟨large _ (by omega) (by omega), large _ (by omega) (by omega),
        large _ (by omega) (by omega), by simp⟩
    · simp only [List.forall_mem_cons]
      exact ⟨large _ (by omega) (by omega), large _ (by omega) (by omega),
        large _ (by omega) (by omega), large _ (by omega) (by omega), by simp⟩

/-- The octets of a character are read as that character. -/
theorem foldl_step_encodeChar (found : List Piece) (c : Char) :
    (String.utf8EncodeChar c).foldl step ⟨found, none⟩ = ⟨.char c :: found, none⟩ := by
  have valid : c.toNat < 0xD800 ∨ 0xDFFF < c.toNat ∧ c.toNat < 0x110000 := c.valid
  suffices h : (String.utf8EncodeChar c).foldl step ⟨found, none⟩ =
      ⟨.char (Char.ofNat c.toNat) :: found, none⟩ by rwa [Char.ofNat_toNat] at h
  rw [encodeChar_eq]
  split
  · exact foldl_step_one found (by omega)
  split
  · exact foldl_step_two found (by omega) (by omega)
  split
  · exact foldl_step_three found (by omega) (by omega) (by omega)
  · exact foldl_step_four found (by omega) (by omega)

/-! ### Texts -/

theorem encode_nil : encode [] = [] := rfl

theorem encode_append (cs ds : List Char) : encode (cs ++ ds) = encode cs ++ encode ds :=
  List.flatMap_append

theorem encode_cons (c : Char) (cs : List Char) :
    encode (c :: cs) = String.utf8EncodeChar c ++ encode cs :=
  List.flatMap_cons

theorem foldl_step_encode (found : List Piece) (cs : List Char) :
    (encode cs).foldl step ⟨found, none⟩ = ⟨(cs.map Piece.char).reverse ++ found, none⟩ := by
  induction cs generalizing found with
  | nil => rfl
  | cons c rest ih =>
      rw [encode, List.flatMap_cons, List.foldl_append, foldl_step_encodeChar]
      simpa [encode] using ih (.char c :: found)

/-- The octets of a text fall into its characters. -/
theorem pieces_encode (cs : List Char) : pieces (encode cs) = cs.map .char := by
  simp [pieces, foldl_step_encode]

theorem decodePieces_map_char (position : Nat) (read cs : List Char) :
    decodePieces position read (cs.map .char) = .ok (read.reverse ++ cs) := by
  induction cs generalizing position read with
  | nil => simp [decodePieces]
  | cons c rest ih => simp [decodePieces, ih]

/-- **Strict reading** gives a text back. -/
theorem decode_encode (cs : List Char) : decode (encode cs) = .ok cs := by
  rw [decode, pieces_encode, decodePieces_map_char, List.reverse_nil, List.nil_append]

/-- Different texts have different octets. -/
theorem encode_injective {cs ds : List Char} (h : encode cs = encode ds) : cs = ds := by
  have := congrArg decode h
  rw [decode_encode, decode_encode] at this
  exact Except.ok.inj this

/-- **Lenient reading** gives a text back. -/
theorem decodeLossy_encode (cs : List Char) : decodeLossy (encode cs) = cs := by
  rw [decodeLossy, pieces_encode, List.map_map]
  exact List.map_id cs

/-! ### Null characters -/

/-- A number other than zero that is a code point is no null character. -/
theorem ofNat_ne_null {n : Nat} (nonzero : n ≠ 0) (valid : n.isValidChar) :
    Char.ofNat n ≠ '\x00' := by
  intro e
  have code := congrArg Char.toNat e
  rw [Char.ofNat, dif_pos valid] at code
  exact nonzero code

/-- All numbers between these are code points beyond ASCII. -/
def Beyond (least greatest : Nat) : Prop :=
  0x80 ≤ least ∧ (greatest < 0xD800 ∨ 0xDFFF < least ∧ greatest < 0x110000)

/-- Whatever octets follow, a character that has begun comes to a code point beyond ASCII: each of
them brings six bits, and the next one lies between `low` and `high`. -/
def LeadsBeyond (owed low high value : Nat) : Prop :=
  0x80 ≤ low ∧
    let least := value * 64 + (low - 0x80)
    let greatest := value * 64 + (high - 0x80)
    match owed with
    | 1 => Beyond least greatest
    | 2 => Beyond (least * 64) (greatest * 64 + 63)
    | 3 => Beyond (least * 4096) (greatest * 4096 + 4095)
    | _ => False

/-- No null character has been found, and none has begun. -/
structure Reading.NullFree (r : Reading) : Prop where
  found : .char '\x00' ∉ r.found
  begun : ∀ g ∈ r.begun, LeadsBeyond g.owed g.low g.high g.value

section NullFree

variable {found : List Piece} {b : Nat}

theorem nullFree_cons (h : .char '\x00' ∉ found) {p : Piece} (other : p ≠ .char '\x00') :
    (⟨p :: found, none⟩ : Reading).NullFree :=
  ⟨by simp [h, other.symm], nofun⟩

theorem nullFree_begun (h : .char '\x00' ∉ found) {g : Begun}
    (beyond : LeadsBeyond g.owed g.low g.high g.value) : (⟨found, some g⟩ : Reading).NullFree :=
  ⟨h, fun _ e => Option.some.inj e ▸ beyond⟩

theorem start_nullFree (h : .char '\x00' ∉ found) (nonzero : b ≠ 0) :
    (start found b).NullFree := by
  unfold start
  split
  · refine nullFree_cons h fun e => ?_
    exact ofNat_ne_null nonzero (.inl (by omega)) (Piece.char.inj e)
  split
  · exact nullFree_cons h nofun
  iterate 7
    split
    · refine nullFree_begun h ?_
      simp only [LeadsBeyond, Beyond]
      omega
  · exact nullFree_cons h nofun

theorem step_nullFree {r : Reading} (h : r.NullFree) {o : UInt8} (nonzero : o ≠ 0) :
    (step r o).NullFree := by
  have nonzero : o.toNat ≠ 0 := fun e => nonzero (UInt8.toNat_inj.mp e)
  obtain ⟨found, none | ⟨seen, owed, low, high, value⟩⟩ := r
  · exact start_nullFree h.found nonzero
  · have beyond := h.begun _ rfl
    by_cases within : low ≤ o.toNat ∧ o.toNat ≤ high
    · match owed, beyond with
      | 1, beyond =>
          rw [step_last within.1 within.2]
          obtain ⟨large, value⟩ := beyond
          simp only [Beyond] at value
          refine nullFree_cons h.found fun e => ofNat_ne_null ?_ ?_ (Piece.char.inj e)
          · omega
          · unfold Nat.isValidChar
            omega
      | 2, beyond =>
          rw [step_more within.1 within.2 (by decide)]
          refine nullFree_begun h.found ?_
          simp only [LeadsBeyond, Beyond] at beyond ⊢
          omega
      | 3, beyond =>
          rw [step_more within.1 within.2 (by decide)]
          refine nullFree_begun h.found ?_
          simp only [LeadsBeyond, Beyond] at beyond ⊢
          omega
    · have stuck : step ⟨found, some ⟨seen, owed, low, high, value⟩⟩ o =
          start (.malformed seen :: found) o.toNat := by
        simp only [step, if_neg within]
      rw [stuck]
      refine start_nullFree ?_ nonzero
      simp [h.found]

theorem foldl_step_nullFree {octets : Octets} (nonzero : 0 ∉ octets) {r : Reading}
    (h : r.NullFree) : (octets.foldl step r).NullFree := by
  induction octets generalizing r with
  | nil => exact h
  | cons o rest ih =>
      rw [List.mem_cons, not_or] at nonzero
      exact ih nonzero.2 (step_nullFree h (Ne.symm nonzero.1))

end NullFree

theorem null_not_mem_pieces {octets : Octets} (nonzero : 0 ∉ octets) :
    .char '\x00' ∉ pieces octets := by
  have h : (octets.foldl step ⟨[], none⟩).NullFree :=
    foldl_step_nullFree nonzero ⟨by simp, nofun⟩
  simp only [pieces]
  split <;> simp [h.found]

/-- Strict reading succeeds on pieces that are all characters, and these are what it reads. -/
theorem decodePieces_eq_ok {position : Nat} {read cs : List Char} {ps : List Piece}
    (h : decodePieces position read ps = .ok cs) :
    ∃ more, cs = read.reverse ++ more ∧ ps = more.map .char := by
  induction ps generalizing position read with
  | nil =>
      cases h
      exact ⟨[], by simp, rfl⟩
  | cons p rest ih =>
      cases p with
      | char c =>
          obtain ⟨more, rfl, rfl⟩ := ih h
          exact ⟨c :: more, by simp, rfl⟩
      | malformed n => cases h
      | unfinished n => cases h

/-- **No null character** is read from octets none of which is zero. -/
theorem null_not_mem_of_decode {octets : Octets} {cs : List Char} (h : decode octets = .ok cs)
    (nonzero : 0 ∉ octets) : '\x00' ∉ cs := by
  obtain ⟨more, rfl, eq⟩ := decodePieces_eq_ok h
  have := null_not_mem_pieces nonzero
  rw [eq] at this
  simpa using this

end Utf8

end FractalArchive
