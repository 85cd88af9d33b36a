import FractalArchive.Settings.Setting

/-!
# The values of settings

What the texts of settings mean.  A port is written as a decimal number up to the greatest port,
after a sign or without one (`readPort_eq_ok_iff`), a switch as one of the words for on and off
(`readSwitch_eq_ok_iff`); any other setting is its text.  So a text has a fault if and only if its
setting does not accept it (`Setting.fault?_eq_none_iff`), and settings made of accepted texts
follow them (`Settings.follows_ofTexts`).
-/

namespace FractalArchive

/-! ### Numbers -/

/-- Decimal digits, at least one, that stand for a number. -/
def IsDecimal (digits : List Char) (n : Nat) : Prop :=
  digits ≠ [] ∧ (∀ c ∈ digits, c.isDigit = true) ∧ Nat.ofDigitChars 10 digits 0 = n

/-- A text for a port: decimal digits of its number, before which a sign may stand.  Only zero may
have a minus. -/
def IsPort (text : String) (n : Nat) : Prop :=
  ∃ sign digits, text.toList = sign ++ digits ∧ IsDecimal digits n ∧ n ≤ 65535 ∧
    (sign = [] ∨ sign = ['+'] ∨ sign = ['-'] ∧ n = 0)

theorem le_ofDigitChars (cs : List Char) (n : Nat) : n ≤ Nat.ofDigitChars 10 cs n := by
  induction cs generalizing n with
  | nil => exact Nat.le_refl n
  | cons c rest ih =>
      have := ih (10 * n + (c.toNat - '0'.toNat))
      rw [Nat.ofDigitChars_cons]
      omega

/-- Digits are read as their number if that stays within the limit. -/
theorem readDigits_eq_ok_iff {limit n m : Nat} {beyond : ValueFault} {cs : List Char}
    (start : n ≤ limit) : readDigits limit beyond n cs = .ok m ↔
      (∀ c ∈ cs, c.isDigit = true) ∧ Nat.ofDigitChars 10 cs n = m ∧ m ≤ limit := by
  induction cs generalizing n with
  | nil =>
      simp only [readDigits, Except.ok.injEq, List.not_mem_nil, false_implies, implies_true,
        Nat.ofDigitChars_nil, true_and]
      omega
  | cons c rest ih =>
      rw [readDigits, Nat.ofDigitChars_cons, List.forall_mem_cons, Nat.mul_comm 10 n]
      have digit : ('0' ≤ c ∧ c ≤ '9') ↔ c.isDigit = true := by
        simp [Char.isDigit, Char.le_def]
      simp only [digit]
      by_cases h : c.isDigit = true
      · rw [if_pos h]
        by_cases large : limit < n * 10 + (c.toNat - '0'.toNat)
        · -- More digits make no smaller number.
          have more := le_ofDigitChars rest (n * 10 + (c.toNat - '0'.toNat))
          simp only [if_pos large, reduceCtorEq, false_iff]
          omega
        · rw [if_neg large, ih (Nat.not_lt.mp large)]
          simp [h]
      · simp [h]

theorem readDigits_of_isDecimal {limit n : Nat} {beyond : ValueFault} {digits : List Char}
    (h : IsDecimal digits n) (bound : n ≤ limit) : readDigits limit beyond 0 digits = .ok n :=
  (readDigits_eq_ok_iff (Nat.zero_le limit)).2 ⟨h.2.1, h.2.2, bound⟩

theorem isDecimal_of_readDigits {limit n : Nat} {beyond : ValueFault} {digits : List Char}
    (ne : digits ≠ []) (h : readDigits limit beyond 0 digits = .ok n) : IsDecimal digits n :=
  have ⟨all, value, _⟩ := (readDigits_eq_ok_iff (Nat.zero_le limit)).1 h
  ⟨ne, all, value⟩

section readNumber

variable {digits : List Char}

theorem readNumber_plus (ne : digits ≠ []) : readNumber ('+' :: digits) =
    (readDigits greatestNumber .tooLarge 0 digits).map Int.ofNat := by
  cases digits with
  | nil => exact absurd rfl ne
  | cons c rest => rfl

theorem readNumber_minus (ne : digits ≠ []) : readNumber ('-' :: digits) =
    (readDigits (greatestNumber + 1) .tooSmall 0 digits).map fun n => - Int.ofNat n := by
  cases digits with
  | nil => exact absurd rfl ne
  | cons c rest => rfl

theorem readNumber_unsigned (ne : digits ≠ []) (plus : digits.head? ≠ some '+')
    (minus : digits.head? ≠ some '-') : readNumber digits =
      (readDigits greatestNumber .tooLarge 0 digits).map Int.ofNat := by
  unfold readNumber
  split <;> simp_all

theorem isDecimal_of_map_readDigits {limit : Nat} {beyond : ValueFault} {f : Nat → Int} {i : Int}
    (ne : digits ≠ []) (h : (readDigits limit beyond 0 digits).map f = .ok i) :
    ∃ n, IsDecimal digits n ∧ f n = i := by
  cases read : readDigits limit beyond 0 digits with
  | error fault => rw [read] at h; cases h
  | ok n =>
      rw [read] at h
      exact ⟨n, isDecimal_of_readDigits ne read, Except.ok.inj h⟩

/-- A number that is read is written in digits, perhaps after a sign. -/
theorem exists_isDecimal_of_readNumber {text : List Char} {i : Int} (h : readNumber text = .ok i) :
    ∃ sign digits n, text = sign ++ digits ∧ IsDecimal digits n ∧
      ((sign = [] ∨ sign = ['+']) ∧ i = n ∨ sign = ['-'] ∧ i = -n) := by
  cases text with
  | nil => cases h
  | cons c rest =>
      by_cases plus : c = '+'
      · subst plus
        cases rest with
        | nil => cases h
        | cons d more =>
            rw [readNumber_plus (List.cons_ne_nil d more)] at h
            obtain ⟨n, decimal, rfl⟩ := isDecimal_of_map_readDigits (List.cons_ne_nil d more) h
            exact ⟨['+'], d :: more, n, rfl, decimal, .inl ⟨.inr rfl, rfl⟩⟩
      by_cases minus : c = '-'
      · subst minus
        cases rest with
        | nil => cases h
        | cons d more =>
            rw [readNumber_minus (List.cons_ne_nil d more)] at h
            obtain ⟨n, decimal, rfl⟩ := isDecimal_of_map_readDigits (List.cons_ne_nil d more) h
            exact ⟨['-'], d :: more, n, rfl, decimal, .inr ⟨rfl, rfl⟩⟩
      · rw [readNumber_unsigned (List.cons_ne_nil c rest) (by simpa using plus)
          (by simpa using minus)] at h
        obtain ⟨n, decimal, rfl⟩ := isDecimal_of_map_readDigits (List.cons_ne_nil c rest) h
        exact ⟨[], c :: rest, n, rfl, decimal, .inl ⟨.inl rfl, rfl⟩⟩

end readNumber

/-- **Reading a port** gives its number if it is written as one. -/
theorem readPort_eq_ok_iff {text : String} {n : Nat} : readPort text = .ok n ↔ IsPort text n := by
  have small : ∀ {n : Nat}, n ≤ 65535 → n ≤ greatestNumber := fun h =>
    Nat.le_trans h (by decide)
  constructor
  · intro h
    unfold readPort at h
    split at h
    · cases h
    · rename_i i read
      split at h
      · rename_i range
        obtain ⟨sign, digits, m, text_eq, decimal, signs⟩ := exists_isDecimal_of_readNumber read
        have greatest : Settings.maxPort = 65535 := rfl
        rcases signs with ⟨sign_eq, value⟩ | ⟨sign_eq, value⟩
        · obtain rfl : m = n := by simpa [value] using h
          refine ⟨sign, digits, text_eq, decimal, by omega, ?_⟩
          rcases sign_eq with e | e
          · exact .inl e
          · exact .inr (.inl e)
        · -- A number after a minus is at least zero only if it is zero.
          have zero : m = 0 := by omega
          obtain rfl : m = n := by simpa [value, zero] using h
          exact ⟨sign, digits, text_eq, decimal, by omega, .inr (.inr ⟨sign_eq, zero⟩)⟩
      · cases h
  · rintro ⟨sign, digits, text_eq, decimal, bound, signs⟩
    have number : readNumber text.toList = .ok (n : Int) := by
      rw [text_eq]
      rcases signs with rfl | rfl | ⟨rfl, zero⟩
      · have unsigned : ∀ sign : Char, sign.isDigit = false → digits.head? ≠ some sign := by
          intro sign hs e
          rw [decimal.2.1 sign (List.mem_of_head? e)] at hs
          exact Bool.noConfusion hs
        rw [List.nil_append, readNumber_unsigned decimal.1 (unsigned '+' rfl) (unsigned '-' rfl),
          readDigits_of_isDecimal decimal (small bound)]
        rfl
      · rw [List.singleton_append, readNumber_plus decimal.1,
          readDigits_of_isDecimal decimal (small bound)]
        rfl
      · rw [List.singleton_append, readNumber_minus decimal.1,
          readDigits_of_isDecimal decimal (Nat.le_succ_of_le (small bound)), zero]
        rfl
    have range : (0 : Int) ≤ n ∧ (n : Int) ≤ Settings.maxPort :=
      ⟨Int.natCast_nonneg n, Int.ofNat_le.2 bound⟩
    simp only [readPort, number, if_pos range, Int.toNat_natCast]

/-! ### Switches -/

/-- A text for a switch: one of the words for its state, in any case. -/
def IsSwitch (text : String) (on : Bool) : Prop :=
  String.ofList (text.toList.map Char.toLower) ∈ if on then onWords else offWords

/-- **Reading a switch** gives its state if it is written as one. -/
theorem readSwitch_eq_ok_iff {text : String} {on : Bool} :
    readSwitch text = .ok on ↔ IsSwitch text on := by
  have apart : ∀ word ∈ offWords, word ∉ onWords := by decide
  simp only [readSwitch, IsSwitch]
  generalize String.ofList (text.toList.map Char.toLower) = word
  cases on with
  | true =>
      by_cases h : word ∈ onWords
      · simp [h]
      · by_cases h' : word ∈ offWords <;> simp [h, h']
  | false =>
      by_cases h : word ∈ offWords
      · simp [h, apart word h]
      · by_cases h' : word ∈ onWords <;> simp [h, h']

/-! ### Settings -/

/-- Whether a text is a value of a setting.  Only a port and a switch are not any text. -/
def Setting.Accepts (text : String) : Setting → Prop
  | .port => ∃ n, IsPort text n
  | .debug => ∃ on, IsSwitch text on
  | _ => True

/-- A text has no fault if and only if its setting accepts it. -/
theorem Setting.fault?_eq_none_iff {s : Setting} {text : String} :
    s.fault? text = none ↔ s.Accepts text := by
  cases s with
  | port =>
      simp only [fault?, Accepts, ← readPort_eq_ok_iff]
      cases readPort text <;> simp
  | debug =>
      simp only [fault?, Accepts, ← readSwitch_eq_ok_iff]
      cases readSwitch text <;> simp
  | _ => simp [fault?, Accepts]

/-- The settings that texts for them ask for; a setting without a text has its default. -/
structure Settings.Follows (text : Setting → Option String) (c : Settings) : Prop where
  databaseUrl : c.databaseUrl = (text .databaseUrl).getD "sqlite:///burrito.db"
  debug : match text .debug with
    | some t => IsSwitch t c.debug
    | none => c.debug = false
  host : c.host = (text .host).getD "127.0.0.1"
  port : match text .port with
    | some t => IsPort t c.port
    | none => c.port = 5000
  logLevel : c.logLevel = text .logLevel
  logDirectory : c.logDirectory = text .logDirectory

/-- **Settings made of accepted texts** follow them. -/
theorem Settings.follows_ofTexts {text : Setting → Option String}
    (accepted : ∀ s t, text s = some t → s.Accepts t) : (ofTexts text).Follows text where
  databaseUrl := rfl
  debug := by
    cases h : text .debug with
    | none => simp [ofTexts, h]
    | some t =>
        obtain ⟨on, switch⟩ := accepted .debug t h
        simpa [ofTexts, h, readSwitch_eq_ok_iff.2 switch] using switch
  host := rfl
  port := by
    cases h : text .port with
    | none => simp [ofTexts, h, defaultPort]
    | some t =>
        obtain ⟨n, port⟩ := accepted .port t h
        simpa [ofTexts, h, readPort_eq_ok_iff.2 port] using port
  logLevel := rfl
  logDirectory := rfl

end FractalArchive
