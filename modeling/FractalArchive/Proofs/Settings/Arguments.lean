import FractalArchive.Proofs.Settings.Values
import FractalArchive.Settings.CommandLine

/-!
# Options given on a command line

Options that are given once each, with values that their settings accept, are read as what they
mean, in whatever order and spelling they come (`readArguments_words`).  A value in an argument of
its own is looked at when the next option comes or the arguments end; what a reading position
amounts to is therefore said by what it settles to (`exists_readArguments_eq`).
-/

namespace FractalArchive.CommandLine

/-- An option as it is given. -/
inductive Occurrence where
  /-- The word of debug mode, which has no value. -/
  | debug
  /-- A value in the argument of its option. -/
  | joined (s : Setting) (text : String) (takesValue : s.takesValue = true)
      (accepted : s.Accepts text)
  /-- A value in the argument after its option, where it must not look like an option. -/
  | separate (s : Setting) (text : String) (takesValue : s.takesValue = true)
      (accepted : s.Accepts text) (dash : text.toList.head? = some '-' → text = "-")

namespace Occurrence

/-- The setting of an option. -/
def setting : Occurrence → Setting
  | .debug => .debug
  | .joined s .. => s
  | .separate s .. => s

/-- The text that an option gives to its setting. -/
def text : Occurrence → String
  | .debug => "true"
  | .joined _ text .. => text
  | .separate _ text .. => text

/-- What an option means. -/
def meaning (o : Occurrence) : Setting × String :=
  (o.setting, o.text)

/-- The arguments by which an option is given. -/
def words : Occurrence → List String
  | .debug => ["--debug"]
  | .joined s text .. => ["--" ++ s.word ++ "=" ++ text]
  | .separate s text .. => ["--" ++ s.word, text]

theorem accepted : ∀ o : Occurrence, o.setting.Accepts o.text
  | .debug => ⟨true, readSwitch_eq_ok_iff.1 rfl⟩
  | .joined _ _ _ h => h
  | .separate _ _ _ h _ => h

end Occurrence

/-! ### Shapes -/

theorem shape_word (s : Setting) :
    Shape.of ("--" ++ s.word).toList = .long s.word.toList none := by
  cases s <;> decide

theorem shape_long {word : List Char} (h : '=' ∉ word) (value : List Char) :
    Shape.of ('-' :: '-' :: (word ++ '=' :: value)) = .long word (some value) := by
  have before : (word ++ '=' :: value).takeWhile (· ≠ '=') = word := by
    rw [List.takeWhile_append_of_pos fun c hc => decide_eq_true (ne_of_mem_of_not_mem hc h),
      List.takeWhile_cons_of_neg (by simp), List.append_nil]
  have after : (word ++ '=' :: value).drop word.length = '=' :: value := List.drop_left
  cases e : word ++ '=' :: value with
  | nil => simp at e
  | cons c rest =>
      rw [e] at before after
      simp only [Shape.of, before, after]

theorem shape_joined (s : Setting) (text : String) :
    Shape.of ("--" ++ s.word ++ "=" ++ text).toList = .long s.word.toList (some text.toList) := by
  have noEquals : '=' ∉ s.word.toList := by cases s <;> decide
  simpa using shape_long noEquals text.toList

theorem shape_value {text : String} (dash : text.toList.head? = some '-' → text = "-") :
    Shape.of text.toList = .plain := by
  by_cases h : text.toList.head? = some '-'
  · rw [dash h]
    rfl
  · unfold Shape.of
    split <;> simp_all

theorem ofWord?_word (s : Setting) : Flag.ofWord? s.word = some (.setting s) := by
  cases s <;> decide

/-! ### One option -/

theorem has_eq_false {g : Given} {s : Setting} : g.has s = false ↔ s ∉ g.map Prod.fst := by
  simp only [Given.has, Option.isSome_eq_false_iff, Option.isNone_iff_eq_none,
    List.lookup_eq_none_iff, bne_iff_ne, ne_eq, List.mem_map, not_exists, not_and]
  exact forall₂_congr fun pair _ => not_congr eq_comm

theorem enter_of_accepted {g : Given} {s : Setting} {text : String} (new : g.has s = false)
    (accepted : s.Accepts text) : enter g s text = .ok (g ++ [(s, text)]) := by
  simp [enter, new, Setting.fault?_eq_none_iff.2 accepted]

/-- An argument in the shape of an option is read as the option. -/
theorem readArguments_flag {argument : String} {s : Setting} {value : Option (List Char)}
    (shape : Shape.of argument.toList = .long s.word.toList value) {g : Given} {p : Pending}
    {g₁ : Given} {p₁ : Pending} (flag : readFlag g p (.setting s) value = .ok (g₁, p₁))
    (rest : List String) : readArguments g p (argument :: rest) = readArguments g₁ p₁ rest := by
  simp [readArguments, readArgument, shape, ofWord?_word, flag]

variable {g g' : Given} {p : Pending}

/-- **One option** leads to a position that settles to what it means, after what the position before
it settles to. -/
theorem exists_readArguments_eq (settled : settle g p = .ok g') (o : Occurrence)
    (new : g'.has o.setting = false) :
    ∃ g₁ p₁, settle g₁ p₁ = .ok (g' ++ [o.meaning]) ∧
      ∀ rest, readArguments g p (o.words ++ rest) = readArguments g₁ p₁ rest := by
  cases o with
  | debug =>
      have flag : readFlag g p (.setting .debug) none = .ok (g' ++ [(.debug, "true")], none) := by
        have entered : enter g' .debug Setting.givenText = .ok (g' ++ [(.debug, "true")]) :=
          enter_of_accepted new (Occurrence.accepted .debug)
        have alone : Setting.debug.takesValue = false := rfl
        simp only [readFlag, settled, bind, Except.bind, alone, Bool.false_eq_true, if_false,
          entered]
        rfl
      exact ⟨_, none, rfl, readArguments_flag (shape_word .debug) flag⟩
  | joined s text takesValue accepted =>
      have flag : readFlag g p (.setting s) (some text.toList) = .ok (g' ++ [(s, text)], none) := by
        have entered : enter g' s text = .ok (g' ++ [(s, text)]) := enter_of_accepted new accepted
        simp only [readFlag, if_pos takesValue, settled, String.ofList_toList, bind, Except.bind,
          entered]
        rfl
      exact ⟨_, none, rfl, readArguments_flag (shape_joined s text) flag⟩
  | separate s text takesValue accepted dash =>
      have flag : readFlag g p (.setting s) none = .ok (g', some (s, none)) := by
        simp only [readFlag, settled, bind, Except.bind, takesValue]
        rfl
      -- The value stays pending: it is entered when the position is settled.
      refine ⟨g', some (s, some text), enter_of_accepted new accepted, fun rest => ?_⟩
      rw [Occurrence.words, List.cons_append, readArguments_flag (shape_word s) flag]
      simp [readArguments, readArgument, shape_value dash]

/-! ### All options -/

/-- **Options given once each** are read as what they mean. -/
theorem readArguments_words (settled : settle g p = .ok g') {os : List Occurrence}
    (once : (g'.map Prod.fst ++ os.map Occurrence.setting).Nodup) :
    readArguments g p (os.flatMap Occurrence.words) = .ok (g' ++ os.map Occurrence.meaning) := by
  induction os generalizing g g' p with
  | nil => simpa [readArguments] using settled
  | cons o rest ih =>
      have new : g'.has o.setting = false := by
        refine has_eq_false.2 fun given => ?_
        exact (List.nodup_append.1 once).2.2 _ given _ List.mem_cons_self rfl
      obtain ⟨g₁, p₁, settled', eq⟩ := exists_readArguments_eq settled o new
      rw [List.flatMap_cons, eq, ih settled' (by simpa [Occurrence.meaning] using once)]
      simp

end FractalArchive.CommandLine
