import FractalArchive.Logging.Basic

/-!
# Payloads on one line

A payload may hold anything, but what a log shows of it is one line of bounded length.

* `length_sanitize`, `onOneLine_sanitize`: a text of at most `cap` characters keeps its length, a
  longer one becomes `cap + 3` characters, and neither has a line break.
* `sanitize_sanitize`: showing what is shown already changes nothing.  A text that has been cut is
  longer than the cap and is cut again, at the place where the three dots were added, and gets them
  again.
* `sanitize_take`: the first `cap + 1` characters decide what is shown, as the last of them only
  tells whether the text is cut.
* `panicked_bounded`: so the event of a panic is one line, however long the payload and whatever is
  in it.
-/

namespace FractalArchive.Logging

/-- A text without line breaks. -/
def OnOneLine (text : List Char) : Prop :=
  '\n' ∉ text ∧ '\r' ∉ text

instance (text : List Char) : Decidable (OnOneLine text) :=
  inferInstanceAs (Decidable ('\n' ∉ text ∧ '\r' ∉ text))

variable {cap : Nat} {text xs ys : List Char}

/-! ### Line breaks -/

theorem oneLine_of_ne {c : Char} (feed : c ≠ '\n') (carriage : c ≠ '\r') : oneLine c = c := by
  rw [oneLine, if_neg]
  rintro (rfl | rfl)
  · exact feed rfl
  · exact carriage rfl

theorem onOneLine_map (text : List Char) : OnOneLine (text.map oneLine) := by
  constructor
  · intro h
    obtain ⟨c, -, hc⟩ := List.mem_map.mp h
    exact (oneLine_ne c).1 hc
  · intro h
    obtain ⟨c, -, hc⟩ := List.mem_map.mp h
    exact (oneLine_ne c).2 hc

namespace OnOneLine

theorem map (h : OnOneLine text) : text.map oneLine = text := by
  have kept : ∀ c ∈ text, oneLine c = id c := fun c hc =>
    oneLine_of_ne (fun e => h.1 (e ▸ hc)) fun e => h.2 (e ▸ hc)
  rw [List.map_congr_left kept, List.map_id]

theorem append (hx : OnOneLine xs) (hy : OnOneLine ys) : OnOneLine (xs ++ ys) :=
  ⟨fun h => (List.mem_append.mp h).elim hx.1 hy.1, fun h => (List.mem_append.mp h).elim hx.2 hy.2⟩

theorem take (h : OnOneLine text) (n : Nat) : OnOneLine (text.take n) :=
  ⟨fun hm => h.1 (List.mem_of_mem_take hm), fun hm => h.2 (List.mem_of_mem_take hm)⟩

end OnOneLine

/-! ### What is shown -/

theorem sanitize_of_le (short : text.length ≤ cap) : sanitize cap text = text.map oneLine := by
  rw [sanitize, if_neg (by simpa using short)]

theorem sanitize_of_lt (long : cap < text.length) :
    sanitize cap text = (text.map oneLine).take cap ++ ellipsis := by
  rw [sanitize, if_pos (by simpa using long)]

/-- What is shown has no line breaks. -/
theorem onOneLine_sanitize (cap : Nat) (text : List Char) : OnOneLine (sanitize cap text) := by
  by_cases long : cap < text.length
  · rw [sanitize_of_lt long]
    exact ((onOneLine_map text).take cap).append (by decide)
  · rw [sanitize_of_le (Nat.le_of_not_lt long)]
    exact onOneLine_map text

/-- A text that is cut gets three more characters than the cap. -/
theorem length_sanitize (cap : Nat) (text : List Char) :
    (sanitize cap text).length = if cap < text.length then cap + 3 else text.length := by
  by_cases long : cap < text.length
  · have kept : min cap text.length = cap := Nat.min_eq_left (Nat.le_of_lt long)
    rw [sanitize_of_lt long, if_pos long, List.length_append, List.length_take, List.length_map,
      kept]
    rfl
  · rw [sanitize_of_le (Nat.le_of_not_lt long), if_neg long, List.length_map]

/-- A text on one line that has been cut to the cap is cut there again. -/
theorem sanitize_append_ellipsis (h : OnOneLine text) (full : text.length = cap) :
    sanitize cap (text ++ ellipsis) = text ++ ellipsis := by
  have line : OnOneLine (text ++ ellipsis) := h.append (by decide)
  have long : cap < (text ++ ellipsis).length := by
    rw [List.length_append, full]
    exact Nat.lt_add_of_pos_right (by decide)
  rw [sanitize_of_lt long, line.map, List.take_left' full]

/-- **What is shown is shown as it is.** -/
theorem sanitize_sanitize (cap : Nat) (text : List Char) :
    sanitize cap (sanitize cap text) = sanitize cap text := by
  have line := onOneLine_map text
  by_cases long : cap < text.length
  · have full : ((text.map oneLine).take cap).length = cap := by
      rw [List.length_take, List.length_map, Nat.min_eq_left (Nat.le_of_lt long)]
    rw [sanitize_of_lt long]
    exact sanitize_append_ellipsis (line.take cap) full
  · have short : text.length ≤ cap := Nat.le_of_not_lt long
    rw [sanitize_of_le short, sanitize_of_le (by simpa using short), line.map]

/-- What is shown of a text depends on the characters up to the one after the cap. -/
theorem sanitize_take (cap : Nat) (text : List Char) :
    sanitize cap (text.take (cap + 1)) = sanitize cap text := by
  by_cases long : cap < text.length
  · have still : cap < (text.take (cap + 1)).length := by
      rw [List.length_take]
      omega
    rw [sanitize_of_lt long, sanitize_of_lt still, List.map_take, List.take_take,
      Nat.min_eq_left (Nat.le_succ cap)]
  · rw [List.take_of_length_le (by omega)]

/-- What a log shows of any payload is one line of at most `maxPayloadChars` characters and three
dots. -/
theorem shownPayload_bounded (payload : String) :
    OnOneLine (shownPayload payload).toList ∧
      (shownPayload payload).length ≤ maxPayloadChars + 3 := by
  have line := onOneLine_sanitize maxPayloadChars payload.toList
  have length := length_sanitize maxPayloadChars payload.toList
  refine ⟨by rwa [shownPayload, String.toList_ofList], ?_⟩
  rw [shownPayload, String.length_ofList, length]
  split <;> omega

theorem message_panicCaptured (elapsed : Nat) (place shown : String) :
    Event.message elapsed (.panicCaptured place shown) =
      "event=panic_captured module=core status=error location=" ++ place ++ " payload=" ++ shown :=
  rfl

/-- **The event of a panic is one bounded line**, if the place of the panic is named on one. -/
theorem panicked_bounded {l : Log} {place payload : String} {e : Event}
    (captured : e ∈ l.panicked place payload) (line : OnOneLine place.toList) (elapsed : Nat) :
    OnOneLine (e.message elapsed).toList ∧ (e.message elapsed).length ≤
      (Event.message elapsed (.panicCaptured place "")).length + maxPayloadChars + 3 := by
  obtain ⟨shown, bounded⟩ := shownPayload_bounded payload
  have label : OnOneLine "event=panic_captured module=core status=error location=".toList := by
    decide
  have between : OnOneLine " payload=".toList := by decide
  obtain ⟨-, rfl⟩ := List.mem_replicate.mp captured
  rw [message_panicCaptured]
  constructor
  · rw [String.toList_append, String.toList_append, String.toList_append]
    exact ((label.append line).append between).append shown
  · rw [message_panicCaptured, String.length_append, String.length_append _ "", String.length_empty]
    omega

/-- **One bounded line.**  What is shown of a text has no line break; it has at most `cap`
characters, or `cap + 3` of which the last are dots; shown again it stays as it is; and it is the
same for all texts that agree in their first `cap + 1` characters. -/
theorem one_line (cap : Nat) (text : List Char) :
    ('\n' ∉ sanitize cap text ∧ '\r' ∉ sanitize cap text) ∧
    ((sanitize cap text).length ≤ cap ∨
      (sanitize cap text).length = cap + 3 ∧ "...".toList <:+ sanitize cap text) ∧
    sanitize cap (sanitize cap text) = sanitize cap text ∧
    ∀ other : List Char, other.take (cap + 1) = text.take (cap + 1) →
      sanitize cap other = sanitize cap text := by
  refine ⟨onOneLine_sanitize cap text, ?bounded, sanitize_sanitize cap text, ?hidden⟩
  case bounded =>
    rw [length_sanitize]
    by_cases long : cap < text.length
    · rw [if_pos long, sanitize_of_lt long]
      exact .inr ⟨rfl, List.suffix_append _ _⟩
    · rw [if_neg long]
      exact .inl (Nat.le_of_not_lt long)
  case hidden =>
    intro other agree
    rw [← sanitize_take cap other, agree, sanitize_take]

/-- A text that is cut within the end of its first line, and one that differs from it further on. -/
theorem one_line_sample :
    sanitize 7 "line 1\r\nline 2".toList = "line 1 ...".toList ∧
      (sanitize 7 "line 1\r\nline 2".toList).length = 10 ∧
      sanitize 7 (sanitize 7 "line 1\r\nline 2".toList) = sanitize 7 "line 1\r\nline 2".toList ∧
      sanitize 7 "line 1\r\nanother".toList = sanitize 7 "line 1\r\nline 2".toList := by
  obtain ⟨-, -, again, hidden⟩ := one_line 7 "line 1\r\nline 2".toList
  exact ⟨by decide, by decide, again, hidden "line 1\r\nanother".toList (by decide)⟩

end FractalArchive.Logging
