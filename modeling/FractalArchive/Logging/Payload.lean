/-!
# Payloads of panics

A payload may repeat what a client sent, so a log shows it on one line and cut to a number of
characters.  A payload that is cut ends in three dots.
-/

namespace FractalArchive.Logging

/-- A character on one line. -/
def oneLine (c : Char) : Char :=
  if c = '\n' ∨ c = '\r' then ' ' else c

/-- What follows a text that is cut. -/
def ellipsis : List Char := ['.', '.', '.']

/-- A text on one line, cut after `cap` characters. -/
def sanitize (cap : Nat) (text : List Char) : List Char :=
  let line := text.map oneLine
  if cap < line.length then line.take cap ++ ellipsis else line

/-- The number of characters that a log shows of a payload. -/
def maxPayloadChars : Nat := 160

/-- What a log shows of a payload. -/
def shownPayload (text : String) : String :=
  String.ofList (sanitize maxPayloadChars text.toList)

/-- What a log shows of a payload that is no text. -/
def wordlessPayload : String := "non-string panic payload"

/-- A character on one line is no line break. -/
theorem oneLine_ne (c : Char) : oneLine c ≠ '\n' ∧ oneLine c ≠ '\r' := by
  unfold oneLine
  split
  · decide
  · rename_i h
    exact ⟨fun hn => h (.inl hn), fun hr => h (.inr hr)⟩

end FractalArchive.Logging
