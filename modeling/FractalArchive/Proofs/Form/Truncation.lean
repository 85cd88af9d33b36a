import FractalArchive.Proofs.Form.Multipart
import FractalArchive.Proofs.Http.Routes

/-!
# Forms that break off

Reading a form is all or nothing (`all_or_nothing`).  A request is reported at most once, and a
reported request has no fields.  In particular a well-formed document that breaks off anywhere
before the end of its closing delimiter has no fields, whatever had been read by then, and a
submission of it is refused and changes nothing.

The place where the document breaks off is in the preamble, in a header, in a content or between the
closing dashes.  Each of them is the proper start of a stretch that ends with the mark that the
reader looks for, so the mark is not found (`splitAtMark_of_start`); the induction passes the parts
before that place.
-/

namespace FractalArchive

open Http

namespace Multipart

/-- A form that breaks off within the closing dashes. -/
theorem readNext_of_start_dashes {part : Octets} (start : part <+: dashes)
    (proper : part ≠ dashes) : readNext part = .broken := by
  match part, start, proper with
  | [], _, _ => rfl
  | [_], _, _ => rfl
  | a :: b :: more, start, proper =>
      have := start.eq_of_length_le (by simp [dashes])
      exact absurd this proper

/-- A form that breaks off within a header. -/
theorem readNext_of_start_header {p : Part} (h : p.Admissible) {part : Octets}
    (start : part <+: crlf ++ (p.header ++ (crlf ++ crlf)))
    (proper : part ≠ crlf ++ (p.header ++ (crlf ++ crlf))) : readNext part = .broken := by
  match part, start, proper with
  | [], _, _ => rfl
  | [_], _, _ => rfl
  | a :: b :: more, start, proper =>
      obtain ⟨rfl, second⟩ := List.cons_prefix_cons.mp start
      obtain ⟨rfl, within⟩ := List.cons_prefix_cons.mp second
      have cut : splitAtMark (crlf ++ crlf) more = none :=
        splitAtMark_of_start (onlyAtEnd_header h) within fun e => proper (by rw [e]; rfl)
      have lineEnd : (0x0D :: 0x0A :: more).dropWhile PartHeaders.isBlankOctet =
          0x0D :: 0x0A :: more := List.dropWhile_cons_of_neg (by decide)
      show readNext (0x0D :: 0x0A :: more) = _
      unfold readNext
      simp only [lineEnd, cut]
      rfl

/-- Parts that break off have no fields, whatever was read before. -/
theorem readParts_of_start {boundary : Octets} {parts : List Part}
    (h : ∀ p ∈ parts, p.Admissible ∧ OnlyAtEnd (crlf ++ delimiter boundary) p.content)
    {part : Octets} (start : part <+: afterDelimiter boundary parts)
    (proper : part ≠ afterDelimiter boundary parts) (fuel : Nat) (read : Fields) :
    ∃ cause, readParts (delimiter boundary) fuel read part = .error cause := by
  induction parts generalizing part fuel read with
  | nil =>
      cases fuel with
      | zero => exact ⟨_, rfl⟩
      | succ fuel =>
          rw [readParts, readNext_of_start_dashes start proper]
          exact ⟨_, rfl⟩
  | cons p rest ih =>
      obtain ⟨hp, hc⟩ := h p List.mem_cons_self
      cases fuel with
      | zero => exact ⟨_, rfl⟩
      | succ fuel =>
          -- The form breaks off in the header, in the content, or after this part.
          rw [afterDelimiter, List.append_assoc] at start proper
          rcases prefix_append_cases start with ⟨within, cut⟩ | ⟨value, rfl, beyond⟩
          · rw [readParts, readNext_of_start_header hp within cut]
            exact ⟨_, rfl⟩
          rcases prefix_append_cases beyond with ⟨within, cut⟩ | ⟨more, rfl, left⟩
          · rw [readParts, readNext_header hp]
            simp only [splitAtMark_of_start hc within cut]
            exact ⟨_, rfl⟩
          · have proper' : more ≠ afterDelimiter boundary rest := fun e => proper (by rw [e])
            rw [← List.append_assoc, readParts_part hp hc]
            exact ih (fun q hq => h q (List.mem_cons_of_mem _ hq)) left proper' _ _

/-- **A document that breaks off** before the end of its closing delimiter is not read. -/
theorem read_of_start {d : Document} (h : d.WellFormed) {part : Octets}
    (start : part <+: d.untilClosed) (proper : part ≠ d.untilClosed) :
    ∃ cause, Multipart.read d.boundary part = .error cause := by
  rw [untilClosed_eq] at start proper
  rw [Multipart.read]
  rcases prefix_append_cases start with ⟨within, cut⟩ | ⟨more, rfl, left⟩
  · simp only [splitAtMark_of_start (onlyAtEnd_preamble h) within cut]
    exact ⟨_, rfl⟩
  · simp only [splitAtMark_append (onlyAtEnd_preamble h)]
    exact readParts_of_start h.parts_readable left (fun e => proper (by rw [e])) _ _

end Multipart

/-! ### Reports of unread forms -/

/-- What every report of an unread form starts with. -/
def FormFailure.label : String := "event=form_read module=http status="

/-- A report is its label and the rest.  The steps are `rewrite`s: `rw` would compare the texts that
are left by evaluation. -/
theorem FormFailure.message_eq (cause : FormFailure) : ∃ rest, cause.message = label ++ rest := by
  have urlencoded : "event=form_read module=http status=rejected kind=urlencoded " =
      label ++ "rejected kind=urlencoded " := rfl
  have multipart : "event=form_read module=http status=rejected kind=multipart " =
      label ++ "rejected kind=multipart " := rfl
  have broken : "event=form_read module=http status=error kind=multipart " =
      label ++ "error kind=multipart " := rfl
  have brokenField : "event=form_read module=http status=error kind=multipart field=" =
      label ++ "error kind=multipart field=" := rfl
  unfold message
  split
  · rewrite [urlencoded, String.append_assoc]
    exact ⟨_, rfl⟩
  · rewrite [urlencoded, String.append_assoc]
    exact ⟨_, rfl⟩
  · rewrite [multipart, String.append_assoc]
    exact ⟨_, rfl⟩
  · rewrite [broken, String.append_assoc]
    exact ⟨_, rfl⟩
  · rewrite [brokenField, String.append_assoc, String.append_assoc]
    exact ⟨_, rfl⟩

theorem FormFailure.label_prefix_message (cause : FormFailure) :
    label.toList <+: cause.message.toList := by
  obtain ⟨rest, e⟩ := cause.message_eq
  rw [e, String.toList_append]
  exact List.prefix_append _ _

namespace Form

open Multipart

variable {r : Request}

/-- A request is read or reported; a reported one has no fields. -/
theorem read_cases (r : Request) :
    (∃ fields, Form.read r = (fields, [])) ∨ ∃ cause, Form.read r = ([], [.formUnread cause]) := by
  unfold Form.read
  split
  · exact .inl ⟨_, rfl⟩
  · exact .inr ⟨_, rfl⟩

/-- A request with a document that breaks off is reported. -/
theorem read_of_take {d : Document} (h : d.WellFormed) {n : Nat} (hn : n < d.untilClosed.length)
    (type : Announces r d.boundary) (body : r.body = d.write.take n) :
    ∃ cause, Form.read r = ([], [.formUnread cause]) := by
  have start : d.write.take n <+: d.untilClosed := by
    rw [Document.write, List.take_append_of_le_length (by omega)]
    exact List.take_prefix n _
  have proper : d.write.take n ≠ d.untilClosed := by
    intro e
    have := congrArg List.length e
    rw [List.length_take] at this
    omega
  have failed : ∃ cause, readFields r = .error cause := by
    rw [readFields_of_announces h type, body]
    split
    · exact ⟨_, rfl⟩
    · exact read_of_start h start proper
  obtain ⟨cause, e⟩ := failed
  exact ⟨cause, by rw [Form.read, e]⟩

end Form

open Multipart in
/-- **All or nothing.**  A request is read without a report, or reported once and read as no fields.
A well-formed document that breaks off before the end of its closing delimiter is reported, and a
submission of it is answered 418 and leaves everything as it was. -/
theorem Form.all_or_nothing :
    (∀ r : Request,
      (∃ fields, Form.read r = (fields, [])) ∨
        ∃ cause : FormFailure, Form.read r = ([], [.formUnread cause]) ∧
          ∀ elapsed, FormFailure.label.toList <+:
            (Event.message elapsed (.formUnread cause)).toList) ∧
    ∀ (d : Document) (n : Nat) (r : Request), d.WellFormed → n < d.untilClosed.length →
      Announces r d.boundary → r.body = d.write.take n →
      (∃ cause, Form.read r = ([], [.formUnread cause])) ∧
      (r.IsSubmission → ∀ (debug : Bool) (s : Site),
        (Site.handle debug r s).answer.status = 418 ∧ (Site.handle debug r s).site = s) := by
  refine ⟨fun r => ?_, fun d n r h hn type body => ?_⟩
  · rcases Form.read_cases r with read | ⟨cause, reported⟩
    · exact .inl read
    · exact .inr ⟨cause, reported, fun _ => cause.label_prefix_message⟩
  · obtain ⟨cause, reported⟩ := Form.read_of_take h hn type body
    refine ⟨⟨cause, reported⟩, fun submission debug s => ?_⟩
    have missing : (Form.read r).1.firstNonEmpty "name" = none := by
      rw [reported]
      rfl
    obtain ⟨answer, same⟩ := Site.add_of_incomplete debug s (.inl missing)
    rw [Site.handle_of_isSubmission debug s submission]
    exact ⟨by rw [answer]; rfl, same⟩

/-- The request that submits the sample, cut between its closing dashes. -/
def Http.Request.cutSample : Request :=
  ⟨octetsOf "POST", ⟨octetsOf "/add", none⟩,
    [(contentType, octetsOf "multipart/form-data; boundary=B")],
    Multipart.Document.sample.write.take (Multipart.Document.sample.untilClosed.length - 1)⟩

theorem Form.all_or_nothing_cutSample :
    (∃ cause, Form.read Request.cutSample = ([], [.formUnread cause])) ∧
      ∀ (debug : Bool) (s : Site), (Site.handle debug Request.cutSample s).answer.status = 418 ∧
        (Site.handle debug Request.cutSample s).site = s := by
  obtain ⟨reported, refused⟩ := Form.all_or_nothing.2 Multipart.Document.sample
    (Multipart.Document.sample.untilClosed.length - 1) Request.cutSample
    Multipart.Document.sample_wellFormed (by decide +kernel) rfl (by rw [Request.cutSample])
  exact ⟨reported, refused ⟨rfl, rfl⟩⟩

end FractalArchive
