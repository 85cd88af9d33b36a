import FractalArchive.Proofs.Http.Serving
import FractalArchive.Proofs.Service.Archiving

/-!
# What a submission comes to

A submission is judged by two texts, the first value under `name` and the first under `state`; one
that is absent counts as empty (`Request.submitted`).

* `handle_incomplete`: if one of them is empty, the submission is refused and nothing changes;
* `handle_too_long`: if one of them is too long, it fails, and the store holds what it held;
* `handle_complete`: otherwise it is accepted, and a table that takes drafts has one more row;
* `handle_congr`: nothing else in a submission matters;
* `submission_outcome`: these together, as the status says.
-/

namespace FractalArchive

namespace Http

/-! ### The texts of a submission -/

namespace Request

/-- The first value under a key in the form of a request, or else the empty text. -/
def submitted (r : Request) (key : String) : String :=
  ((Form.read r).1.first key).getD ""

/-- Name or state is absent or empty. -/
def IsIncomplete (r : Request) : Prop :=
  r.submitted "name" = "" ∨ r.submitted "state" = ""

/-- Name or state has too many characters. -/
def IsTooLong (r : Request) : Prop :=
  256 < (r.submitted "name").length ∨ 4096 < (r.submitted "state").length

instance (r : Request) : Decidable r.IsIncomplete :=
  inferInstanceAs (Decidable (_ ∨ _))

instance (r : Request) : Decidable r.IsTooLong :=
  inferInstanceAs (Decidable (_ ∨ _))

/-- The draft of a submission. -/
def draft (r : Request) : Draft :=
  ⟨r.submitted "name", r.submitted "state"⟩

variable {r : Request} {key : String}

theorem firstNonEmpty_of_eq (h : r.submitted key = "") :
    (Form.read r).1.firstNonEmpty key = none := by
  unfold submitted at h
  unfold Fields.firstNonEmpty
  cases e : (Form.read r).1.first key with
  | none => rfl
  | some value =>
      rw [e] at h
      obtain rfl : value = "" := h
      rfl

theorem firstNonEmpty_of_ne (h : r.submitted key ≠ "") :
    (Form.read r).1.firstNonEmpty key = some (r.submitted key) := by
  unfold submitted at h ⊢
  unfold Fields.firstNonEmpty
  cases e : (Form.read r).1.first key with
  | none =>
      rw [e] at h
      exact absurd rfl h
  | some value =>
      rw [e] at h
      exact Option.filter_some_pos (bne_iff_ne.mpr h)

/-- The texts that are asked for are those submitted. -/
theorem firstNonEmpty_congr {q : Request} (h : q.submitted key = r.submitted key) :
    (Form.read q).1.firstNonEmpty key = (Form.read r).1.firstNonEmpty key := by
  by_cases empty : r.submitted key = ""
  · rw [firstNonEmpty_of_eq empty, firstNonEmpty_of_eq (h.trans empty)]
  · rw [firstNonEmpty_of_ne empty, firstNonEmpty_of_ne (h ▸ empty), h]

theorem draft_check_eq_ok_iff : r.draft.check = .ok () ↔ ¬ r.IsTooLong := by
  rw [Draft.check_eq_ok_iff, IsTooLong, not_or, Nat.not_lt, Nat.not_lt]
  rfl

end Request

namespace Site

variable {s : Site} {d : Database} {t : Table} {r q : Request}

/-! ### The three outcomes -/

/-- **A submission without a name or a state** is refused and changes nothing. -/
theorem handle_incomplete (debug : Bool) (s : Site) (submission : r.IsSubmission)
    (incomplete : r.IsIncomplete) :
    (handle debug r s).answer = .incomplete ∧ (handle debug r s).site = s := by
  rw [handle_of_isSubmission debug s submission]
  exact add_of_incomplete debug s
    (incomplete.imp Request.firstNonEmpty_of_eq Request.firstNonEmpty_of_eq)

/-- The work of a complete submission decides its answer, and what the store holds afterwards. -/
theorem handle_of_works (h : s.Holds d) (debug : Bool) (submission : r.IsSubmission)
    (complete : ¬ r.IsIncomplete) {result : Except RepositoryError Int} {d' : Database}
    {events : List Event} (works : Service.add r.draft ⟨.database d, false⟩ =
      ⟨.returned result, ⟨.database d', false⟩, events⟩) :
    (handle debug r s).site.Holds d' ∧
      (handle debug r s).answer = submissionAnswer debug result := by
  obtain ⟨name, state⟩ := not_or.mp complete
  rw [handle_of_isSubmission debug s submission]
  exact add_holds h debug (Request.firstNonEmpty_of_ne name) (Request.firstNonEmpty_of_ne state)
    works

/-- **A submission that is too long** fails, and the database stays as it is. -/
theorem handle_too_long (h : s.Holds d) (debug : Bool) (submission : r.IsSubmission)
    (complete : ¬ r.IsIncomplete) (long : r.IsTooLong) :
    (handle debug r s).answer.status = 500 ∧ (handle debug r s).site.Holds d := by
  cases check : r.draft.check with
  | ok _ => exact absurd long (Request.draft_check_eq_ok_iff.mp check)
  | error cause =>
      obtain ⟨holds, answer⟩ := handle_of_works h debug submission complete
        (Service.add_of_excess check ⟨.database d, false⟩)
      rw [answer]
      exact ⟨status_failed debug _, holds⟩

/-- **Any other submission** is accepted, and its name and its state are the last row. -/
theorem handle_complete (h : s.Holds d) (table : d.catalog.fractals = .table t)
    (takes : t.TakesDrafts) (debug : Bool) (submission : r.IsSubmission)
    (complete : ¬ r.IsIncomplete) (short : ¬ r.IsTooLong) :
    (handle debug r s).answer = .done ∧ ∃ t',
      t'.rows = t.rows ++ [⟨t.nextId, .text (r.submitted "name"), .text (r.submitted "state")⟩] ∧
      (handle debug r s).site.Holds
        { d with catalog := { d.catalog with fractals := .table t' } } := by
  obtain ⟨-, state⟩ := not_or.mp complete
  obtain ⟨t', added, rows⟩ := takes.add (r.submitted "name") state
  have inserted : d.catalog.insert .null (.text r.draft.name) (.text r.draft.state) =
      .ok (t.nextId, { d.catalog with fractals := .table t' }) :=
    Catalog.insert_of_add table added
  have works := Service.add_of_inserted (Request.draft_check_eq_ok_iff.mpr short) inserted
  obtain ⟨holds, answer⟩ := handle_of_works h debug submission complete works
  exact ⟨answer, t', rows, holds⟩

/-! ### Equal submissions -/

/-- The answer of a service and what it leaves do not depend on what was reported before. -/
theorem serve_congr {α : Type} (debug : Bool) (before before' : List Event)
    (work : Work RepositoryError α) (finish : α → Site → Answer × Site × List Event) (s : Site) :
    (serve debug before work finish s).answer = (serve debug before' work finish s).answer ∧
      (serve debug before work finish s).site = (serve debug before' work finish s).site := by
  unfold serve
  simp only
  split
  · exact ⟨rfl, rfl⟩
  · exact ⟨rfl, rfl⟩
  · exact ⟨rfl, rfl⟩

/-- **Two submissions with the same name and state** are answered alike and leave the same site,
whatever else they consist of. -/
theorem handle_congr (debug : Bool) (s : Site) (submission : r.IsSubmission)
    (submission' : q.IsSubmission) (name : q.submitted "name" = r.submitted "name")
    (state : q.submitted "state" = r.submitted "state") :
    (handle debug q s).answer = (handle debug r s).answer ∧
      (handle debug q s).site = (handle debug r s).site := by
  have sameName := Request.firstNonEmpty_congr name
  have sameState := Request.firstNonEmpty_congr state
  rw [handle_of_isSubmission debug s submission, handle_of_isSubmission debug s submission']
  unfold add
  simp only [sameName, sameState]
  split
  · exact serve_congr ..
  · exact ⟨rfl, rfl⟩

/-! ### The outcome -/

theorem status_of_submission (h : s.Holds d) (table : d.catalog.fractals = .table t)
    (takes : t.TakesDrafts) (debug : Bool) (submission : r.IsSubmission) :
    (handle debug r s).answer.status =
      if r.IsIncomplete then 418 else if r.IsTooLong then 500 else 200 := by
  split
  next incomplete => rw [(handle_incomplete debug s submission incomplete).1]; rfl
  next complete =>
    split
    next long => exact (handle_too_long h debug submission complete long).1
    next short =>
      rw [(handle_complete h table takes debug submission complete short).1]
      rfl

/-- **What a submission comes to**, at a working store whose table takes drafts.  The status is 418
if and only if name or state is absent or empty; otherwise it is 500 if and only if one of them is
too long; otherwise it is 200.  Only in the last case the database changes, and then by one row.  A
submission with the same name and state has the same answer and leaves the same site. -/
theorem submission_outcome (h : s.Holds d) (table : d.catalog.fractals = .table t)
    (takes : t.TakesDrafts) (debug : Bool) (submission : r.IsSubmission) :
    let served := handle debug r s
    (served.answer.status = 418 ↔ r.IsIncomplete) ∧
      (served.answer.status = 500 ↔ ¬ r.IsIncomplete ∧ r.IsTooLong) ∧
      (served.answer.status = 200 ↔ ¬ r.IsIncomplete ∧ ¬ r.IsTooLong) ∧
      (served.answer.status = 418 → served.answer.body = "" ∧ served.site = s) ∧
      (served.answer.status = 500 → served.site.Holds d) ∧
      (served.answer.status = 200 → served.answer.body = "ok" ∧ ∃ t',
        t'.rows = t.rows ++
          [⟨t.nextId, .text (r.submitted "name"), .text (r.submitted "state")⟩] ∧
        served.site.Holds { d with catalog := { d.catalog with fractals := .table t' } }) ∧
      ∀ q : Request, q.IsSubmission → q.submitted "name" = r.submitted "name" →
        q.submitted "state" = r.submitted "state" →
        (handle debug q s).answer = served.answer ∧ (handle debug q s).site = served.site := by
  intro served
  have status : served.answer.status =
      if r.IsIncomplete then 418 else if r.IsTooLong then 500 else 200 :=
    status_of_submission h table takes debug submission
  obtain ⟨refused, failed, accepted⟩ : (served.answer.status = 418 ↔ r.IsIncomplete) ∧
      (served.answer.status = 500 ↔ ¬ r.IsIncomplete ∧ r.IsTooLong) ∧
      (served.answer.status = 200 ↔ ¬ r.IsIncomplete ∧ ¬ r.IsTooLong) := by
    rw [status]
    by_cases incomplete : r.IsIncomplete
    · simp [incomplete]
    by_cases long : r.IsTooLong
    · simp [incomplete, long]
    · simp [incomplete, long]
  refine ⟨refused, failed, accepted, fun e => ?_, fun e => ?_, fun e => ?_, fun q submission' =>
    handle_congr debug s submission submission'⟩
  · obtain ⟨answer, site⟩ := handle_incomplete debug s submission (refused.mp e)
    exact ⟨congrArg Answer.body answer, site⟩
  · obtain ⟨complete, long⟩ := failed.mp e
    exact (handle_too_long h debug submission complete long).2
  · obtain ⟨complete, short⟩ := accepted.mp e
    obtain ⟨answer, added⟩ := handle_complete h table takes debug submission complete short
    exact ⟨congrArg Answer.body answer, added⟩

/-- A table with rows that are no records, the last one below the greatest id. -/
def foreignSample : Table where
  rows := [⟨-3, .null, .blob [0xFF]⟩, ⟨Cell.greatestInteger - 1, .text "a", .null⟩]
  ascending := by decide

/-- A site with the table in memory. -/
def foreignSite : Site :=
  ⟨⟨.memory, .memory (.database ⟨1, { fractals := .table foreignSample }⟩) false⟩, {}, .cycle []⟩

/-- A submission of a body. -/
def submissionOf (body : String) : Request :=
  ⟨octetsOf "POST", ⟨octetsOf "/add", none⟩,
    [(contentType, octetsOf "application/x-www-form-urlencoded")], octetsOf body⟩

theorem submission_outcome_foreignSample :
    (handle false (submissionOf "name=&name=a&state=b") foreignSite).answer.status = 418 ∧
      ∃ t' : Table, t'.rows = foreignSample.rows ++ [⟨Cell.greatestInteger, .text "a", .text "b"⟩] ∧
        (handle false (submissionOf "name=a&x=1&state=b&name=") foreignSite).site.Holds
          ⟨1, { fractals := .table t' }⟩ := by
  have holds : foreignSite.Holds ⟨1, { fractals := .table foreignSample }⟩ := ⟨rfl, rfl⟩
  have takes : foreignSample.TakesDrafts :=
    (Table.TakesDrafts.iff_of_unconstrained rfl rfl).mpr (by decide)
  obtain ⟨refused, -⟩ := submission_outcome holds rfl takes false
    (r := submissionOf "name=&name=a&state=b") (by decide)
  obtain ⟨-, -, accepted, -, -, effect, -⟩ := submission_outcome holds rfl takes false
    (r := submissionOf "name=a&x=1&state=b&name=") (by decide)
  obtain ⟨-, t', rows, holds'⟩ := effect (accepted.mpr (by decide +kernel))
  have name : (submissionOf "name=a&x=1&state=b&name=").submitted "name" = "a" := by decide +kernel
  have state : (submissionOf "name=a&x=1&state=b&name=").submitted "state" = "b" := by
    decide +kernel
  rw [name, state] at rows
  exact ⟨refused.mpr (by decide +kernel), t', rows, holds'⟩

end Site

end Http

end FractalArchive
