import FractalArchive.Proofs.Database.Appending
import FractalArchive.Proofs.Http.Serving
import Mathlib.Data.List.Forall2

/-!
# The service only appends

From a new store, after any requests, the records are the accepted submissions in the order in which
they came, numbered from 1, and this is all that later requests see (`append_only`).

The invariant of a run is that the database lists the records so far and that they are numbered
(`Site.Lists`, `Numbered`).  An accepted submission puts its record at the end (`lists_of_accepts`),
any other request keeps the list (`lists_of_not_accepts`); the induction over the requests joins the
two (`after_lists`).
-/

namespace FractalArchive.Http

open Site

/-! ### Accepted submissions -/

/-- The submissions among requests that were answered 200. -/
def accepted (requests : List Request) (answers : List Answer) : List Request :=
  ((requests.zip answers).filter fun (r, a) => r.IsSubmission ∧ a.status = 200).map Prod.fst

/-- A record has the first name and the first state of a form. -/
def IsFrom (r : Request) (record : Record) : Prop :=
  (Form.read r).1.first "name" = some record.name ∧
    (Form.read r).1.first "state" = some record.state

theorem first_of_firstNonEmpty {fields : Fields} {key value : String}
    (h : fields.firstNonEmpty key = some value) : fields.first key = some value :=
  (Option.filter_eq_some_iff.mp h).1

theorem accepted_cons (r : Request) (requests : List Request) (a : Answer) (answers : List Answer) :
    accepted (r :: requests) (a :: answers) =
      if r.IsSubmission ∧ a.status = 200 then r :: accepted requests answers
      else accepted requests answers := by
  unfold accepted
  rw [List.zip_cons_cons, List.filter_cons]
  by_cases h : r.IsSubmission ∧ a.status = 200
  · simp [h]
  · simp [h]

/-! ### Numbered records -/

/-- Records have the ids 1, 2, … in this order. -/
def Numbered (records : List Record) : Prop :=
  ∀ (j : Nat) (record : Record), records[j]? = some record → record.id = (j : Int) + 1

theorem Numbered.nextIdAfter {records : List Record} (h : Numbered records) :
    nextIdAfter records = (records.length : Int) + 1 := by
  unfold FractalArchive.nextIdAfter
  rw [List.getLast?_eq_getElem?]
  cases e : records[records.length - 1]? with
  | none =>
      have := List.getElem?_eq_none_iff.mp e
      simp only
      omega
  | some last =>
      have id := h _ _ e
      have := (List.getElem?_eq_some_iff.mp e).1
      simp only
      omega

theorem Numbered.append {records : List Record} (h : Numbered records) {new : Record}
    (last : new.id = FractalArchive.nextIdAfter records) : Numbered (records ++ [new]) := by
  intro j record e
  by_cases within : j < records.length
  · rw [List.getElem?_append_left within] at e
    exact h j record e
  · rw [List.getElem?_append_right (by omega)] at e
    obtain ⟨bound, rfl⟩ := List.getElem?_eq_some_iff.mp e
    have : j = records.length := by
      simp only [List.length_singleton] at bound
      omega
    rw [List.getElem_singleton, last, h.nextIdAfter, this]

/-! ### Steps and runs -/

/-- The database of the site lists these records. -/
def Site.Lists (s : Site) (records : List Record) : Prop :=
  ∃ d, s.Holds d ∧ d.Lists records

variable {debug : Bool} {s : Site} {r : Request} {records : List Record}

theorem Site.Lists.new (new : s.store.IsNew s.disk) : s.Lists [] :=
  ⟨.fresh, new.holds, {}, rfl, rfl, rfl⟩

/-- An accepted submission puts its record at the end. -/
theorem lists_of_accepts (h : s.Lists records) (accepts : Accepts debug r s) :
    ∃ record, record.id = nextIdAfter records ∧ IsFrom r record ∧
      (handle debug r s).site.Lists (records ++ [record]) := by
  obtain ⟨d, holds, lists⟩ := h
  rcases submission_cases holds debug accepts.1 with
    ⟨status, -⟩ | ⟨name, state, id, d', hn, hs, inserted, -, holds'⟩
  · exact absurd accepts.2 status
  · obtain ⟨next, lists'⟩ := lists.insert ⟨name, state⟩ inserted
    exact ⟨⟨id, name, state⟩, next,
      ⟨first_of_firstNonEmpty hn, first_of_firstNonEmpty hs⟩, d', holds', lists'⟩

/-- Any other request keeps the records. -/
theorem lists_of_not_accepts (h : s.Lists records) (refused : ¬ Accepts debug r s) :
    (handle debug r s).site.Lists records := by
  obtain ⟨d, holds, lists⟩ := h
  exact ⟨d, holds_of_not_accepts holds refused, lists⟩

/-- **A run** puts the records of its accepted submissions at the end, in order. -/
theorem after_lists (debug : Bool) (requests : List Request) (h : s.Lists records)
    (n : Numbered records) :
    ∃ added, (after debug requests s).Lists (records ++ added) ∧ Numbered (records ++ added) ∧
      List.Forall₂ IsFrom (accepted requests (handleAll debug requests s).1) added := by
  induction requests generalizing s records with
  | nil => exact ⟨[], by rwa [List.append_nil], by rwa [List.append_nil], .nil⟩
  | cons r rest ih =>
      have run : (handleAll debug (r :: rest) s).1 = (handle debug r s).answer ::
        (handleAll debug rest (handle debug r s).site).1 := rfl
      rw [run, accepted_cons]
      -- The record of the first request comes between those before it and those of the rest.
      by_cases accepts : r.IsSubmission ∧ (handle debug r s).answer.status = 200
      · obtain ⟨record, id, from_, lists⟩ := lists_of_accepts h accepts
        obtain ⟨added, lists', numbered, kept⟩ := ih lists (n.append id)
        rw [List.append_assoc] at lists' numbered
        rw [if_pos accepts]
        exact ⟨record :: added, lists', numbered, .cons from_ kept⟩
      · rw [if_neg accepts]
        exact ih (lists_of_not_accepts h accepts) n

/-! ### What requests see -/

theorem answer_of_asksForAll (h : s.Lists records) (ask : r.AsksForAll) :
    (handle debug r s).answer = .json (Json.writeRecords records) := by
  obtain ⟨d, holds, lists⟩ := h
  rw [handle_of_asksForAll debug s ask, (all_holds holds debug).2, lists.list, listAnswer]

theorem answer_of_asksForOne_nil (h : s.Lists []) (ask : r.AsksForOne) :
    (handle debug r s).answer.status = 500 := by
  obtain ⟨d, holds, lists⟩ := h
  rw [handle_of_asksForOne debug s ask, (random_holds holds debug).2, lists.list]
  exact status_failed debug .emptyStore

theorem answer_of_asksForOne (h : s.Lists records) (some : records ≠ []) (ask : r.AsksForOne) :
    ∃ record ∈ records, (handle debug r s).answer = .json (Json.writeRecord record) := by
  obtain ⟨d, holds, lists⟩ := h
  rw [handle_of_asksForOne debug s ask, (random_holds holds debug).2, lists.list]
  obtain ⟨first, rest, rfl⟩ := List.exists_cons_of_ne_nil some
  cases picked : Service.pickFrom s.generator (first :: rest) with
  | mk one g =>
      cases one with
      | none => cases picked
      | some record => exact ⟨record, Service.mem_of_pickFrom picked, by rw [pickAnswer, picked]⟩

/-- **The service only appends.**  After any requests to a new store, with `kept` the submissions
among them that were answered 200, there is one record for each of them, in order, numbered from 1,
with the first name and the first state of its form.  A `GET` of `/all` answers with these records,
and a `GET` of `/` with one of them, or with a failure if there is none, whatever is drawn.  A
request that is no accepted submission changes nothing that a later `GET` sees, after any further
requests. -/
theorem append_only (new : s.store.IsNew s.disk) (debug : Bool) (requests : List Request) :
    let kept := accepted requests (handleAll debug requests s).1
    let site := after debug requests s
    ∃ records, List.Forall₂ IsFrom kept records ∧ Numbered records ∧
      (∀ r g, r.AsksForAll → (handle debug r { site with generator := g }).answer =
        .json (Json.writeRecords records)) ∧
      (∀ r g, r.AsksForOne →
        (kept = [] → (handle debug r { site with generator := g }).answer.status = 500) ∧
        (kept ≠ [] → ∃ record ∈ records,
          (handle debug r { site with generator := g }).answer = .json (Json.writeRecord record))) ∧
      ∀ r, ¬ Accepts debug r site → ∀ later q g, q.method = octetsOf "GET" →
        (handle debug q
          { after debug later (handle debug r site).site with generator := g }).answer =
          (handle debug q { after debug later site with generator := g }).answer := by
  intro kept site
  obtain ⟨records, lists, numbered, from_⟩ :=
    after_lists debug requests (Site.Lists.new new) fun _ _ e => by cases e
  rw [List.nil_append] at lists numbered
  refine ⟨records, from_, numbered, fun r g ask => ?_,
    fun r g ask => ⟨fun none => ?_, fun some => ?_⟩, fun r refused later q g get => ?_⟩
  · exact answer_of_asksForAll lists ask
  · have from_ : List.Forall₂ IsFrom kept records := from_
    rw [none, List.forall₂_nil_left_iff] at from_
    rw [from_] at lists
    exact answer_of_asksForOne_nil lists ask
  · refine answer_of_asksForOne lists (fun empty => some ?_) ask
    rw [empty, List.forall₂_nil_right_iff] at from_
    exact from_
  · obtain ⟨d, holds, -⟩ := lists
    -- Both runs hold the same database before `later`, so they do after it.
    obtain ⟨d', same⟩ := after_holds later d
    have left :
        Site.Holds { after debug later (handle debug r site).site with generator := g } d' :=
      same debug _ (holds_of_not_accepts holds refused)
    have right : Site.Holds { after debug later site with generator := g } d' := same debug _ holds
    exact answer_eq_of_holds left right rfl debug get

/-- A submission of the name `a` and the state `b`. -/
def Request.plainSample : Request :=
  ⟨octetsOf "POST", ⟨octetsOf "/add", none⟩,
    [(contentType, octetsOf "application/x-www-form-urlencoded")], octetsOf "name=a&state=b"⟩

theorem append_only_plainSample :
    ∃ record : Record, record.id = 1 ∧ IsFrom .plainSample record ∧
      ∀ r : Request, r.AsksForAll →
        (handle false r (after false [.plainSample]
          ⟨⟨.memory, .memory (.database .fresh) false⟩, {}, .cycle []⟩)).answer =
            .json (Json.writeRecords [record]) := by
  have memory : Location.parse ":memory:" = .ok .memory := rfl
  have new : Store.IsNew ⟨.memory, .memory (.database .fresh) false⟩ {} :=
    .memory memory (Store.connect_memory memory {})
  obtain ⟨records, from_, numbered, list, -⟩ :=
    append_only (s := ⟨⟨.memory, .memory (.database .fresh) false⟩, {}, .cycle []⟩) new false
      [.plainSample]
  have kept : accepted [.plainSample] (handleAll false [.plainSample]
      ⟨⟨.memory, .memory (.database .fresh) false⟩, {}, .cycle []⟩).1 = [.plainSample] := rfl
  rw [kept] at from_
  cases from_ with
  | cons first rest =>
      cases rest
      exact ⟨_, numbered 0 _ rfl, first, fun r ask => list r _ ask⟩

end FractalArchive.Http
