import FractalArchive.Proofs.Http.Serving
import FractalArchive.Proofs.Json.Records

/-!
# What a listing tells

The body of a listing is the text of its records (`handle_of_list`), so it determines them.
Together with the reading of a single record this is `records_recovered`.
-/

namespace FractalArchive.Http

open Site

/-- **The answer to a listing** is the text of the records. -/
theorem handle_of_list {debug : Bool} {s : Site} {d : Database} {r : Request}
    {records : List Record} (h : s.Holds d) (ask : r.AsksForAll)
    (list : Repository.list ⟨.database d, false⟩ = .ok records) :
    (handle debug r s).answer = .json (Json.writeRecords records) := by
  rw [handle_of_asksForAll debug s ask, (all_holds h debug).2, list, listAnswer]

/-- **Records are recovered from their texts.**  A record with a 64-bit id is read back from its
text; bodies with the texts of different lists are different, and so two stores that are listed
alike hold the same records. -/
theorem records_recovered :
    (∀ r : Record, r.IdFits → Json.readRecord (Utf8.encode (Json.writeRecord r)) = .ok r) ∧
      (∀ a b : List Record, (∀ r ∈ a, r.IdFits) → (∀ r ∈ b, r.IdFits) →
        (Answer.json (Json.writeRecords a)).body = (Answer.json (Json.writeRecords b)).body →
        a = b) ∧
      ∀ (debug : Bool) (s t : Site) (d d' : Database) (q : Request) (a b : List Record),
        s.Holds d → t.Holds d' → q.AsksForAll →
        Repository.list ⟨.database d, false⟩ = .ok a →
        Repository.list ⟨.database d', false⟩ = .ok b →
        (∀ r ∈ a, r.IdFits) → (∀ r ∈ b, r.IdFits) →
        (handle debug q s).answer.body = (handle debug q t).answer.body → a = b := by
  have lists : ∀ a b : List Record, (∀ r ∈ a, r.IdFits) → (∀ r ∈ b, r.IdFits) →
      (Answer.json (Json.writeRecords a)).body = (Answer.json (Json.writeRecords b)).body →
      a = b :=
    fun a b fits fits' same => Json.writeRecords_injective fits fits' (String.ofList_injective same)
  refine ⟨fun r fits => Json.readRecord_writeRecord fits, lists, ?_⟩
  intro debug s t d d' q a b h h' ask list list' fits fits' same
  rw [handle_of_list h ask list, handle_of_list h' ask list'] at same
  exact lists a b fits fits' same

/-- A record with the least id and characters of every kind in its texts. -/
def leastSample : Record :=
  ⟨-9223372036854775808, "\x00\x08\t\n\x0c\r\x1f\"\\/\x7fé\u2028😀", "\x7b\"id\":[1,2]\x7d"⟩

/-- A record with the greatest id and empty texts. -/
def greatestSample : Record := ⟨9223372036854775807, "", ""⟩

/-- A database with the row of a record. -/
def databaseOf (r : Record) : Database :=
  ⟨1, { fractals := .table { rows := [⟨r.id, .text r.name, .text r.state⟩],
                             ascending := List.pairwise_singleton _ _ } }⟩

/-- A site with the database in memory. -/
def siteOf (d : Database) : Site :=
  ⟨⟨.memory, .memory (.database d) false⟩, {}, .cycle []⟩

theorem records_recovered_samples :
    Json.readRecord (Utf8.encode (Json.writeRecord leastSample)) = .ok leastSample ∧
      Json.readRecord (Utf8.encode (Json.writeRecord greatestSample)) = .ok greatestSample ∧
      (Answer.json (Json.writeRecords [leastSample])).body ≠
        (Answer.json (Json.writeRecords [leastSample, greatestSample])).body ∧
      ∀ q : Request, q.AsksForAll →
        (handle false q (siteOf (databaseOf leastSample))).answer.body ≠
          (handle false q (siteOf (databaseOf greatestSample))).answer.body := by
  obtain ⟨read, lists, sites⟩ := records_recovered
  have least : leastSample.IdFits := by decide
  have greatest : greatestSample.IdFits := by decide
  have one : ∀ {r : Record}, r.IdFits → ∀ x ∈ [r], x.IdFits := List.forall_mem_singleton.mpr
  refine ⟨read _ least, read _ greatest, fun same => ?_, fun q ask same => ?_⟩
  · have := lists _ _ (one least) (List.forall_mem_cons.mpr ⟨least, one greatest⟩) same
    exact absurd (congrArg List.length this) (by decide)
  · have := sites false (siteOf (databaseOf leastSample)) (siteOf (databaseOf greatestSample)) _ _ q
      [leastSample] [greatestSample] ⟨rfl, rfl⟩ ⟨rfl, rfl⟩ ask rfl rfl (one least) (one greatest)
      same
    exact absurd this (by decide)

end FractalArchive.Http
