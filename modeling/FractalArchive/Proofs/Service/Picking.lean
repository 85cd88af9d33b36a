import FractalArchive.Proofs.Database.Reading
import FractalArchive.Proofs.Service.Operations

/-!
# Picking from a listing

A pick is a fair selection from the listing (`fair_pick`).  It fails as the listing fails, gives
nothing where the listing is empty, and otherwise gives the record at a place that is drawn, which
is in the listing.  Each record of a table stands at exactly one place (`Repository.place_unique`),
and the places are drawn alike: by as many tickets each, up to one.
-/

namespace FractalArchive

namespace Repository

variable {d : Database} {rows : List Row} {records : List Record} {a : Record} {readOnly : Bool}

/-- No record of a table is listed twice. -/
theorem nodup_of_listed (keeps : d.catalog.fractals.Keeps rows)
    (listed : list ⟨.database d, readOnly⟩ = .ok records) : records.Nodup := by
  obtain ⟨inOrder, -, answers⟩ := Catalog.answers_of_keeps keeps
  have read := Tuple.records_eq_ok_iff.mp (answers.listed.symm.trans listed)
  exact .of_map Record.id (read.ids ▸ answers.ascending.distinct)

/-- **Each record of a table** stands at exactly one place of the listing. -/
theorem place_unique (keeps : d.catalog.fractals.Keeps rows)
    (listed : list ⟨.database d, readOnly⟩ = .ok records) (mem : a ∈ records) :
    ∃! k, k < records.length ∧ records[k]? = some a := by
  obtain ⟨k, inside, rfl⟩ := List.getElem_of_mem mem
  refine ⟨k, ⟨inside, List.getElem?_eq_getElem inside⟩, ?_⟩
  rintro other ⟨inside', here⟩
  rw [List.getElem?_eq_getElem inside'] at here
  exact (List.Nodup.getElem_inj_iff (nodup_of_listed keeps listed)).mp (Option.some.inj here)

end Repository

namespace Service

variable {c : Connection}

/-- A pick fails as the listing does. -/
theorem pick_of_failed {e : RepositoryError} (failed : Repository.list c = .error e)
    (g : Generator) : pick g c = ⟨.returned (.error e), c, []⟩ := by
  rw [pick, failed]

/-- A pick from an empty listing gives nothing. -/
theorem pick_of_empty (empty : Repository.list c = .ok []) (g : Generator) :
    pick g c = ⟨.returned (.ok (none, g)), c, [.nothingPicked]⟩ := by
  rw [pick, empty]

/-- **A pick is a fair selection** from the listing, and changes nothing.

It fails if and only if the listing does, with the same error, and gives nothing if and only if the
listing is empty.  From a listing of `n` records it gives the one at the place that the generator
draws, which is below `n`, and reports it as one of `n`.

If the connection is to a table, each record stands at exactly one of these places.  The place that
is drawn is that of the ticket that the next words of the generator spell; any ticket may be
spelled, and each place has as many tickets as any other, or one more. -/
theorem fair_pick (g : Generator) (c : Connection) :
    (pick g c).connection = c ∧
      (∀ e, (pick g c).outcome = .returned (.error e) ↔ Repository.list c = .error e) ∧
      ((∃ g', (pick g c).outcome = .returned (.ok (none, g'))) ↔ Repository.list c = .ok []) ∧
      ∀ records, Repository.list c = .ok records → records ≠ [] →
        let n := records.length
        let place := (g.below n).1
        let tickets := Generator.tickets n
        (∃ a, place < n ∧ records[place]? = some a ∧
          pick g c = ⟨.returned (.ok (some a, (g.below n).2)), c, [.recordPicked a.id n]⟩) ∧
        (∀ d readOnly rows, c = ⟨.database d, readOnly⟩ → d.catalog.fractals.Keeps rows →
          ∀ a ∈ records, ∃! k, k < n ∧ records[k]? = some a) ∧
        (n ≤ Generator.pairCount → place = g.ticket n * n / tickets) ∧
        (∀ x < tickets, ∃ g' : Generator, g'.ticket n = x) ∧
        ∀ k < n,
          let share := ((Finset.range tickets).filter fun x => x * n / tickets = k).card
          tickets / n ≤ share ∧ share ≤ tickets / n + 1 := by
  cases listed : Repository.list c with
  | error e =>
      rw [pick_of_failed listed]
      refine ⟨rfl, fun e' => ?_, iff_of_false nofun nofun, nofun⟩
      exact ⟨fun h => by cases h; rfl, fun h => by cases h; rfl⟩
  | ok records =>
      by_cases nonempty : records = []
      · subst nonempty
        rw [pick_of_empty listed]
        refine ⟨rfl, fun e => iff_of_false nofun nofun, iff_of_true ⟨g, rfl⟩ rfl, ?_⟩
        intro records same nonempty
        cases same
        exact absurd rfl nonempty
      · obtain ⟨a, drawn, picked⟩ := pick_of_listed listed nonempty g
        have some : 0 < records.length := List.length_pos_iff.mpr nonempty
        refine ⟨by rw [picked], fun e => ?_, ?_, ?_⟩
        · rw [picked]
          exact iff_of_false nofun nofun
        · rw [picked]
          refine iff_of_false (fun ⟨g', h⟩ => by cases h) fun h => nonempty (Except.ok.inj h)
        · intro others same _
          cases same
          refine ⟨⟨a, g.below_lt some, drawn, picked⟩, ?_, fun le => g.below_eq some le,
            fun x => Generator.exists_ticket_eq _, fun k inside => ?_⟩
          · rintro d readOnly rows rfl keeps b mem
            exact Repository.place_unique keeps listed mem
          · exact Generator.card_scaled inside (Generator.tickets_pos _)

/-- A table of three records with a gap between the ids. -/
def tableSample : Table where
  rows := [⟨-7, "a", "b"⟩, ⟨3, "c", "d"⟩, ⟨4, "a", "b"⟩].map Record.row
  ascending := by decide

/-- A word that draws the last of three places. -/
theorem fair_pick_tableSample :
    let c : Connection := ⟨.database ⟨1, { fractals := .table tableSample }⟩, false⟩
    (∃ g', pick (.ofWords [3000000000]) c =
      ⟨.returned (.ok (some ⟨4, "a", "b"⟩, g')), c, [.recordPicked 4 3]⟩) ∧
      ∃! k, k < 3 ∧
        [(⟨-7, "a", "b"⟩ : Record), ⟨3, "c", "d"⟩, ⟨4, "a", "b"⟩][k]? = some ⟨3, "c", "d"⟩ := by
  intro c
  obtain ⟨-, -, -, fair⟩ := fair_pick (.ofWords [3000000000]) c
  obtain ⟨⟨a, -, drawn, picked⟩, unique, -⟩ :=
    fair [⟨-7, "a", "b"⟩, ⟨3, "c", "d"⟩, ⟨4, "a", "b"⟩] rfl (List.cons_ne_nil _ _)
  have last : (⟨4, "a", "b"⟩ : Record) = a := Option.some.inj drawn
  subst last
  have keeps : (Relation.table tableSample).Keeps tableSample.rows := List.Perm.refl _
  exact ⟨⟨_, picked⟩, unique _ false tableSample.rows rfl keeps _ (.tail _ (.head _))⟩

end Service

end FractalArchive
