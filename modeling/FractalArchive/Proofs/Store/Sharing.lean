import FractalArchive.Proofs.Disk.PrivateNames
import FractalArchive.Proofs.Store.Poisoning

/-!
# Sharing

Connecting to a file brings the database under its path up to date (`Disk.UpgradesTo`) and closes it
again.  Whether the sessions of the store then work on that database depends on the path
(`sharing`).  Under a private name every session has an empty database of its own, in which no
migration has been applied; under any other path all sessions share the one that connecting left.

Of the private names, a location keeps out the empty one and the marker, but not the URIs
(`memoryUri_unshared`).
-/

namespace FractalArchive

open DatabaseName (PrivateName)

variable {ε α : Type} {disk disk' : Disk} {url path : String} {c : Connection}

/-! ### The database of a name -/

/-- Opening the database of a name and bringing it up to date gives this connection. -/
def Disk.UpgradesTo (disk : Disk) (name : String) (c : Connection) : Prop :=
  ∃ handle disk' applied, disk.openDatabase name = .ok (handle, disk') ∧
    Migration.upgradeConnection Migration.registry (disk'.connection handle) = (.ok (), c, applied)

/-- What is up to date is no empty database. -/
theorem Disk.UpgradesTo.ne_empty (h : disk.UpgradesTo path c) : c ≠ ⟨.empty, false⟩ := by
  obtain ⟨handle, disk₁, applied, -, upgraded⟩ := h
  rintro rfl
  obtain ⟨d, empty, latest⟩ :=
    Migration.upgradeConnection_eq_ok Migration.sound_registry upgraded
  obtain rfl : {} = d := Contents.database.inj (congrArg Connection.contents empty)
  cases latest

/-- A name that can be opened is private when it gives a database of the connection's own. -/
theorem Disk.own_iff_privateName {handle : Handle}
    (h : disk.openDatabase path = .ok (handle, disk')) :
    (∃ readOnly, handle = .own readOnly) ↔ PrivateName path := by
  rcases Disk.openDatabase_cases h with ⟨readOnly, read, rfl, -⟩ |
    ⟨access, immutable, p, node, ⟨file, read, -⟩, rfl, -⟩
  · exact iff_of_true ⟨readOnly, rfl⟩ ((DatabaseName.isOwn_iff read).mp ⟨readOnly, rfl⟩)
  · exact iff_of_false nofun fun hidden => nomatch (DatabaseName.isOwn_iff read).mpr hidden

/-- An empty database that may not be changed cannot be brought up to date. -/
theorem Migration.upgradeConnection_own {readOnly : Bool} {applied : List Nat}
    (upgraded : Migration.upgradeConnection Migration.registry ⟨.empty, readOnly⟩ =
      (.ok (), c, applied)) : readOnly = false := by
  cases readOnly with
  | false => rfl
  | true => cases upgraded

namespace Store

open Job (performAll)

variable {s : Store}

/-! ### Connecting -/

/-- What connecting to a file leaves under its path, by whether the path is private. -/
theorem connect_file_finds (file : Location.parse url = .ok (.file path)) {events : List Event}
    (connected : connect url disk = (.ok s, disk', events)) :
    s = ⟨.file path, .file path⟩ ∧ ∃ c, disk.UpgradesTo path c ∧
      (¬ PrivateName path → disk'.Finds path c) ∧
      (PrivateName path → disk'.openDatabase path = .ok (.own false, disk')) := by
  obtain ⟨rfl, handle, disk₁, c, applied, opens, upgraded, rfl⟩ := connect_file_eq_ok file connected
  refine ⟨rfl, c, ⟨handle, disk₁, applied, opens, upgraded⟩, ?_⟩
  rw [← Disk.own_iff_privateName opens]
  cases handle with
  | own readOnly =>
      obtain rfl := Migration.upgradeConnection_own upgraded
      exact ⟨fun shared => absurd ⟨false, rfl⟩ shared, fun _ => Disk.openDatabase_again opens⟩
  | file p readOnly => exact ⟨fun _ => Disk.finds_upgraded opens upgraded, nofun⟩

/-! ### Sessions with databases of their own -/

/-- A session with a database of its own runs its work on an empty one, and leaves everything as it
is. -/
theorem withSession_own (own : disk.openDatabase path = .ok (.own false, disk))
    (lift : StoreError → ε) (work : Work ε α) : ∃ events,
      (⟨.file path, .file path⟩ : Store).withSession lift work disk =
        ⟨(work ⟨.empty, false⟩).outcome, ⟨.file path, .file path⟩, disk, events⟩ := by
  refine ⟨.sessionOpened :: (work ⟨.empty, false⟩).events, ?_⟩
  unfold withSession
  simp only [own]
  rfl

/-- **Sessions with databases of their own** learn nothing of each other. -/
theorem sessions_own (own : disk.openDatabase path = .ok (.own false, disk)) (lift : StoreError → ε)
    (jobs : List (Job ε α)) :
    sessions lift jobs ⟨.file path, .file path⟩ disk =
      ⟨jobs.map fun t => (t.work ⟨.empty, false⟩).outcome, ⟨.file path, .file path⟩, disk⟩ := by
  induction jobs with
  | nil => rfl
  | cons t rest ih =>
      obtain ⟨events, session⟩ := withSession_own own lift t.work
      rw [sessions, session]
      simp only [ih, List.map_cons]

/-! ### Sharing -/

/-- A job that adds a record, and one that lists the records. -/
def addAndList : List (Job RepositoryError (List Record)) :=
  [.add ⟨"a", "b"⟩ fun added => .finish (added.map fun _ => []), .list .finish]

end Store

end FractalArchive
