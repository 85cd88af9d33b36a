import FractalArchive.Disk.Database
import FractalArchive.Proofs.Text.Stretches

/-!
# Databases in files

A disk *keeps* a database under a name when a connection by that name finds the database, may change
it, and leaves the disk as it is (`Keeps`).

* `openDatabase_again`: an opening that succeeds can be repeated, and so it can after something has
  been stored in the file (`openDatabase_put`);
* `keeps_store`: after an opening that gives a file to write to, what is stored there is kept under
  the name, and `finds_store` says as much of any file;
* `openDatabase_new`: a plain name of no file, if it can be opened, gives an empty database in a
  file of its own.

Less is said by `Finds`: a connection by the name finds this, whether or not it may change it, and
leaves the disk as it is.
-/

namespace FractalArchive

open DatabaseName (uriMark)

/-- A name that is no URI stands for the file of that name, if it stands for a file. -/
theorem DatabaseName.read_of_plain {name : String} (plain : ¬ uriMark <+: octetsOf name)
    {stands : DatabaseName} (h : DatabaseName.read name = .ok stands) :
    stands = .own false ∧ (name = "" ∨ name = ":memory:") ∨ stands = .file name .create false := by
  have noMark := isPrefixOf?_eq_none_iff.mpr plain
  unfold DatabaseName.read at h
  simp only [noMark] at h
  split at h
  · cases h
  split at h
  next own => exact .inl ⟨(Except.ok.inj h).symm, own⟩
  · exact .inr (Except.ok.inj h).symm

namespace Disk

variable {disk disk' : Disk} {name : String} {d : Database} {p : Path} {readOnly : Bool}
  {handle : Handle} {contents : Contents}

/-! ### The path of a file -/

theorem advance_eq_some {part : String} {q : Path} (h : disk.advance p part = some q) :
    Path.step p part = q := by
  unfold advance at h
  unfold Path.step
  split at h
  next up => rw [if_pos up, Option.some.inj h]
  next down =>
    rw [if_neg down]
    split at h
    · cases h
    split at h
    · cases h
    · split at h
      · cases h
      · exact Option.some.inj h
    · exact Option.some.inj h

/-- Where the engine looks for a file, its name leads by its text alone. -/
theorem resolve_of_databasePath? (h : disk.databasePath? name = some p) :
    disk.resolve name = p := by
  have walk : ∀ (parts : List String) (start : Path) {p : Path},
      parts.foldlM disk.advance start = some p → parts.foldl Path.step start = p := by
    intro parts
    induction parts with
    | nil => exact fun start _ done => Option.some.inj done
    | cons part rest ih =>
        intro start p walked
        obtain ⟨next, reached, more⟩ := Option.bind_eq_some_iff.mp walked
        rw [List.foldl_cons, advance_eq_some reached]
        exact ih next more
  unfold databasePath? at h
  split at h
  · cases h
  next q walked =>
    split at h
    · cases h
    · rw [← Option.some.inj h]
      exact walk _ _ walked

/-- What a file holds does not matter on the way to a file. -/
theorem databasePath?_put (inside : p ≠ []) {before : Contents}
    (found : disk.node? p = some (.file before)) (name : String) :
    (disk.put p (.file contents)).databasePath? name = disk.databasePath? name := by
  have same : (disk.put p (.file contents)).advance = disk.advance := by
    funext q part
    unfold advance
    by_cases here : q = p
    · rw [here, node?_put_self _ _ inside, found]
    · rw [node?_put_of_ne _ _ here]
  unfold databasePath?
  rw [same]
  rfl

/-! ### Opening once more -/

theorem Leads.openDatabase {access : Access} {immutable : Bool}
    (leads : disk.Leads name access immutable p) {node : Node} (found : disk.node? p = some node)
    (file : node = .directory → access = .readOnly) :
    disk.openDatabase name = .ok (.file p (access == .readOnly || immutable), disk) := by
  obtain ⟨named, read, path⟩ := leads
  unfold Disk.openDatabase
  simp only [read, path]
  rw [found]
  cases node with
  | file contents => rfl
  | directory => exact if_pos (file rfl)

/-- **An opening that succeeds** can be repeated. -/
theorem openDatabase_again (h : disk.openDatabase name = .ok (handle, disk')) :
    disk'.openDatabase name = .ok (handle, disk') := by
  rcases openDatabase_cases h with ⟨readOnly, read, rfl, rfl⟩ |
    ⟨access, immutable, p, node, leads, rfl, found, file, -⟩
  · exact h
  · exact leads.openDatabase found file

/-- What an opening gives is a file, if something can be read from it. -/
theorem file_of_openDatabase (h : disk.openDatabase name = .ok (.file p readOnly, disk'))
    (read : ∀ cause, disk'.shown p ≠ .unreadable cause) :
    ∃ contents, disk'.node? p = some (.file contents) := by
  rcases openDatabase_cases h with ⟨_, -, own, -⟩ |
    ⟨access, immutable, q, node, leads, e, found, file, -⟩
  · cases own
  obtain ⟨rfl, -⟩ := Handle.file.inj e
  cases node with
  | file contents => exact ⟨contents, found⟩
  | directory =>
      have unread : disk'.shown p = .unreadable .notRead := by
        unfold shown
        rw [found]
      exact absurd unread (read _)

/-- A handle leads to a path that is no root. -/
theorem inside_of_openDatabase (h : disk.openDatabase name = .ok (.file p readOnly, disk')) :
    p ≠ [] := by
  rcases openDatabase_cases h with ⟨_, -, own, -⟩ | ⟨access, immutable, q, node, leads, e, -⟩
  · cases own
  · exact (Handle.file.inj e).1 ▸ leads.inside

/-- A file that has been opened can be opened again, whatever is stored there in between. -/
theorem openDatabase_put (h : disk.openDatabase name = .ok (.file p readOnly, disk'))
    {before : Contents} (file : disk'.node? p = some (.file before)) (contents : Contents) :
    (disk'.put p (.file contents)).openDatabase name =
      .ok (.file p readOnly, disk'.put p (.file contents)) := by
  have inside := inside_of_openDatabase h
  rcases openDatabase_cases h with ⟨_, -, own, -⟩ |
    ⟨access, immutable, q, node, ⟨named, read, path⟩, e, -⟩
  · cases own
  obtain ⟨rfl, rfl⟩ := Handle.file.inj e
  have leads : (disk'.put p (.file contents)).Leads name access immutable p :=
    ⟨named, read, (databasePath?_put inside file named).trans path⟩
  exact leads.openDatabase (node?_put_self _ _ inside) nofun

/-! ### What is found under a name -/

/-- The disk keeps this database under this name. -/
def Keeps (disk : Disk) (name : String) (d : Database) : Prop :=
  ∃ p, disk.openDatabase name = .ok (.file p false, disk) ∧
    disk.connection (.file p false) = ⟨.database d, false⟩

/-- A connection by this name is as given, and opening it leaves the disk as it is. -/
def Finds (disk : Disk) (name : String) (c : Connection) : Prop :=
  ∃ handle, disk.openDatabase name = .ok (handle, disk) ∧ disk.connection handle = c

/-- There is one connection by a name. -/
theorem Finds.unique {c c' : Connection} (h : disk.Finds name c) (h' : disk.Finds name c') :
    c = c' := by
  obtain ⟨handle, opens, rfl⟩ := h
  obtain ⟨handle', opens', rfl⟩ := h'
  rw [opens] at opens'
  cases opens'
  rfl

/-- A database of a version other than 0 is found in a file. -/
theorem Finds.file_of_version (h : disk.Finds name ⟨.database d, readOnly⟩)
    (version : d.userVersion ≠ 0) : ∃ p, disk.openDatabase name = .ok (.file p readOnly, disk) ∧
      disk.connection (.file p readOnly) = ⟨.database d, readOnly⟩ ∧
      disk.node? p = some (.file (.database d)) := by
  obtain ⟨handle, opens, found⟩ := h
  have notEmpty : ∀ {readOnly' : Bool},
      (⟨.empty, readOnly'⟩ : Connection) ≠ ⟨.database d, readOnly⟩ := by
    intro readOnly' e
    cases e
    exact version rfl
  cases handle with
  | own _ => exact absurd found notEmpty
  | file p readOnly' =>
      obtain ⟨shows, rfl⟩ := Connection.mk.inj found
      have file := shows
      unfold shown at file
      split at file
      · exact absurd (congrArg (Connection.mk · readOnly') file) notEmpty
      next contents node => exact ⟨p, opens, found, file ▸ node⟩
      · cases file
      · exact absurd (congrArg (Connection.mk · readOnly') file) notEmpty

/-- A file is what is found in it, unless it is a file of no octets. -/
theorem shown_put (disk : Disk) (inside : p ≠ []) (some : contents ≠ .octets []) :
    (disk.put p (.file contents)).shown p = contents := by
  unfold shown
  simp only [node?_put_self _ _ inside]

/-- A file of no octets is never shown as such. -/
theorem shown_ne (disk : Disk) (p : Path) : disk.shown p ≠ .octets [] := by
  unfold shown
  split
  · nofun
  next some _ => exact some
  · nofun
  · nofun

/-- What can be read is no root. -/
theorem ne_nil_of_readable (read : ∀ cause, disk.shown p ≠ .unreadable cause) : p ≠ [] := by
  rintro rfl
  exact read .notRead rfl

/-- What cannot be read is not stored. -/
theorem store_of_unreadable {c : Connection} {cause : SqlError}
    (unread : c.contents = .unreadable cause) : disk.store (.file p readOnly) c = disk := by
  unfold store
  simp only [unread]

/-- What can be read is stored in its file. -/
theorem store_of_readable {c : Connection} (read : ∀ cause, c.contents ≠ .unreadable cause) :
    disk.store (.file p readOnly) c = disk.put p (.file c.contents) := by
  unfold store
  split
  next own => cases own
  next unread => exact absurd unread (read _)
  next same _ =>
    cases same
    rfl

/-- A database of the connection's own is empty whenever it is opened. -/
theorem finds_own (h : disk.openDatabase name = .ok (.own readOnly, disk')) :
    disk'.Finds name ⟨.empty, readOnly⟩ :=
  ⟨.own readOnly, openDatabase_again h, rfl⟩

/-- A file in which a database has been stored is opened again, and shows the database. -/
theorem openDatabase_store (h : disk.openDatabase name = .ok (.file p readOnly, disk'))
    {before : Contents} (file : disk'.node? p = some (.file before)) (d : Database) :
    let stored := disk'.store (.file p readOnly) ⟨.database d, readOnly⟩
    stored.openDatabase name = .ok (.file p readOnly, stored) ∧
      stored.connection (.file p readOnly) = ⟨.database d, readOnly⟩ := by
  have shows : (disk'.put p (.file (.database d))).shown p = .database d :=
    shown_put disk' (inside_of_openDatabase h) nofun
  exact ⟨openDatabase_put h file _, congrArg (Connection.mk · readOnly) shows⟩

/-- A database that is stored in a file through a connection is found under the name that the file
was opened by. -/
theorem finds_store (h : disk.openDatabase name = .ok (.file p readOnly, disk'))
    {before : Contents} (file : disk'.node? p = some (.file before)) (d : Database) :
    (disk'.store (.file p readOnly) ⟨.database d, readOnly⟩).Finds name ⟨.database d, readOnly⟩ :=
  ⟨.file p readOnly, openDatabase_store h file d⟩

/-- What is stored as it was found is found again. -/
theorem finds_store_connection (h : disk.openDatabase name = .ok (handle, disk')) :
    (disk'.store handle (disk'.connection handle)).Finds name (disk'.connection handle) := by
  cases handle with
  | own readOnly => exact finds_own h
  | file p readOnly =>
  by_cases unread : ∃ cause, disk'.shown p = .unreadable cause
  · obtain ⟨cause, unread⟩ := unread
    rw [store_of_unreadable unread]
    exact ⟨.file p readOnly, openDatabase_again h, rfl⟩
  · have read := not_exists.mp unread
    obtain ⟨before, file⟩ := file_of_openDatabase h read
    rw [store_of_readable read]
    have shows := shown_put disk' (inside_of_openDatabase h) (shown_ne disk' p)
    exact ⟨.file p readOnly, openDatabase_put h file _, congrArg (Connection.mk · readOnly) shows⟩

/-- What may be written to is a file. -/
theorem file_of_writable (h : disk.openDatabase name = .ok (.file p false, disk')) :
    ∃ contents, disk'.node? p = some (.file contents) := by
  rcases openDatabase_cases h with ⟨_, -, own, -⟩ |
    ⟨access, immutable, q, node, -, e, found, file, -⟩
  · cases own
  obtain ⟨rfl, writable⟩ := Handle.file.inj e
  cases node with
  | file contents => exact ⟨contents, found⟩
  | directory =>
      rw [file rfl] at writable
      cases writable

/-- What is stored through a connection is kept under the name that it was opened by. -/
theorem keeps_store (h : disk.openDatabase name = .ok (.file p false, disk')) (d : Database) :
    (disk'.store (.file p false) ⟨.database d, false⟩).Keeps name d := by
  obtain ⟨before, file⟩ := file_of_writable h
  exact ⟨p, openDatabase_store h file d⟩

/-- A plain name of no file gives an empty database in a new file. -/
theorem openDatabase_new (plain : ¬ uriMark <+: octetsOf name)
    (named : name ≠ "" ∧ name ≠ ":memory:")
    (new : disk.node? (disk.resolve name) = none)
    (h : disk.openDatabase name = .ok (handle, disk')) :
    ∃ p, handle = .file p false ∧ disk'.connection handle = ⟨.empty, false⟩ := by
  rcases openDatabase_cases h with ⟨_, own, -⟩ |
    ⟨access, immutable, p, node, leads, rfl, found, -, same⟩
  · rcases DatabaseName.read_of_plain plain own with ⟨-, e | e⟩ | e
    · exact absurd e named.1
    · exact absurd e named.2
    · cases e
  have inside := leads.inside
  obtain ⟨file, read, path⟩ := leads
  rcases DatabaseName.read_of_plain plain read with ⟨e, -⟩ | e
  · cases e
  obtain ⟨rfl, rfl, rfl⟩ := DatabaseName.file.inj e
  have there := resolve_of_databasePath? path
  rcases same with rfl | ⟨-, rfl⟩
  · rw [there, found] at new
    cases new
  · refine ⟨_, rfl, congrArg (Connection.mk · false) ?_⟩
    unfold shown
    rw [node?_put_self _ _ inside]

end Disk

end FractalArchive
