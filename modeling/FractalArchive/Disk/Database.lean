import FractalArchive.Disk.DatabaseName

/-!
# Databases on a disk

How the database engine opens the database of a name on a disk, what a connection to it shows, and
how it is stored.  Everything on the disk may be read and written, and nothing is a link.

The engine goes to a file part by part.  Each part is looked up when it is reached, so a part that a
later `..` takes back must still not lie below a file (`Disk.advance`).
-/

namespace FractalArchive

/-- An open database. -/
inductive Handle where
  /-- A database of the connection's own. -/
  | own (readOnly : Bool)
  /-- The database in the file of a path. -/
  | file (path : Path) (readOnly : Bool)
  deriving DecidableEq, Repr

namespace Disk

/-- The greatest number of octets on the way to a database file. -/
def maxWaySize : Nat := 511

/-- The greatest number of octets in the path of a database file; its journal has eight more. -/
def maxNameSize : Nat := 504

/-- Goes one part further, or up at `..`.  Nothing lies below a file, and no part in a directory is
too long; that nothing is there is no obstacle. -/
def advance (d : Disk) (p : Path) (part : String) : Option Path :=
  if part = ".." then some p.dropLast
  else if maxWaySize < Path.size (p ++ [part]) then none
  else match d.node? p with
    | some (.file _) => none
    | some .directory =>
      if Path.maxPartSize < Path.partSize part then none else some (p ++ [part])
    | none => some (p ++ [part])

/-- Where the engine looks for the file of a name. -/
def databasePath? (d : Disk) (name : String) : Option Path :=
  match (Path.parts name).foldlM d.advance (d.base name) with
  | none => none
  | some p => if p = [] ∨ maxNameSize < Path.size p then none else some p

/-- Opens the database of a name, making the file if that is allowed.  A file is made in a
directory.  A name that goes on below its own file would not find it again once it is there; such a
name is left out, and refused at once. -/
def openDatabase (d : Disk) (name : String) : Except SqlError (Handle × Disk) :=
  match DatabaseName.read name with
  | .error e => .error e
  | .ok (.own readOnly) => .ok (.own readOnly, d)
  | .ok (.file file access immutable) =>
    match d.databasePath? file with
    | none => .error (.cannotOpen name)
    | some p =>
      let handle := .file p (access == .readOnly || immutable)
      match d.node? p with
      | some (.file _) => .ok (handle, d)
      | some .directory =>
        -- A directory can be opened to be read; it is found out later that it is no file.
        if access = .readOnly then .ok (handle, d) else .error (.cannotOpen name)
      | none =>
        let made := d.put p (.file (.octets []))
        if access = .create ∧ d.isDirectory p.dropLast ∧ made.databasePath? file = some p then
          .ok (handle, made)
        else .error (.cannotOpen name)

/-- What a connection to the file of a path shows; a file of no octets is an empty database. -/
def shown (d : Disk) (p : Path) : Contents :=
  match d.node? p with
  | some (.file (.octets [])) => .empty
  | some (.file contents) => contents
  | some .directory => .unreadable .notRead
  | none => .empty

/-- The connection to an open database. -/
def connection (d : Disk) : Handle → Connection
  | .own readOnly => ⟨.empty, readOnly⟩
  | .file p readOnly => ⟨d.shown p, readOnly⟩

/-- Stores what a connection holds in its file, unless it could not be read. -/
def store (d : Disk) (h : Handle) (c : Connection) : Disk :=
  match h, c.contents with
  | .own _, _ => d
  | .file _ _, .unreadable _ => d
  | .file p _, contents => d.put p (.file contents)

variable {disk disk' : Disk} {name : String} {p : Path}

/-- What other files show does not change with a file. -/
theorem shown_put_of_ne (disk : Disk) {q : Path} (node : Node) (h : q ≠ p) :
    (disk.put p node).shown q = disk.shown q := by
  unfold shown
  rw [node?_put_of_ne _ _ h]

theorem ne_nil_of_databasePath? (h : disk.databasePath? name = some p) : p ≠ [] := by
  unfold databasePath? at h
  split at h
  · cases h
  next q _ =>
    split at h
    · cases h
    next possible =>
      obtain rfl := Option.some.inj h
      exact fun root => possible (.inl root)

/-- A name stands for the database in the file of this path. -/
def Leads (disk : Disk) (name : String) (access : Access) (immutable : Bool) (p : Path) : Prop :=
  ∃ file, DatabaseName.read name = .ok (.file file access immutable) ∧
    disk.databasePath? file = some p

theorem Leads.inside {access : Access} {immutable : Bool} (h : disk.Leads name access immutable p) :
    p ≠ [] := by
  obtain ⟨file, -, found⟩ := h
  exact ne_nil_of_databasePath? found

/-- What an opening that succeeds has found or made. -/
theorem openDatabase_cases {handle : Handle} (h : disk.openDatabase name = .ok (handle, disk')) :
    (∃ readOnly, DatabaseName.read name = .ok (.own readOnly) ∧ handle = .own readOnly ∧
        disk' = disk) ∨
      ∃ access immutable p node, disk'.Leads name access immutable p ∧
        handle = .file p (access == .readOnly || immutable) ∧ disk'.node? p = some node ∧
        (node = .directory → access = .readOnly) ∧
        (disk' = disk ∨ disk.node? p = none ∧ disk' = disk.put p (.file (.octets []))) := by
  unfold openDatabase at h
  split at h
  · cases h
  next readOnly read =>
    cases h
    exact .inl ⟨readOnly, read, rfl, rfl⟩
  next file access immutable read =>
    split at h
    · cases h
    next p path =>
      simp only at h
      split at h
      next contents found =>
        cases h
        exact .inr ⟨access, immutable, p, _, ⟨file, read, path⟩, rfl, found, nofun, .inl rfl⟩
      next found =>
        split at h
        next reading =>
          cases h
          exact .inr ⟨access, immutable, p, _, ⟨file, read, path⟩, rfl, found, fun _ => reading,
            .inl rfl⟩
        · cases h
      next absent =>
        split at h
        next allowed =>
          obtain ⟨-, -, again⟩ := allowed
          cases h
          exact .inr ⟨access, immutable, p, _, ⟨file, read, again⟩, rfl,
            node?_put_self _ _ (ne_nil_of_databasePath? path), nofun, .inr ⟨absent, rfl⟩⟩
        · cases h

/-- **Opening a database** changes no database. -/
theorem connection_of_openDatabase {handle : Handle}
    (h : disk.openDatabase name = .ok (handle, disk')) (other : Handle) :
    disk'.connection other = disk.connection other := by
  rcases openDatabase_cases h with ⟨_, -, -, rfl⟩ |
    ⟨access, immutable, p, node, leads, -, -, -, rfl | ⟨absent, rfl⟩⟩
  · rfl
  · rfl
  cases other with
  | own _ => rfl
  | file q readOnly =>
      refine congrArg (Connection.mk · readOnly) ?_
      by_cases same : q = p
      · -- Where no file was, one of no octets shows an empty database as well.
        subst same
        unfold shown
        rw [node?_put_self _ _ leads.inside, absent]
      · exact shown_put_of_ne disk _ same

end Disk

end FractalArchive
