import FractalArchive.Disk.Basic
import FractalArchive.Text.Hex

/-!
# Names of databases

What the database engine makes of the name of a file.  The empty name and `:memory:` stand for a
database of the connection's own.  A name that begins with `file:` is a URI: an empty authority or
`localhost`, a path with percent escapes, parameters after a question mark and a fragment that does
not count.  The parameter `mode` limits the access, and each one keeps within the last; `immutable`
has changes refused.

A path in a URI may hold octets that are no text.  They are kept apart in the name of the file, so
different octets are different files (`Path.ofOctets`).
-/

namespace FractalArchive

namespace Path

/-- The characters of a part with these octets.  A part that is no text is a null character, which
no other part has, and then the characters of the octets' codes. -/
def ofOctets (octets : Octets) : List Char :=
  let text := Utf8.decodeLossy octets
  if Utf8.encode text = octets then text
  else '\x00' :: octets.map fun octet => Char.ofNat octet.toNat

/-- The octets of a part. -/
def toOctets : List Char → Octets
  | '\x00' :: codes => codes.map fun code => UInt8.ofNat code.toNat
  | text => Utf8.encode text

/-- The number of octets of a part. -/
def partSize (part : String) : Nat :=
  (toOctets part.toList).length

/-- The number of octets of a path, each part behind a slash. -/
def size : Path → Nat
  | [] => 0
  | part :: rest => partSize part + 1 + size rest

end Path

/-- What a connection may do with a file. -/
inductive Access where
  | readOnly
  | readWrite
  /-- Also make the file. -/
  | create
  deriving DecidableEq, Repr

/-- The place of an access among all of them, the least first. -/
def Access.rank : Access → Nat
  | .readOnly => 0
  | .readWrite => 1
  | .create => 2

/-- What a name stands for. -/
inductive DatabaseName where
  /-- A database of the connection's own. -/
  | own (readOnly : Bool)
  /-- The database in a file, which may be taken to be immutable. -/
  | file (name : String) (access : Access) (immutable : Bool)
  deriving DecidableEq, Repr

namespace DatabaseName

/-- Octets up to the first that ends them, and the rest. -/
def splitAtEnd (ends : UInt8 → Bool) (octets : Octets) : Octets × Octets :=
  (octets.takeWhile (!ends ·), octets.dropWhile (!ends ·))

/-- An octet for the code of an ASCII character. -/
def ascii (c : Char) : UInt8 := UInt8.ofNat c.toNat

/-- Resolves the percent escapes; an escaped null octet ends the text. -/
def unescape : Octets → Octets
  | [] => []
  | a :: b :: c :: rest =>
    if a = ascii '%' then
      match Hex.octet? b c with
      | some 0 => []
      | some o => o :: unescape rest
      | none => a :: unescape (b :: c :: rest)
    else a :: unescape (b :: c :: rest)
  | a :: rest => a :: unescape rest

/-- The text of octets, as parameters are compared and messages show it. -/
def text (octets : Octets) : String :=
  String.ofList (Utf8.decodeLossy octets)

/-- The name of the file whose path has these octets. -/
def fileName (octets : Octets) : String :=
  String.ofList (['/'].intercalate ((octets.splitOn (ascii '/')).map Path.ofOctets))

/-! ### Parameters -/

/-- Splits parameters at `&`. -/
def pieces (octets : Octets) : List Octets :=
  octets.splitOn (ascii '&')

/-- A name and a value; a parameter without a name does not count. -/
def parameter (piece : Octets) : Option (String × String) :=
  let (name, rest) := splitAtEnd (· == ascii '=') piece
  if name.isEmpty then none
  else some (text (unescape name), text (unescape (rest.drop 1)))

/-- The number that goes on with the digits at the front. -/
def numberFrom (base n : Nat) : List Char → Nat
  | [] => n
  | c :: rest =>
    match Hex.value? c.toNat with
    | some digit => if digit < base then numberFrom base (n * base + digit) rest else n
    | none => n

/-- Whether a value means yes: a number of 32 bits whose last octet is not zero, or a word. -/
def isYes (value : String) : Bool :=
  let n := match value.toList with
    | '0' :: 'x' :: digits => numberFrom 16 0 digits
    | '0' :: 'X' :: digits => numberFrom 16 0 digits
    | digits => numberFrom 10 0 digits
  n < 2147483648 && n % 256 != 0 || ["on", "yes", "true"].contains value.toLower

/-- What a URI asks for besides its path. -/
structure Request where
  access : Access := .create
  ownDatabase : Bool := false
  fileSystem : Option String := none
  /-- Whether the file is taken to be immutable, if that has been said. -/
  immutable : Option Bool := none

/-- The file systems that exist. -/
def fileSystems : List String := ["unix", "unix-none", "unix-dotfile", "unix-excl", "memdb"]

/-- Asks for an access by the name of its mode; it is refused where the last one was for less. -/
def Request.ask (r : Request) (access : Access) (mode : String) : Except SqlError Request :=
  if access.rank ≤ r.access.rank then .ok { r with access, ownDatabase := false }
  else .error (.uriAccess mode)

/-- What one parameter adds.  Of `vfs` the last value counts, and of `immutable` the first. -/
def request (r : Request) : String × String → Except SqlError Request
  | ("vfs", name) => .ok { r with fileSystem := some name }
  | ("mode", "ro") => r.ask .readOnly "ro"
  | ("mode", "rw") => r.ask .readWrite "rw"
  | ("mode", "rwc") => r.ask .create "rwc"
  | ("mode", "memory") => .ok { r with access := .create, ownDatabase := true }
  | ("mode", mode) => .error (.uriMode "access" mode)
  | ("cache", mode) => if mode = "shared" ∨ mode = "private" then .ok r
      else .error (.uriMode "cache" mode)
  | ("immutable", value) => .ok { r with immutable := r.immutable.or (some (isYes value)) }
  | _ => .ok r

/-- What a list of parameters adds. -/
def requests (r : Request) : List (String × String) → Except SqlError Request
  | [] => .ok r
  | p :: rest => match request r p with
    | .error e => .error e
    | .ok r => requests r rest

/-! ### Names -/

/-- What a path stands for.  Only what has a file can be immutable, be it in memory. -/
def Request.resolve (r : Request) (name : String) : DatabaseName :=
  let immutable := r.immutable.getD false
  if r.ownDatabase || name = "" || name = ":memory:" then .own (r.access == .readOnly)
  else if r.fileSystem = some "memdb" then .own (r.access == .readOnly || immutable)
  else .file name r.access immutable

/-- The name after the authority. -/
def readPath (octets : Octets) : Except SqlError DatabaseName :=
  let octets := octets.takeWhile (· != ascii '#')
  let (path, query) := splitAtEnd (· == ascii '?') octets
  match requests {} ((pieces (query.drop 1)).filterMap parameter) with
  | .error e => .error e
  | .ok r =>
    match r.fileSystem.filter (!fileSystems.contains ·) with
    | some unknown => .error (.uriFileSystem unknown)
    | none => .ok (r.resolve (fileName (unescape path)))

/-- The octets `file:`. -/
def uriMark : Octets := [0x66, 0x69, 0x6C, 0x65, 0x3A]

/-- What a name stands for. -/
def read (name : String) : Except SqlError DatabaseName :=
  let octets := octetsOf name
  match octets.findIdx? (· == 0) with
  | some position => .error (.nulInPath position)
  | none =>
    match uriMark.isPrefixOf? octets with
    | none => if name = "" ∨ name = ":memory:" then .ok (.own false)
      else .ok (.file name .create false)
    | some rest =>
      match rest with
      | a :: b :: more =>
        if a = ascii '/' ∧ b = ascii '/' then
          let (host, path) := splitAtEnd (· == ascii '/') more
          if host = [] ∨ text host = "localhost" then readPath path
          else .error (.uriAuthority (text host))
        else readPath rest
      | _ => readPath rest

end DatabaseName

end FractalArchive
