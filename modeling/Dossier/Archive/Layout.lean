import Dossier.Archive.Checksum

/-!
# The layout of an archive

An archive is a list of members, each a name and the contents of a file.  Its
bytes are a record for every member, holding its contents, then a directory of
all records, then one closing record.  Numbers are little endian.

The contents are deflated into stored blocks of up to 65535 bytes, so that an
archive is as large as its files and a few bytes for each.  The members carry
no times; all are dated to the first day the format can express.  Only files
dated in the years that it can express become members.
-/

namespace Dossier.Archive

/-- How the contents of a member are kept. -/
inductive Method
  | stored
  | deflated
deriving DecidableEq, Repr

/-- The number of a method. -/
def Method.code : Method → Nat
  | .stored => 0
  | .deflated => 8

/-- A member of an archive: a path with `/` between its parts, and contents. -/
structure Member where
  name : String
  data : Bytes
  method : Method := .deflated
deriving DecidableEq, Repr

/-! ## Dates -/

/-- The first year that the format can express. -/
def firstYear : Int := 1980

/-- The last year that the format can express, with seven bits for the years
since the first. -/
def lastYear : Int := 2107

/-! ## Fields -/

/-- A number in so many bytes, lowest first. -/
def field : Nat → Nat → Bytes
  | 0, _ => []
  | width + 1, n => UInt8.ofNat (n % 256) :: field width (n / 256)

/-- The most bytes in one block. -/
def blockSize : Nat := 65535

/-- A stored block. -/
def block (last : Bool) (data : Bytes) : Bytes :=
  (if last then 1 else 0) :: field 2 data.length ++ field 2 (65535 - data.length) ++ data

/-- Contents in stored blocks.  `fuel` bounds the number of blocks after the
first. -/
def blocks : Nat → Bytes → Bytes
  | 0, data => block true data
  | fuel + 1, data =>
    match data.drop blockSize with
    | [] => block true data
    | rest => block false (data.take blockSize) ++ blocks fuel rest

/-- Contents as a member keeps them. -/
def packed (m : Member) : Bytes :=
  match m.method with
  | .stored => m.data
  | .deflated => blocks (m.data.length / blockSize) m.data

/-! ## Records -/

/-- The bytes of a name. -/
def nameBytes (m : Member) : Bytes := Utf8.encode m.name.toList

/-- The fields that a record and its entry in the directory share. -/
def commonFields (m : Member) : Bytes :=
  field 2 20 ++ field 2 0x800 ++ field 2 m.method.code ++ field 2 0 ++ field 2 0x21 ++
    field 4 (Checksum.ofBytes m.data).toNat ++ field 4 (packed m).length ++ field 4 m.data.length ++
    field 2 (nameBytes m).length ++ field 2 0

/-- The record of a member. -/
def record (m : Member) : Bytes :=
  field 4 0x04034B50 ++ commonFields m ++ nameBytes m ++ packed m

/-- The entry of a member in the directory, given where its record starts. -/
def entry (offset : Nat) (m : Member) : Bytes :=
  field 4 0x02014B50 ++ field 2 0x314 ++ commonFields m ++ field 2 0 ++ field 2 0 ++ field 2 0 ++
    field 4 0x81A40000 ++ field 4 offset ++ nameBytes m

/-- The directory of the members whose records start at an offset. -/
def directory (offset : Nat) : List Member → Bytes
  | [] => []
  | m :: rest => entry offset m ++ directory (offset + (record m).length) rest

/-- The bytes of an archive. -/
def encode (members : List Member) : Bytes :=
  let records := members.flatMap record
  let entries := directory 0 members
  records ++ entries ++ field 4 0x06054B50 ++ field 4 0 ++ field 2 members.length ++
    field 2 members.length ++ field 4 entries.length ++ field 4 records.length ++ field 2 0

end Dossier.Archive
