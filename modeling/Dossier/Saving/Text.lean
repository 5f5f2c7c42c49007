import Dossier.Disk

/-!
# Saving text

Text in a script cannot hold spaces, so it has underscores for them.  It is
saved with spaces again, as UTF-8.
-/

namespace Dossier.Saving

/-- A text with spaces for its underscores. -/
def spaced (content : String) : String :=
  String.ofList (content.toList.map fun c => if c == '_' then ' ' else c)

/-- The bytes that a text of a script is saved as. -/
def textBytes (content : String) : Bytes := Utf8.encode (spaced content).toList

/-- Saves a text and gives its size. -/
def text (content : String) (file : Path) : Act Nat := do
  Disk.ensureParent file
  Disk.during (.write file) (Disk.write file (.plain (textBytes content)))
  return (textBytes content).length

/-! ## Tests -/

example : spaced "a_b_" = "a b " := by decide +kernel

end Dossier.Saving
