import Dossier.Proofs.Act.Lapses
import Dossier.Proofs.Packing

/-!
# Lapses of packing

A file that may not be opened keeps an archive from being finished, and so does one whose
date does not go into an archive.  The first is reported, the second is not (`leaks_pack`).
-/

namespace Dossier.Packing

open Act (FailsWith Leaks Reports)

variable {env : Environment} {s : State} {p : Path} {fault : Fault}

/-- What packing meets and does not account for, with the fault that comes of it: the
archive is opened, and the first file that cannot be added to it has a date that does not
go into an archive. -/
inductive Lapse (p : Path) (env : Environment) (s : State) : Fault → Prop
  | date {files before : List (Location × Content)} {l : Location} {cause : DateFault}
      (listing : filesOf p env s = .ok files s)
      (place : s.store.placeToWrite env.here (archivePath p) = .ok l)
      (stops : Stops env.toMachine p files before (.date cause)) :
      Lapse p env s (.date cause)

/-- What keeps a file from being added is its date, or the system refuses to open it. -/
theorem snag?_cause {machine : Machine} {file : Path} (h : snag? machine file = some fault) :
    fault.IsSystem ∨ ∃ cause, fault = .date cause := by
  rw [snag?] at h
  split at h
  · exact Or.inr ⟨_, (Option.some.inj h).symm⟩
  · split at h
    · exact Or.inl ⟨_, (Option.some.inj h).symm⟩
    · split at h
      · exact Or.inr ⟨_, (Option.some.inj h).symm⟩
      · cases h

theorem Stops.cause {machine : Machine} {files before : List (Location × Content)}
    (h : Stops machine p files before fault) :
    fault.IsSystem ∨ ∃ cause, fault = .date cause := by
  obtain ⟨_, hsnag⟩ := h
  exact snag?_cause hsnag

end Dossier.Packing
