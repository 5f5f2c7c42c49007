import Dossier.Number.Binary64

/-!
# Durations

The time between two readings of a clock, in whole seconds, shown as minutes
and seconds, with hours in front if there are any.  The difference is cut
towards zero; minutes and seconds then lie between 0 and 59, so that a clock
that went back shows negative hours.
-/

namespace Dossier.Duration

/-- Why a difference of two readings is no duration. -/
inductive Fault
  /-- It is infinite. -/
  | infinite
  /-- It is no number. -/
  | undefined
deriving DecidableEq, Repr

/-- The whole seconds from one reading of the clock to another. -/
def between (start now : Float) : Except Fault Int :=
  let difference := now - start
  match Binary64.ofFloat? difference with
  | some x => .ok x.truncate
  | none => .error (if difference.isNaN then .undefined else .infinite)

/-- A duration in whole seconds, as a message shows it. -/
def text (seconds : Int) : String :=
  let minutes := seconds / 60
  let hours := minutes / 60
  let tail := Decimal.padded 2 (seconds % 60).toNat ++ ['s']
  if hours = 0 then
    String.ofList (Decimal.ofInt (minutes % 60) ++ 'm' :: ' ' :: tail)
  else
    String.ofList (Decimal.ofInt hours ++ 'h' :: ' ' :: Decimal.padded 2 (minutes % 60).toNat ++
      'm' :: ' ' :: tail)

/-! ## Tests -/

example : text 30 = "0m 30s" ∧ text 3930 = "1h 05m 30s" ∧ text (-5) = "-1h 59m 55s" := by
  decide +kernel

end Dossier.Duration
