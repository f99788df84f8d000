/-!
# Endpoints

The two addresses of a block stream, which take turns if there are two.
-/

namespace Liveness

/-- The addresses of a stream. -/
structure Endpoints where
  /-- The first address. -/
  primary : String
  /-- The second address, if there is one. -/
  backup : Option String
  /-- The turn is the second address's. -/
  onBackup : Bool
  deriving DecidableEq, Repr

namespace Endpoints

/-- The addresses at the start; an empty second one is none. -/
def of (primary : String) (backup : Option String) : Endpoints :=
  ⟨primary, backup.filter (· ≠ ""), false⟩

/-- The address whose turn it is. -/
def current (e : Endpoints) : String := if e.onBackup then e.backup.getD e.primary else e.primary

/-- The addresses after a turn. -/
def rotate (e : Endpoints) : Endpoints :=
  if e.backup.isSome then { e with onBackup := !e.onBackup } else e

end Endpoints

end Liveness
