import VxlanMtd.Model.Engine
import VxlanMtd.Lib.Asking

/-!
# The engine's use of the random generator

The functions of `VMTDEngine` and `VMTDGroup` that draw, as programs that ask
the generator: what they ask for depends on what they were given before, and a
value they can never be given is a loop they never leave.

`Question` lists the three kinds of calls. A `do … while (used.contains(…))`
loop asks `bounded` for the same range over and over and goes on with the first
value that is not used; it is one question, with the used values part of it.
`Drawing.run_generate` says that answered from a table of `Draws` these are the
functions of the engine.
-/

namespace VxlanMtd

-- ---------------------------------------------------------------------------
-- Questions
-- ---------------------------------------------------------------------------

/-- What a drawn number is for. -/
inductive Place where
  | groupCount
  | vlanId (group : Nat)
  | octet3 (group : Nat)
  | octet4 (group place : Nat)
  | link4 (group : Nat)
  deriving DecidableEq, Repr

/-- What a shuffled list is of. -/
inductive Shuffled where
  | participants
  | groups
  | gateways
  deriving DecidableEq, Repr

/-- A use of the random generator. -/
inductive Question where
  /-- `bounded(lowest, highest)`, again and again while the value is used. -/
  | bounded (place : Place) (lowest highest : Int) (used : List Int)
  /-- `std::shuffle`. -/
  | shuffle (which : Shuffled) (items : List Nat)
  /-- `qrand()`. -/
  | qrand (group : Nat)

/-- What a question is answered with. -/
abbrev Answer : Question → Type
  | .bounded .. => Int
  | .shuffle .. => List Nat
  | .qrand .. => Nat

/-- The answers a question can get. -/
def Accepts : ∀ q : Question, Answer q → Prop
  | .bounded _ lowest highest used, value => Bounded lowest highest value ∧ value ∉ used
  | .shuffle _ items, shuffled => List.Perm shuffled items
  | .qrand _, _ => True

instance decidableAccepts : ∀ (q : Question) (a : Answer q), Decidable (Accepts q a)
  | .bounded _ lowest highest used, value =>
    inferInstanceAs (Decidable (Bounded lowest highest value ∧ value ∉ used))
  | .shuffle _ items, shuffled => inferInstanceAs (Decidable (List.Perm shuffled items))
  | .qrand _, _ => isTrue trivial

/-- A program that uses the generator. -/
abbrev Drawing := Asking Question Answer

namespace Drawing

/-- A value of `do … = bounded(lowest, highest) while (used.contains(…))`. -/
def bounded (place : Place) (lowest highest : Int) (used : List Int) : Drawing Int :=
  .ask (.bounded place lowest highest used) .done

/-- A value that is drawn when `shouldRandomize`, and `fixed` otherwise. -/
def drawIf (shouldRandomize : Bool) (place : Place) (lowest highest : Int) (used : List Int)
    (fixed : Int) : Drawing Int :=
  if shouldRandomize then bounded place lowest highest used else pure fixed

/-- `std::shuffle`, when `shouldRandomize`. -/
def shuffleIf (shouldRandomize : Bool) (which : Shuffled) (items : List Nat) :
    Drawing (List Nat) :=
  if shouldRandomize then .ask (.shuffle which items) .done else pure items

/-- `qrand()`, when `shouldRandomize`. -/
def qrandIf (shouldRandomize : Bool) (group : Nat) : Drawing Nat :=
  if shouldRandomize then .ask (.qrand group) .done else pure 0

-- ---------------------------------------------------------------------------
-- VMTDGroup
-- ---------------------------------------------------------------------------

/-- `VMTDGroup::addParticipant`; `place` is where the participant comes. -/
def addParticipant (settings : VMTDSettings) (place : Place) (group : VMTDGroup)
    (participant : Nat) (participants : List VMTDParticipant) :
    Drawing (VMTDGroup × List VMTDParticipant) :=
  if !group.canAddParticipant then pure (group, participants)
  else if participant ∈ group.participants then pure (group, participants)
  else do
    let octet4 ← drawIf settings.shouldRandomizeNetwork place 1 253 group.octets4
      (group.participants.length + 1)
    let group := { group with octets4 := octet4 :: group.octets4 }
    pure
      ({ group with participants := group.participants ++ [participant] },
        participants.modify participant fun p =>
          { p with interface1 := group.assign octet4 p.interface1 })

/-- What `addParticipant` does with a new participant while there is room. -/
theorem addParticipant_of_room {settings : VMTDSettings} {place : Place} {group : VMTDGroup}
    {participant : Nat} {participants : List VMTDParticipant}
    (hRoom : group.canAddParticipant = true) (hNew : participant ∉ group.participants) :
    addParticipant settings place group participant participants =
      drawIf settings.shouldRandomizeNetwork place 1 253 group.octets4
        (group.participants.length + 1) >>= fun octet4 =>
      pure
        ({ group with
            participants := group.participants ++ [participant]
            octets4 := octet4 :: group.octets4 },
          participants.modify participant fun p =>
            { p with interface1 := group.assign octet4 p.interface1 }) := by
  unfold addParticipant
  rw [hRoom, if_neg hNew]
  rfl

/-- `VMTDGroup::setExternalGateway`. -/
def setExternalGateway (settings : VMTDSettings) (place : Place) (group : VMTDGroup)
    (externalGateway : Nat) (participants : List VMTDParticipant) :
    Drawing (VMTDGroup × List VMTDParticipant) := do
  let gateway ← .ofOption participants[externalGateway]?
  if gateway.interface1.groupIndex = group.index then pure (group, participants)
  else do
    let octet4 ← drawIf settings.shouldRandomizeGateway place 1 253 group.octets4
      (group.participants.length + 1)
    let group := { group with
      externalGateway := some externalGateway
      octets4 := octet4 :: group.octets4 }
    pure
      ({ group with participants := group.participants ++ [externalGateway] },
        participants.modify externalGateway fun p =>
          { p with interface2 := group.assign octet4 p.interface2 })

/-- What `setExternalGateway` does with the gateway of another group. -/
theorem setExternalGateway_of_other {settings : VMTDSettings} {place : Place} {group : VMTDGroup}
    {externalGateway : Nat} {gateway : VMTDParticipant} {participants : List VMTDParticipant}
    (hGateway : participants[externalGateway]? = some gateway)
    (hOther : gateway.interface1.groupIndex ≠ group.index) :
    setExternalGateway settings place group externalGateway participants =
      drawIf settings.shouldRandomizeGateway place 1 253 group.octets4
        (group.participants.length + 1) >>= fun octet4 =>
      pure
        ({ group with
            participants := group.participants ++ [externalGateway]
            octets4 := octet4 :: group.octets4
            externalGateway := some externalGateway },
          participants.modify externalGateway fun p =>
            { p with interface2 := group.assign octet4 p.interface2 }) := by
  unfold setExternalGateway
  rw [hGateway, Asking.ofOption_some_bind, if_neg hOther]
  rfl

-- ---------------------------------------------------------------------------
-- createGroups
-- ---------------------------------------------------------------------------

/-- One pass of the loop that creates the groups. -/
def createGroup (settings : VMTDSettings) (groupCount size : Nat)
    (created : List VMTDGroup × List Int × List Int) (i : Nat) :
    Drawing (List VMTDGroup × List Int × List Int) := do
  let (groups, vlanIds, octets3) := created
  let vlanId ← drawIf settings.shouldRandomizeVlan (.vlanId i) settings.minVlanId
    settings.maxVlanId vlanIds (Int.bmod (settings.minVlanId + i) (2 ^ 32))
  let octet3 ← drawIf settings.shouldRandomizeNetwork (.octet3 i) 1 253 octets3 0
  let group : VMTDGroup := {
    index := i
    vlanId := vlanId
    octet3 := if settings.shouldRandomizeNetwork then octet3 else vlanId
    mask := 24
    maxParticipantCount :=
      let whole := size / groupCount
      let remainder := size % groupCount
      if i = 0 ∧ remainder ≠ 0 then whole + remainder else whole }
  pure (groups ++ [group], vlanId :: vlanIds, octet3 :: octets3)

/-- The `while (group->canAddParticipant())` loop of one group, on the
participants not yet taken; it is stuck where the source would read past the
last of them. -/
def fillGroup (settings : VMTDSettings) (group : Nat) :
    List Nat → VMTDEngine → Drawing (List Nat × VMTDEngine)
  | [], engine => do
    let g ← .ofOption engine.groups[group]?
    if g.canAddParticipant then .stuck else pure ([], engine)
  | participant :: rest, engine => do
    let g ← .ofOption engine.groups[group]?
    if g.canAddParticipant then
      let participants := engine.participants.modify participant fun p =>
        { p with role := .endpoint }
      let (g, participants) ← addParticipant settings (.octet4 group g.participants.length) g
        participant participants
      fillGroup settings group rest
        (engine.withAssignment participants (engine.groups.set group g))
    else pure (participant :: rest, engine)

/-- The loop over the groups. -/
def fillGroups (settings : VMTDSettings) :
    List Nat → List Nat → VMTDEngine → Drawing VMTDEngine
  | [], _, engine => pure engine
  | group :: groups, participants, engine => do
    let (participants, engine) ← fillGroup settings group participants engine
    fillGroups settings groups participants engine

/-- `createGroups` once the number of groups is drawn. -/
def createGroupsOf (settings : VMTDSettings) (groupCount : Nat) (engine : VMTDEngine) :
    Drawing VMTDEngine := do
  let size := engine.participants.length
  let (groups, _, _) ←
    (List.range groupCount).foldlM (createGroup settings groupCount size) ([], [], [])
  let engine := { engine with groups := groups }
  let participants ← shuffleIf settings.shouldRandomizeParticipant .participants (List.range size)
  let groups ← shuffleIf settings.shouldRandomizeParticipant .groups (List.range groupCount)
  fillGroups settings groups participants engine

/-- `createGroups`. -/
def createGroups (settings : VMTDSettings) (engine : VMTDEngine) : Drawing VMTDEngine := do
  let groupCount ← bounded .groupCount 2 engine.participants.length []
  createGroupsOf settings groupCount.toNat engine

-- ---------------------------------------------------------------------------
-- createGateways
-- ---------------------------------------------------------------------------

/-- One pass of the loop that picks the gateways. -/
def selectGateway (settings : VMTDSettings) (selected : List Nat × VMTDEngine) (i : Nat) :
    Drawing (List Nat × VMTDEngine) := do
  let (gateways, engine) := selected
  let group ← .ofOption engine.groups[i]?
  let random ← qrandIf settings.shouldRandomizeGateway i
  let index :=
    if settings.shouldRandomizeGateway then random % group.participants.length
    else if i = engine.groups.length - 1 then group.participants.length - 1
    else 0
  let gateway ← .ofOption group.participants[index]?
  pure (gateways ++ [gateway],
    engine.modifyParticipant gateway fun p => { p with role := .gateway })

/-- The loop that makes each gateway the internal gateway of its group and the
next one the external gateway. -/
def linkGateways (settings : VMTDSettings) : List Nat → VMTDEngine → Drawing VMTDEngine
  | [], engine => pure engine
  | internalGateway :: rest, engine => do
    let gateway ← .ofOption engine.participants[internalGateway]?
    let index := gateway.interface1.groupIndex
    let group ← .ofOption (engine.groupAt index)
    let (group, participants) ←
      .ofOption (group.setInternalGateway internalGateway engine.participants)
    match rest with
    | [] => pure (engine.withAssignment participants (engine.groups.set index.toNat group))
    | externalGateway :: _ => do
      let (group, participants) ←
        setExternalGateway settings (.link4 index.toNat) group externalGateway participants
      linkGateways settings rest
        (engine.withAssignment participants (engine.groups.set index.toNat group))

/-- `createGateways`. -/
def createGateways (settings : VMTDSettings) (engine : VMTDEngine) : Drawing VMTDEngine := do
  let node1 := engine.nodeNamed "Node-1"
  let node10 := engine.nodeNamed "Node-10"
  let (gateways, engine) ←
    (List.range engine.groups.length).foldlM (selectGateway settings) ([], engine)
  let gateways ← shuffleIf settings.shouldRandomizeGateway .gateways gateways
  let engine ← linkGateways settings gateways engine
  let engine ← .ofOption (VMTDEngine.routeForward node10 gateways engine)
  .ofOption (VMTDEngine.routeBack node1 gateways.reverse engine)

/-- `generate`. -/
def generate (settings : VMTDSettings) (rows : List DeviceRow) (engine : VMTDEngine) :
    Drawing VMTDEngine := do
  let engine := { engine with manager := engine.manager.buildParticipants settings rows }
  if engine.participants.length < 2 then pure engine
  else do createGateways settings (← createGroups settings engine)

end Drawing

end VxlanMtd
