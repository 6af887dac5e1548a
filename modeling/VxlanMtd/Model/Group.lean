import VxlanMtd.Model.Participant
import VxlanMtd.Model.Settings

/-!
# Random draws and groups

`VMTDGroup`: a network with its VLAN, the participants in it and the last
octets it has given out. Participants are referred to by their position in the
device manager's list, as the source refers to them by pointer.

Random choices are inputs. A `do … while` loop around `bounded` ends, if it
ends, with a value the generator can return and the loop condition accepts;
`drawUnused` takes that value and fails on any other, so a run of the model
exists for exactly the outcomes a run of the source can have.
-/

namespace VxlanMtd

-- ---------------------------------------------------------------------------
-- Draws
-- ---------------------------------------------------------------------------

/-- `value` is one `QRandomGenerator::bounded(lowest, highest)` returns for
these two `int`s: in the range when it is not empty, `lowest` when it has no
width, and any `int` when its width is negative and wraps. -/
structure Bounded (lowest highest value : Int) : Prop where
  lowest_int : IsInt lowest
  highest_int : IsInt highest
  value_int : IsInt value
  range : lowest < highest → lowest ≤ value ∧ value < highest
  single : lowest = highest → value = lowest

instance (lowest highest value : Int) : Decidable (Bounded lowest highest value) :=
  decidable_of_iff
    (IsInt lowest ∧ IsInt highest ∧ IsInt value ∧
      (lowest < highest → lowest ≤ value ∧ value < highest) ∧
      (lowest = highest → value = lowest))
    ⟨fun ⟨h₁, h₂, h₃, h₄, h₅⟩ => ⟨h₁, h₂, h₃, h₄, h₅⟩,
      fun ⟨h₁, h₂, h₃, h₄, h₅⟩ => ⟨h₁, h₂, h₃, h₄, h₅⟩⟩

/-- The outcome `value` of `do … = bounded(lowest, highest) while
(used.contains(…))`. -/
def drawUnused (lowest highest : Int) (used : List Int) (value : Int) : Option Int :=
  if Bounded lowest highest value ∧ value ∉ used then some value else none

/-- A value that is drawn like that when `shouldRandomize`, and `fixed`
otherwise. -/
def drawIf (shouldRandomize : Bool) (lowest highest : Int) (used : List Int) (value fixed : Int) :
    Option Int :=
  if shouldRandomize then drawUnused lowest highest used value else some fixed

/-- The outcome `shuffled` of `std::shuffle`, when `shouldRandomize`. -/
def shuffleIf (shouldRandomize : Bool) (items shuffled : List Nat) : Option (List Nat) :=
  if shouldRandomize then if shuffled.Perm items then some shuffled else none else some items

-- ---------------------------------------------------------------------------
-- Texts
-- ---------------------------------------------------------------------------

/-- `QString(NETWORK_TEMPLATE).arg(a).arg(b)`. -/
def networkText (octet3 octet4 : Int) : String :=
  PlaceMarker.arg (PlaceMarker.arg networkTemplate (toString octet3)) (toString octet4)

/-- `QString("%1").arg(octet, 2, 16, QLatin1Char('0'))`: base 16 in at least
two places; a negative number shows as its 64-bit two's complement. -/
def hexText (octet : Int) : String :=
  PlaceMarker.arg "%1"
    (String.ofList ((Nat.toDigits 16 (octet % 2 ^ 64).toNat).leftpad 2 '0'))

/-- `QString(MAC_TEMPLATE)` with both octets in base 16. -/
def macText (octet3 octet4 : Int) : String :=
  PlaceMarker.arg (PlaceMarker.arg macTemplate (hexText octet3)) (hexText octet4)

-- ---------------------------------------------------------------------------
-- Groups
-- ---------------------------------------------------------------------------

/-- `VMTDGroup`, with the values of its constructor. -/
structure VMTDGroup where
  index : Int := -1
  maxParticipantCount : Nat := 2
  octet3 : Int := 1
  mask : Nat := 24
  vlanId : Int := 1
  participants : List Nat := []
  octets4 : List Int := []
  internalGateway : Option Nat := none
  externalGateway : Option Nat := none
  deriving DecidableEq, Repr

namespace VMTDGroup

/-- `VMTDGroup::network`. -/
def network (group : VMTDGroup) : String := networkText group.octet3 0

/-- `VMTDGroup::canAddParticipant`. -/
def canAddParticipant (group : VMTDGroup) : Bool :=
  group.participants.length < group.maxParticipantCount

/-- The values both `addParticipant` and `setExternalGateway` put on an
interface of the group. -/
def assign (group : VMTDGroup) (octet4 : Int) (i : VMTDInterface) : VMTDInterface :=
  { i with
    isExist := true
    ip := networkText group.octet3 octet4
    mac := macText group.octet3 octet4
    groupIndex := group.index
    mask := group.mask
    vlanId := group.vlanId }

/-- The last octet of a new address: drawn, or the next number. -/
def nextOctet4 (group : VMTDGroup) (shouldRandomize : Bool) (draw : Int) : Option Int :=
  drawIf shouldRandomize 1 253 group.octets4 draw (group.participants.length + 1)

/-- `VMTDGroup::addParticipant`; `draw` is the outcome of its loop. -/
def addParticipant (settings : VMTDSettings) (draw : Int) (group : VMTDGroup)
    (participant : Nat) (participants : List VMTDParticipant) :
    Option (VMTDGroup × List VMTDParticipant) :=
  if !group.canAddParticipant then some (group, participants)
  else if participant ∈ group.participants then some (group, participants)
  else do
    let octet4 ← group.nextOctet4 settings.shouldRandomizeNetwork draw
    let group := { group with octets4 := octet4 :: group.octets4 }
    some
      ({ group with participants := group.participants ++ [participant] },
        participants.modify participant fun p =>
          { p with interface1 := group.assign octet4 p.interface1 })

/-- What `addParticipant` does with a new participant while there is room. -/
theorem addParticipant_eq_some {settings : VMTDSettings} {draw : Int} {group group' : VMTDGroup}
    {participant : Nat} {participants participants' : List VMTDParticipant}
    (hRoom : group.canAddParticipant = true) (hNew : participant ∉ group.participants)
    (h : group.addParticipant settings draw participant participants =
      some (group', participants')) :
    ∃ octet4, group.nextOctet4 settings.shouldRandomizeNetwork draw = some octet4 ∧
      group' = { group with
        participants := group.participants ++ [participant]
        octets4 := octet4 :: group.octets4 } ∧
      participants' = participants.modify participant fun p =>
        { p with interface1 := group.assign octet4 p.interface1 } := by
  unfold addParticipant at h
  rw [hRoom, if_neg (by simp), if_neg hNew] at h
  obtain ⟨octet4, hOctet, h⟩ := Option.bind_eq_some_iff.mp h
  rw [Option.some_inj, Prod.mk.injEq] at h
  exact ⟨octet4, hOctet, h.1.symm, h.2.symm⟩

/-- `VMTDGroup::setInternalGateway`: every other participant of the group gets
a route to all of 100.100.0.0/16 through it. -/
def setInternalGateway (group : VMTDGroup) (internalGateway : Nat)
    (participants : List VMTDParticipant) : Option (VMTDGroup × List VMTDParticipant) := do
  let gateway ← participants[internalGateway]?
  if gateway.interface1.groupIndex ≠ group.index then some (group, participants)
  else
    some
      ({ group with internalGateway := some internalGateway },
        group.participants.foldl
          (fun participants participant =>
            if participant ≠ internalGateway then
              participants.modify participant fun p =>
                { p with interface1 :=
                    p.interface1.addRoute (networkText 0 0) 16 gateway.interface1.ip 100 }
            else participants)
          participants)

/-- `VMTDGroup::setExternalGateway`: the gateway of another group gets its
second interface in this one; `draw` is the outcome of the loop. -/
def setExternalGateway (settings : VMTDSettings) (draw : Int) (group : VMTDGroup)
    (externalGateway : Nat) (participants : List VMTDParticipant) :
    Option (VMTDGroup × List VMTDParticipant) := do
  let gateway ← participants[externalGateway]?
  if gateway.interface1.groupIndex = group.index then some (group, participants)
  else do
    let octet4 ← group.nextOctet4 settings.shouldRandomizeGateway draw
    let group := { group with
      externalGateway := some externalGateway
      octets4 := octet4 :: group.octets4 }
    some
      ({ group with participants := group.participants ++ [externalGateway] },
        participants.modify externalGateway fun p =>
          { p with interface2 := group.assign octet4 p.interface2 })

/-- What `setExternalGateway` does with the gateway of another group. -/
theorem setExternalGateway_eq_some {settings : VMTDSettings} {draw : Int}
    {group group' : VMTDGroup} {externalGateway : Nat} {gateway : VMTDParticipant}
    {participants participants' : List VMTDParticipant}
    (hGateway : participants[externalGateway]? = some gateway)
    (hOther : gateway.interface1.groupIndex ≠ group.index)
    (h : group.setExternalGateway settings draw externalGateway participants =
      some (group', participants')) :
    ∃ octet4, group.nextOctet4 settings.shouldRandomizeGateway draw = some octet4 ∧
      group' = { group with
        participants := group.participants ++ [externalGateway]
        octets4 := octet4 :: group.octets4
        externalGateway := some externalGateway } ∧
      participants' = participants.modify externalGateway fun p =>
        { p with interface2 := group.assign octet4 p.interface2 } := by
  unfold setExternalGateway at h
  rw [hGateway, Option.bind_eq_bind, Option.bind_some, if_neg hOther] at h
  obtain ⟨octet4, hOctet, h⟩ := Option.bind_eq_some_iff.mp h
  rw [Option.some_inj, Prod.mk.injEq] at h
  exact ⟨octet4, hOctet, h.1.symm, h.2.symm⟩

end VMTDGroup

end VxlanMtd
