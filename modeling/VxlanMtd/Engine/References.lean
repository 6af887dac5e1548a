import VxlanMtd.Engine.Addresses
import VxlanMtd.Lib.Run

/-!
# Groups and live participants

`buildParticipants` deletes all participants and creates new ones, and the
groups of the engine refer to participants by pointer. Here a pointer is the
number of the build that created the object together with its position, so a
reference to an object of an earlier build is not a reference to its successor.

**`onlyLive_iff`**: over any reconfigurations and changes of the device tables
and online maps, the groups refer to live participants only, if and only if no
`generate` finds fewer than two eligible hosts while there are groups. It
returns early then, and the groups of the time before stay.
-/

namespace VxlanMtd

open EventRun

-- addresses are opaque here; unfolding them would make Lean render templates
attribute [local irreducible] networkText macText PlaceMarker.arg

/-- The engine, the number of builds so far, and the build its groups were made
from. -/
structure TrackedEngine where
  engine : VMTDEngine := {}
  built : Nat := 0
  groupsBuilt : Nat := 0

/-- Reconfigurations, with the rows the device tables hold by then, and changes
of the online maps. -/
inductive ReconfigEvent where
  | generate (settings : VMTDSettings) (rows : List DeviceRow) (draws : Draws)
  | run (urls : List String)
  | updateUrlOnline (url : String) (isOnline : Bool)
  | updateIpOnline (ip : String) (isOnline : Bool)

/-- The participants a group refers to: its members and its gateways. -/
def VMTDGroup.referenced (group : VMTDGroup) : List Nat :=
  group.participants ++ group.internalGateway.toList ++ group.externalGateway.toList

namespace TrackedEngine

/-- The engine with a change to its device manager. -/
def withManager (tracked : TrackedEngine) (manager : VMTDDeviceManager) : TrackedEngine :=
  { tracked with engine := { tracked.engine with manager := manager } }

/-- One event; `run` emits and changes nothing. Groups are made anew only when
there are enough participants. -/
def step (tracked : TrackedEngine) : ReconfigEvent → TrackedEngine
  | .generate settings rows draws =>
    match tracked.engine.generate settings rows draws with
    | none => tracked
    | some engine =>
      { engine := engine
        built := tracked.built + 1
        groupsBuilt :=
          if engine.participants.length < 2 then tracked.groupsBuilt else tracked.built + 1 }
  | .run _ => tracked
  | .updateUrlOnline url isOnline =>
    tracked.withManager (tracked.engine.manager.updateUrlOnlineSlot url isOnline)
  | .updateIpOnline ip isOnline =>
    tracked.withManager (tracked.engine.manager.updateIpOnlineSlot ip isOnline)

/-- The objects the groups point to. -/
def references (tracked : TrackedEngine) : List (Nat × Nat) :=
  tracked.engine.groups.flatMap fun group =>
    group.referenced.map fun participant => (tracked.groupsBuilt, participant)

/-- The objects in `participants()`. -/
def live (tracked : TrackedEngine) : List (Nat × Nat) :=
  (List.range tracked.engine.participants.length).map fun participant =>
    (tracked.built, participant)

/-- The groups only refer to live participants. -/
def OnlyLive (tracked : TrackedEngine) : Prop := ∀ ref ∈ tracked.references, ref ∈ tracked.live

/-- A `generate` that finds fewer than two eligible hosts finds no groups
either. -/
def EnoughOrNoGroups (tracked : TrackedEngine) : ReconfigEvent → Prop
  | .generate settings rows _ =>
    2 ≤ (tracked.engine.manager.buildParticipants settings rows).participants.length ∨
      tracked.engine.groups = []
  | _ => True

variable {tracked : TrackedEngine}

theorem mem_references {ref : Nat × Nat} : ref ∈ tracked.references ↔
    ref.1 = tracked.groupsBuilt ∧ ∃ group ∈ tracked.engine.groups, ref.2 ∈ group.referenced := by
  unfold references
  rw [List.mem_flatMap]
  constructor
  · rintro ⟨group, hGroup, hMem⟩
    obtain ⟨participant, hParticipant, rfl⟩ := List.mem_map.mp hMem
    exact ⟨rfl, group, hGroup, hParticipant⟩
  · rintro ⟨hBuilt, group, hGroup, hParticipant⟩
    exact ⟨group, hGroup, List.mem_map.mpr ⟨ref.2, hParticipant, Prod.ext hBuilt.symm rfl⟩⟩

theorem mem_live {ref : Nat × Nat} : ref ∈ tracked.live ↔
    ref.1 = tracked.built ∧ ref.2 < tracked.engine.participants.length := by
  unfold live
  rw [List.mem_map]
  constructor
  · rintro ⟨participant, hMem, rfl⟩
    exact ⟨rfl, List.mem_range.mp hMem⟩
  · rintro ⟨hBuilt, hLt⟩
    exact ⟨ref.2, List.mem_range.mpr hLt, Prod.ext hBuilt.symm rfl⟩

/-- What holds between events as long as the groups are made anew. -/
structure Settled (tracked : TrackedEngine) : Prop where
  onlyLive : tracked.OnlyLive
  groupsBuilt_le : tracked.groupsBuilt ≤ tracked.built
  inhabited : ∀ group ∈ tracked.engine.groups, group.referenced ≠ []

end TrackedEngine

-- ---------------------------------------------------------------------------
-- The groups of a plan
-- ---------------------------------------------------------------------------

namespace Plan

variable {manager : VMTDDeviceManager} {π : Plan manager.participants.length}

/-- A group refers to its members, its gateway and the gateway of the next
group. -/
theorem referenced_group {g : Nat} (hg : g < π.groupCount) :
    (π.group g).referenced =
      π.members g ++ (π.nextGateway g).toList ++ [π.gateway g] ++ (π.nextGateway g).toList := by
  unfold VMTDGroup.referenced Plan.group Plan.groupAt
  rw [if_pos (mem_chain.mpr hg)]
  rfl

theorem lt_of_nextGateway {g p : Nat} (hg : g < π.groupCount) (h : π.nextGateway g = some p) :
    p < manager.participants.length := by
  obtain ⟨next, hNext, rfl⟩ := Option.map_eq_some_iff.mp h
  exact π.gateway_lt next (mem_after hg (List.mem_of_head? hNext)).1

theorem lt_of_referenced {g p : Nat} (hg : g < π.groupCount) (h : p ∈ (π.group g).referenced) :
    p < manager.participants.length := by
  rw [referenced_group hg] at h
  simp only [List.mem_append, Option.mem_toList, List.mem_singleton] at h
  rcases h with ((hMember | hNext) | rfl) | hNext
  · exact ((Layout.mem_members hg).mp hMember).1
  · exact lt_of_nextGateway hg hNext
  · exact π.gateway_lt g hg
  · exact lt_of_nextGateway hg hNext

end Plan

namespace TrackedEngine

variable {tracked : TrackedEngine}

-- ---------------------------------------------------------------------------
-- Steps
-- ---------------------------------------------------------------------------

/-- With enough hosts `generate` leaves groups of the new participants. -/
theorem settled_generate {settings : VMTDSettings} {rows : List DeviceRow} {draws : Draws}
    {engine : VMTDEngine} (h : tracked.engine.generate settings rows draws = some engine)
    (hTwo : 2 ≤ (tracked.engine.manager.buildParticipants settings rows).participants.length) :
    (tracked.step (.generate settings rows draws)).Settled := by
  have hLength := length_participants_generate h
  have hStep : tracked.step (.generate settings rows draws) =
      ⟨engine, tracked.built + 1, tracked.built + 1⟩ := by
    unfold step
    dsimp only
    rw [h]
    dsimp only
    rw [if_neg (by omega)]
  rw [hStep]
  obtain ⟨π, -, rfl⟩ := generate_refines h hTwo
  refine ⟨fun ref hRef => ?_, le_rfl, fun group hGroup => ?_⟩
  · obtain ⟨hBuilt, group, hGroup, hMem⟩ := mem_references.mp hRef
    obtain ⟨g, hg, rfl⟩ := Plan.mem_groups.mp hGroup
    refine mem_live.mpr ⟨hBuilt, ?_⟩
    dsimp only
    rw [hLength]
    exact Plan.lt_of_referenced hg hMem
  · obtain ⟨g, hg, rfl⟩ := Plan.mem_groups.mp hGroup
    rw [Plan.referenced_group hg]
    simp

/-- With fewer the groups stay, but the participants are new. -/
theorem step_generate_of_lt_two {settings : VMTDSettings} {rows : List DeviceRow} {draws : Draws}
    (hOne : (tracked.engine.manager.buildParticipants settings rows).participants.length < 2) :
    tracked.step (.generate settings rows draws) =
      { engine := { tracked.engine with
          manager := tracked.engine.manager.buildParticipants settings rows }
        built := tracked.built + 1
        groupsBuilt := tracked.groupsBuilt } := by
  have hFew : (VMTDEngine.participants { tracked.engine with
      manager := tracked.engine.manager.buildParticipants settings rows }).length < 2 := hOne
  have hGenerate : tracked.engine.generate settings rows draws = some { tracked.engine with
      manager := tracked.engine.manager.buildParticipants settings rows } := by
    unfold VMTDEngine.generate
    dsimp only
    rw [if_pos hFew]
  unfold step
  dsimp only
  rw [hGenerate]
  dsimp only
  rw [if_pos hFew]

/-- Then a reference to an old participant is left, if there is any group. -/
theorem onlyLive_generate_of_lt_two (hSettled : tracked.Settled) {settings : VMTDSettings}
    {rows : List DeviceRow} {draws : Draws}
    (hOne : (tracked.engine.manager.buildParticipants settings rows).participants.length < 2) :
    (tracked.step (.generate settings rows draws)).OnlyLive ↔ tracked.engine.groups = [] := by
  rw [step_generate_of_lt_two hOne]
  constructor
  · intro hLive
    by_contra hGroups
    obtain ⟨group, groups, hCons⟩ := List.exists_cons_of_ne_nil hGroups
    have hGroup : group ∈ tracked.engine.groups := by
      rw [hCons]
      exact List.mem_cons_self
    obtain ⟨participant, hMem⟩ := List.exists_mem_of_ne_nil _ (hSettled.inhabited group hGroup)
    -- its build is not the latest one
    have hBuilt := (mem_live.mp (hLive (tracked.groupsBuilt, participant)
      (mem_references.mpr ⟨rfl, group, hGroup, hMem⟩))).1
    have hLe := hSettled.groupsBuilt_le
    dsimp only at hBuilt
    omega
  · intro hNone ref hRef
    obtain ⟨-, group, hGroup, -⟩ := mem_references.mp hRef
    dsimp only at hGroup
    rw [hNone] at hGroup
    exact absurd hGroup List.not_mem_nil

/-- Online reports move no pointer. -/
theorem settled_withManager {manager : VMTDDeviceManager} (hSettled : tracked.Settled)
    (hSame : manager.participants = tracked.engine.manager.participants) :
    (tracked.withManager manager).Settled := by
  refine ⟨fun ref hRef => ?_, hSettled.groupsBuilt_le, hSettled.inhabited⟩
  obtain ⟨hBuilt, hLt⟩ := mem_live.mp (hSettled.onlyLive ref hRef)
  refine mem_live.mpr ⟨hBuilt, ?_⟩
  show ref.2 < manager.participants.length
  rw [hSame]
  exact hLt

/-- One event, where the groups were live before. -/
theorem step_cases (hSettled : tracked.Settled) (event : ReconfigEvent) :
    ((tracked.step event).OnlyLive ↔ tracked.EnoughOrNoGroups event) ∧
      (tracked.EnoughOrNoGroups event → (tracked.step event).Settled) := by
  cases event with
  | run urls => exact ⟨iff_of_true hSettled.onlyLive trivial, fun _ => hSettled⟩
  | updateUrlOnline url isOnline =>
    have hNext : (tracked.step (.updateUrlOnline url isOnline)).Settled :=
      settled_withManager hSettled rfl
    exact ⟨iff_of_true hNext.onlyLive trivial, fun _ => hNext⟩
  | updateIpOnline ip isOnline =>
    have hNext : (tracked.step (.updateIpOnline ip isOnline)).Settled :=
      settled_withManager hSettled rfl
    exact ⟨iff_of_true hNext.onlyLive trivial, fun _ => hNext⟩
  | generate settings rows draws =>
    rcases Nat.lt_or_ge
      (tracked.engine.manager.buildParticipants settings rows).participants.length 2
      with hOne | hTwo
    · have hIff : tracked.EnoughOrNoGroups (.generate settings rows draws) ↔
          tracked.engine.groups = [] := or_iff_right (by omega)
      rw [hIff]
      refine ⟨onlyLive_generate_of_lt_two hSettled hOne, fun hNone => ?_⟩
      refine ⟨(onlyLive_generate_of_lt_two hSettled hOne).mpr hNone, ?_, ?_⟩
      · rw [step_generate_of_lt_two hOne]
        exact Nat.le_succ_of_le hSettled.groupsBuilt_le
      · rw [step_generate_of_lt_two hOne]
        exact hSettled.inhabited
    · have hNext : (tracked.step (.generate settings rows draws)).Settled := by
        cases hGenerate : tracked.engine.generate settings rows draws with
        | some engine => exact settled_generate hGenerate hTwo
        | none =>
          -- no outcome of the random generator, so nothing happens
          have hStep : tracked.step (.generate settings rows draws) = tracked := by
            unfold step
            dsimp only
            rw [hGenerate]
          rw [hStep]
          exact hSettled
      exact ⟨iff_of_true hNext.onlyLive (Or.inl hTwo), fun _ => hNext⟩

end TrackedEngine

/-- **Groups only refer to live participants**, exactly: after every event of a
run they do, if and only if each `generate` finds enough hosts or no groups. -/
theorem onlyLive_iff (events : List ReconfigEvent) :
    Along TrackedEngine.step (fun tracked event => (tracked.step event).OnlyLive) {} events ↔
      Along TrackedEngine.step TrackedEngine.EnoughOrNoGroups {} events := by
  have hStart : TrackedEngine.Settled {} :=
    ⟨fun _ hMem => absurd hMem List.not_mem_nil, le_rfl, fun _ hMem => absurd hMem List.not_mem_nil⟩
  refine along_iff_of_invariant hStart ?_ ?_
  · exact fun tracked event hSettled => (TrackedEngine.step_cases hSettled event).1
  · exact fun tracked event hSettled => (TrackedEngine.step_cases hSettled event).2

/-- Two hosts are grouped, then one of them is gone: the groups still point to
the participants that were deleted. -/
theorem groups_outlive_participants :
    ¬ ∀ events : List ReconfigEvent,
        Along TrackedEngine.step (fun tracked event => (tracked.step event).OnlyLive) {}
          events := by
  intro hClaim
  have hRun := hClaim [.generate {} twoRows (twoGroups 1), .generate {} (twoRows.take 1) (twoGroups 1)]
  have hDangling : ¬ ∀ ref ∈ (run TrackedEngine.step {}
      [.generate {} twoRows (twoGroups 1), .generate {} (twoRows.take 1) (twoGroups 1)]).references,
      ref ∈ (run TrackedEngine.step {}
        [.generate {} twoRows (twoGroups 1),
          .generate {} (twoRows.take 1) (twoGroups 1)]).live := by
    decide +kernel
  exact hDangling hRun.2.1

end VxlanMtd
