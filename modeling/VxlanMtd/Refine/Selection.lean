import VxlanMtd.Refine.Gateways

/-!
# Who is where

Which participants a reconfiguration puts into a group, and who stands at the
ends of the chain of gateways, from the settings and the draws.

* `membersOf` — a group takes the next participants of the order they are
  dealt in (`fillGroups_takes`);
* `firstGateway`, `lastGateway`, `nodeOf` — the ends of the chain, and the
  participant `nodeNamed` finds;
* **`generate_selects`** — a plan of these.
-/

namespace VxlanMtd

-- addresses are opaque here; unfolding them would make Lean render templates
attribute [local irreducible] networkText macText PlaceMarker.arg

/-- The order the participants are dealt in. -/
def participantOrder (settings : VMTDSettings) (draws : Draws) (size : Nat) : List Nat :=
  if settings.shouldRandomizeParticipant then draws.participants else List.range size

/-- The order the groups are filled in. -/
def groupOrder (settings : VMTDSettings) (draws : Draws) : List Nat :=
  if settings.shouldRandomizeParticipant then draws.groups else List.range draws.groupCount

/-- How many participants are dealt before it is the group's turn. -/
def dealtBefore (settings : VMTDSettings) (draws : Draws) (size g : Nat) : Nat :=
  (((groupOrder settings draws).takeWhile (· != g)).map (sizeOf draws size)).sum

/-- The members of a group. -/
def membersOf (settings : VMTDSettings) (draws : Draws) (size g : Nat) : List Nat :=
  ((participantOrder settings draws size).drop (dealtBefore settings draws size g)).take
    (sizeOf draws size g)

/-- The first gateway of the chain. -/
def firstGateway (settings : VMTDSettings) (draws : Draws) (size : Nat) : Option Nat :=
  if settings.shouldRandomizeGateway then draws.gateways.head?
  else (membersOf settings draws size 0).head?

/-- The last gateway of the chain. -/
def lastGateway (settings : VMTDSettings) (draws : Draws) (size : Nat) : Option Nat :=
  if settings.shouldRandomizeGateway then draws.gateways.getLast?
  else (membersOf settings draws size (draws.groupCount - 1)).getLast?

/-- The participant of that host name the search over the groups ends with. -/
def nodeOf (settings : VMTDSettings) (draws : Draws) (participants : List VMTDParticipant)
    (hostName : String) : Option Nat :=
  ((List.range draws.groupCount).flatMap (membersOf settings draws participants.length)).foldl
    (fun node participant =>
      if (participants[participant]?).map (·.hostName) = some hostName then some participant
      else node)
    none

/-- The piece of a concatenation that belongs to one of its parts. -/
theorem segment_flatMap {order : List Nat} {f : Nat → List Nat} {g : Nat} (hNodup : order.Nodup)
    (hg : g ∈ order) (rest : List Nat) :
    ((order.flatMap f ++ rest).drop
      ((order.takeWhile (· != g)).map fun h => (f h).length).sum).take (f g).length = f g := by
  obtain ⟨pre, suf, rfl, hPre, -, -⟩ := Chain.exists_split hNodup hg
  have hBefore : (pre ++ g :: suf).takeWhile (· != g) = pre := by
    have hNe : ∀ x ∈ pre, (x != g) = true := by
      intro x hx
      exact bne_iff_ne.mpr fun hEq => hPre (hEq ▸ hx)
    rw [List.takeWhile_append_of_pos hNe, List.takeWhile_cons_of_neg (by simp), List.append_nil]
  have hLength : (pre.map fun h => (f h).length).sum = (pre.flatMap f).length :=
    List.length_flatMap.symm
  rw [hBefore, hLength, List.flatMap_append, List.flatMap_cons, List.append_assoc,
    List.append_assoc, List.drop_left, List.take_left]

namespace VMTDEngine

variable {settings : VMTDSettings} {draws : Draws} {engine engine' : VMTDEngine}

/-- One group takes the next participants and leaves the other groups alone. -/
theorem fillGroup_takes {g : Nat} {ps rest : List Nat} (hNodup : ps.Nodup)
    (hNew : ∀ G, engine.groups[g]? = some G → ∀ p ∈ ps, p ∉ G.participants)
    (h : fillGroup settings draws g ps engine = some (rest, engine')) :
    ∃ taken, ps = taken ++ rest ∧ engine'.groups.map (·.participants) =
      (engine.groups.map (·.participants)).modify g (· ++ taken) := by
  have hNone : ∀ l : List (List Nat), l.modify g (· ++ []) = l := by
    intro l
    simp only [List.append_nil]
    exact List.modify_id g l
  induction ps generalizing engine with
  | nil =>
    rw [fillGroup] at h
    obtain ⟨G, -, h⟩ := Option.bind_eq_some_iff.mp h
    split at h
    · cases h
    · obtain ⟨rfl, rfl⟩ := Prod.mk.inj (Option.some_inj.mp h)
      exact ⟨[], rfl, (hNone _).symm⟩
  | cons p ps ih =>
    rw [fillGroup] at h
    obtain ⟨G, hG, h⟩ := Option.bind_eq_some_iff.mp h
    by_cases hRoom : G.canAddParticipant = true
    · rw [if_pos hRoom] at h
      obtain ⟨⟨G', participants⟩, hAdd, h⟩ := Option.bind_eq_some_iff.mp h
      obtain ⟨hp, hNodup⟩ := List.nodup_cons.mp hNodup
      obtain ⟨octet4, -, rfl, -⟩ :=
        VMTDGroup.addParticipant_eq_some hRoom (hNew G hG p List.mem_cons_self) hAdd
      have hgLt : g < engine.groups.length := (List.getElem?_eq_some_iff.mp hG).1
      have hFresh : ∀ G₁, (engine.groups.set g { G with
          participants := G.participants ++ [p]
          octets4 := octet4 :: G.octets4 })[g]? = some G₁ → ∀ q ∈ ps, q ∉ G₁.participants := by
        intro G₁ hG₁ q hq
        rw [List.getElem?_set_self hgLt] at hG₁
        rw [← Option.some_inj.mp hG₁, List.mem_append, List.mem_singleton]
        rintro (hIn | rfl)
        · exact hNew G hG q (List.mem_cons_of_mem p hq) hIn
        · exact hp hq
      obtain ⟨taken, rfl, hGroups⟩ := ih hNodup hFresh h
      refine ⟨p :: taken, rfl, ?_⟩
      rw [hGroups, groups_withAssignment]
      refine List.ext_getElem? fun j => ?_
      by_cases hj : j = g
      · subst hj
        have hAt : engine.groups[j] = G := (List.getElem?_eq_some_iff.mp hG).2
        simp [hAt, hgLt]
      · simp [Ne.symm hj]
    · rw [if_neg hRoom] at h
      obtain ⟨rfl, rfl⟩ := Prod.mk.inj (Option.some_inj.mp h)
      exact ⟨[], rfl, (hNone _).symm⟩

/-- The groups take the participants in their order. -/
theorem fillGroups_takes {order ps : List Nat} (hOrder : order.Nodup) (hNodup : ps.Nodup)
    (hEmpty : ∀ g ∈ order, ∀ G, engine.groups[g]? = some G → G.participants = [])
    (h : fillGroups settings draws order ps engine = some engine') :
    ∃ (takes : Nat → List Nat) (rest : List Nat), ps = order.flatMap takes ++ rest ∧
      (∀ g ∈ order, (engine'.groups.map (·.participants))[g]? =
        (engine.groups.map (·.participants))[g]?.map fun _ => takes g) ∧
      ∀ g, g ∉ order → (engine'.groups.map (·.participants))[g]? =
        (engine.groups.map (·.participants))[g]? := by
  induction order generalizing ps engine with
  | nil =>
    obtain rfl := Option.some_inj.mp h
    exact ⟨fun _ => [], ps, rfl, fun _ hg => absurd hg List.not_mem_nil, fun _ _ => rfl⟩
  | cons g order ih =>
    obtain ⟨hg, hOrder⟩ := List.nodup_cons.mp hOrder
    rw [fillGroups] at h
    obtain ⟨⟨rest, engine₁⟩, hFirst, hLater⟩ := Option.bind_eq_some_iff.mp h
    have hNew : ∀ G, engine.groups[g]? = some G → ∀ p ∈ ps, p ∉ G.participants := by
      intro G hG p _
      rw [hEmpty g List.mem_cons_self G hG]
      exact List.not_mem_nil
    obtain ⟨taken, rfl, hGroups⟩ := fillGroup_takes hNodup hNew hFirst
    have hOther : ∀ g', g' ≠ g → (engine₁.groups.map (·.participants))[g']? =
        (engine.groups.map (·.participants))[g']? := by
      intro g' hne
      rw [hGroups, List.getElem?_modify_ne _ _ hne.symm]
    have hEmpty₁ : ∀ g' ∈ order, ∀ G, engine₁.groups[g']? = some G → G.participants = [] := by
      intro g' hg' G hG
      have hSame := hOther g' fun hEq => hg (hEq ▸ hg')
      rw [List.getElem?_map, hG, Option.map_some, List.getElem?_map] at hSame
      obtain ⟨G₀, hG₀, hEq⟩ := Option.map_eq_some_iff.mp hSame.symm
      rw [← hEq, hEmpty g' (List.mem_cons_of_mem g hg') G₀ hG₀]
    obtain ⟨takes, rest', rfl, hIn, hOut⟩ := ih hOrder (List.nodup_append.mp hNodup).2.1 hEmpty₁ hLater
    have hTakes : ∀ g' ∈ order, Function.update takes g taken g' = takes g' := fun g' hg' =>
      Function.update_of_ne (fun hEq => hg (by rwa [← hEq])) _ _
    refine ⟨Function.update takes g taken, rest', ?_, fun g' hg' => ?_, fun g' hg' => ?_⟩
    · rw [List.flatMap_cons, Function.update_self, List.flatMap_congr hTakes, List.append_assoc]
    · rcases List.mem_cons.mp hg' with rfl | hg'
      · rw [hOut g' hg, hGroups, Function.update_self, List.getElem?_modify_eq]
        cases hG : engine.groups[g']? with
        | none => simp [hG]
        | some G => simp [hG, hEmpty g' List.mem_cons_self G hG]
      · rw [hIn g' hg', hTakes g' hg', hOther g' fun hEq => hg (hEq ▸ hg')]
    · rw [hOut g' fun hIn => hg' (List.mem_cons_of_mem g hIn),
        hOther g' fun hEq => hg' (hEq ▸ List.mem_cons_self)]

/-- An order is drawn, or the given one. -/
theorem shuffleIf_eq {shouldRandomize : Bool} {items shuffled result : List Nat}
    (h : shuffleIf shouldRandomize items shuffled = some result) :
    result = if shouldRandomize then shuffled else items := by
  unfold shuffleIf at h
  cases shouldRandomize with
  | false => exact (Option.some_inj.mp h).symm
  | true =>
    rw [if_pos rfl] at h
    split at h
    · exact (Option.some_inj.mp h).symm
    · cases h

/-- **The members of the groups** that `createGroups` leaves behind. -/
theorem createGroups_members {L : Layout engine.participants.length}
    (hL : L.Follows settings draws)
    (hGroups : engine'.groups = (List.range L.groupCount).map L.group)
    (h : createGroups settings draws engine = some engine') {g : Nat} (hg : g < L.groupCount) :
    L.members g = membersOf settings draws engine.participants.length g := by
  obtain ⟨-, groups, vlanIds, octets3, participants, order, hLoop, hParticipants, hOrder, h⟩ :=
    createGroups_steps h
  obtain ⟨rfl, -⟩ := createGroups_loop hLoop
  have hParticipantsPerm := shuffleIf_perm hParticipants
  have hOrderPerm := shuffleIf_perm hOrder
  have hOrderNodup := hOrderPerm.nodup_iff.mpr List.nodup_range
  have hEmpty : ∀ g ∈ order, ∀ G,
      ((List.range draws.groupCount).map
        (emptyGroup settings draws engine.participants.length))[g]? = some G →
          G.participants = [] := by
    intro g _ G hG
    obtain ⟨i, -, rfl⟩ := List.mem_map.mp (List.mem_of_getElem? hG)
    rfl
  obtain ⟨takes, rest, hDealt, hIn, -⟩ := fillGroups_takes hOrderNodup
    (hParticipantsPerm.nodup_iff.mpr List.nodup_range) hEmpty h
  have hCount : L.groupCount = draws.groupCount := hL.groupCount_eq
  -- the members are what the group takes
  have hTakes : ∀ g ∈ order, L.members g = takes g := by
    intro g hgOrder
    have hgLt : g < draws.groupCount := List.mem_range.mp (hOrderPerm.mem_iff.mp hgOrder)
    have hAt := hIn g hgOrder
    rw [hGroups, hCount, List.map_map, List.map_map, Indexed.getElem?_map_range _ hgLt,
      Indexed.getElem?_map_range _ hgLt] at hAt
    exact Option.some_inj.mp hAt
  have hgOrder : g ∈ order := hOrderPerm.mem_iff.mpr (List.mem_range.mpr (hCount ▸ hg))
  have hSizes : ∀ g ∈ order, (takes g).length = sizeOf draws engine.participants.length g := by
    intro g hgOrder
    rw [← hTakes g hgOrder]
    exact hL.length_members g (hCount ▸ List.mem_range.mp (hOrderPerm.mem_iff.mp hgOrder))
  have hBefore : ((order.takeWhile (· != g)).map fun h => (takes h).length).sum =
      dealtBefore settings draws engine.participants.length g := by
    rw [dealtBefore, groupOrder, ← shuffleIf_eq hOrder]
    refine congrArg List.sum (List.map_congr_left fun h hh => ?_)
    exact hSizes h ((List.takeWhile_sublist _).subset hh)
  have hSegment := @segment_flatMap order takes g hOrderNodup hgOrder rest
  rw [hBefore, hSizes g hgOrder, ← hDealt, shuffleIf_eq hParticipants] at hSegment
  rw [hTakes g hgOrder, ← hSegment]
  rfl

/-- The search for a node, on the members of the groups. -/
theorem nodeNamed_eq {manager : VMTDDeviceManager} {L : Layout manager.participants.length}
    (hManager : engine.manager =
      { manager with participants := manager.participants.mapIdx L.participant })
    (hGroups : engine.groups = (List.range L.groupCount).map L.group)
    (hCount : L.groupCount = draws.groupCount)
    (hMembers : ∀ g < L.groupCount,
      L.members g = membersOf settings draws manager.participants.length g)
    (hostName : String) :
    engine.nodeNamed hostName = nodeOf settings draws manager.participants hostName := by
  have hNames : ∀ p : Nat, (engine.participants[p]?).map VMTDParticipant.hostName =
      (manager.participants[p]?).map VMTDParticipant.hostName := by
    intro p
    rw [VMTDEngine.participants, hManager, List.getElem?_mapIdx, Option.map_map]
    rfl
  have hList : engine.groups.flatMap (·.participants) = (List.range draws.groupCount).flatMap
      (membersOf settings draws manager.participants.length) := by
    rw [hGroups, List.flatMap_map, ← hCount]
    exact List.flatMap_congr fun g hg => hMembers g (List.mem_range.mp hg)
  unfold nodeNamed nodeOf
  rw [hList]
  simp only [hNames]

end VMTDEngine

/-- How the members, the ends of the chain and the two nodes of a plan depend
on the settings and the draws. -/
structure Plan.Selects {manager : VMTDDeviceManager} (π : Plan manager.participants.length)
    (settings : VMTDSettings) (draws : Draws) : Prop where
  follows : π.Follows settings draws
  members_eq : ∀ g < π.groupCount,
    π.members g = membersOf settings draws manager.participants.length g
  node1_eq : π.node1 = nodeOf settings draws manager.participants "Node-1"
  node10_eq : π.node10 = nodeOf settings draws manager.participants "Node-10"
  first_eq : π.chain.head?.map π.gateway =
    firstGateway settings draws manager.participants.length
  last_eq : π.chain.getLast?.map π.gateway =
    lastGateway settings draws manager.participants.length

/-- **`generate` leaves behind a plan** whose groups, chain and nodes are those
of the settings and the draws. -/
theorem generate_selects {settings : VMTDSettings} {rows : List DeviceRow} {draws : Draws}
    {engine engine' : VMTDEngine}
    (h : VMTDEngine.generate settings rows draws engine = some engine')
    (hTwo : 2 ≤ (engine.manager.buildParticipants settings rows).participants.length) :
    ∃ π : Plan (engine.manager.buildParticipants settings rows).participants.length,
      π.Selects settings draws ∧ engine' = π.engine := by
  obtain ⟨engine₁, hGroups, hGateways⟩ := generate_steps h hTwo
  have hBase : ∀ b ∈ (engine.manager.buildParticipants settings rows).participants,
      b.interface1 = {} ∧ b.interface2 = {} ∧ b.role = .endpoint :=
    VMTDDeviceManager.buildParticipants_interfaces
  obtain ⟨L, hL, hManager, hGroupsEq⟩ :=
    @createGroups_refines settings draws
      { engine with manager := engine.manager.buildParticipants settings rows } engine₁
      (fun b hb => (hBase b hb).1) hTwo hGroups
  have hMembers : ∀ g < L.groupCount, L.members g = membersOf settings draws
      (engine.manager.buildParticipants settings rows).participants.length g :=
    fun g hg => VMTDEngine.createGroups_members hL hGroupsEq hGroups hg
  obtain ⟨π, ⟨rfl, hFollows, hNode1, hNode10, rfl⟩, hGateway, hChain⟩ :=
    createGateways_selects L hL (fun b hb => (hBase b hb).2.1) hManager hGroupsEq
      hGateways
  have hTwoGroups := π.two_le_groupCount
  -- no group is empty
  have hPos : ∀ g < π.groupCount, 0 < (π.members g).length := fun g hg =>
    List.length_pos_of_mem (Plan.gateway_mem_members hg)
  have hAt : ∀ g (i : Nat), i < (π.members g).length →
      some ((π.members g)[i]?.getD 0) = (π.members g)[i]? := by
    intro g i hi
    rw [List.getElem?_eq_getElem hi]
    rfl
  refine ⟨π, ⟨hFollows, hMembers, ?_, ?_, ?_, ?_⟩, rfl⟩
  · rw [hNode1, VMTDEngine.nodeNamed_eq hManager hGroupsEq hL.groupCount_eq hMembers]
  · rw [hNode10, VMTDEngine.nodeNamed_eq hManager hGroupsEq hL.groupCount_eq hMembers]
  · rw [← List.head?_map, VMTDEngine.shuffleIf_eq hChain, firstGateway]
    cases hRandom : settings.shouldRandomizeGateway with
    | true => rfl
    | false =>
      rw [if_neg Bool.false_ne_true, if_neg Bool.false_ne_true, List.head?_map, List.head?_range,
        if_neg (by omega), Option.map_some, ← hMembers 0 (by omega), hGateway, gatewayOf,
        gatewayIndexOf, hRandom, if_neg Bool.false_ne_true, if_neg (by omega)]
      rw [List.head?_eq_getElem?]
      exact hAt _ _ (hPos 0 (by omega))
  · rw [← List.getLast?_map, VMTDEngine.shuffleIf_eq hChain, lastGateway]
    cases hRandom : settings.shouldRandomizeGateway with
    | true => rfl
    | false =>
      rw [if_neg Bool.false_ne_true, if_neg Bool.false_ne_true, List.getLast?_map,
        List.getLast?_range, if_neg (by omega), Option.map_some, ← hL.groupCount_eq,
        ← hMembers _ (by omega), hGateway, gatewayOf, gatewayIndexOf, hRandom,
        if_neg Bool.false_ne_true, if_pos rfl]
      rw [List.getLast?_eq_getElem?]
      exact hAt _ _ (Nat.sub_lt (hPos _ (by omega)) Nat.one_pos)

end VxlanMtd
