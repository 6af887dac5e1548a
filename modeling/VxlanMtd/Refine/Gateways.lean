import VxlanMtd.Refine.Groups

/-!
# createGateways refines a plan

`createGateways_refines`: from a layout, `createGateways` makes a `Plan`.

Each of its loops is followed by a step lemma over `Plan.state`, the engine a
plan describes once a part of the chain has been dealt with, and a run lemma by
induction on the part that is left. The forward loop runs down the chain, the
back loop up.
-/

namespace VxlanMtd

open VMTDEngine

variable {settings : VMTDSettings} {draws : Draws}

-- addresses are opaque here; unfolding them would make Lean render templates
attribute [local irreducible] networkText macText PlaceMarker.arg

-- ---------------------------------------------------------------------------
-- Picking the gateways
-- ---------------------------------------------------------------------------

/-- The place of the gateway in group `g` of `k` groups. -/
def gatewayIndexOf (settings : VMTDSettings) (draws : Draws) (k g size : Nat) : Nat :=
  if settings.shouldRandomizeGateway then draws.gateway g % size
  else if g = k - 1 then size - 1
  else 0

/-- The gateway of group `g`. -/
def gatewayOf {n : Nat} (L : Layout n) (settings : VMTDSettings) (draws : Draws) (g : Nat) : Nat :=
  ((L.members g)[gatewayIndexOf settings draws L.groupCount g (L.members g).length]?).getD 0

/-- A seated participant, with the role of a gateway if `isGateway`. -/
def withRole {n : Nat} (L : Layout n) (isGateway : Nat → Prop) [DecidablePred isGateway]
    (p : Nat) (base : VMTDParticipant) : VMTDParticipant :=
  { L.participant p base with role := if isGateway p then .gateway else .endpoint }

/-- One pass picks a member of the group. -/
theorem selectGateway_eq_some {n i : Nat} {L : Layout n} {gateways gateways' : List Nat}
    {engine engine' : VMTDEngine} (hi : i < L.groupCount)
    (hGroups : engine.groups = (List.range L.groupCount).map L.group)
    (h : selectGateway settings draws (gateways, engine) i = some (gateways', engine')) :
    gateways' = gateways ++ [gatewayOf L settings draws i] ∧
    gatewayOf L settings draws i ∈ L.members i ∧
    engine' = engine.modifyParticipant (gatewayOf L settings draws i) fun p =>
      { p with role := .gateway } := by
  unfold selectGateway at h
  obtain ⟨group, hGroup, h⟩ := Option.bind_eq_some_iff.mp h
  rw [hGroups, Indexed.getElem?_map_range _ hi] at hGroup
  obtain rfl := Option.some_injective _ hGroup
  obtain ⟨gateway, hGateway, h⟩ := Option.bind_eq_some_iff.mp h
  have hCount : engine.groups.length = L.groupCount := by simp [hGroups]
  rw [hCount] at hGateway
  have hEq : gatewayOf L settings draws i = gateway := by
    unfold gatewayOf
    change (L.members i)[gatewayIndexOf settings draws L.groupCount i _]? = _ at hGateway
    rw [show (L.group i).participants = L.members i from rfl] at hGateway
    rw [hGateway, Option.getD_some]
  rw [Option.some_inj, Prod.mk.injEq] at h
  subst hEq
  exact ⟨h.1.symm, List.mem_of_getElem? hGateway, h.2.symm⟩

/-- **The gateways the loop picks.** -/
theorem selectGateways_loop {n m : Nat} {L : Layout n} {gateways : List Nat}
    {engine engine' : VMTDEngine} {base : List VMTDParticipant} (hm : m ≤ L.groupCount)
    (hParticipants : engine.participants = base.mapIdx L.participant)
    (hGroups : engine.groups = (List.range L.groupCount).map L.group)
    (h : (List.range m).foldlM (selectGateway settings draws) ([], engine) =
      some (gateways, engine')) :
    gateways = (List.range m).map (gatewayOf L settings draws) ∧
    (∀ g < m, gatewayOf L settings draws g ∈ L.members g) ∧
    engine' = engine.withAssignment
      (base.mapIdx (withRole L fun p => p ∈ gateways)) engine.groups := by
  induction m generalizing gateways engine' with
  | zero =>
    obtain ⟨rfl, hEq⟩ : gateways = [] ∧ engine' = engine := by simpa [eq_comm] using h
    refine ⟨rfl, by simp, ?_⟩
    have hSame : base.mapIdx (withRole L fun p => p ∈ ([] : List Nat)) = engine.participants := by
      rw [hParticipants]
      exact Indexed.mapIdx_congr fun p b _ => by simp [withRole, Layout.participant]
    rw [hEq, hSame]
    rfl
  | succ m ih =>
    rw [List.range_succ, List.foldlM_append] at h
    obtain ⟨⟨gateways₀, engine₀⟩, hFirst, hLast⟩ := Option.bind_eq_some_iff.mp h
    obtain ⟨rfl, hMem, rfl⟩ := ih (by omega) hFirst
    rw [List.foldlM_cons] at hLast
    obtain ⟨_, hPass, hEnd⟩ := Option.bind_eq_some_iff.mp hLast
    obtain rfl := Option.some_injective _ hEnd
    obtain ⟨rfl, hIn, rfl⟩ := selectGateway_eq_some (show m < L.groupCount by omega)
      ((groups_withAssignment _ _ _).trans hGroups) hPass
    refine ⟨by simp [List.range_succ], ?_, ?_⟩
    · intro g hg
      rcases Nat.lt_succ_iff_lt_or_eq.mp hg with hg | rfl
      · exact hMem g hg
      · exact hIn
    · unfold modifyParticipant
      rw [participants_withAssignment, Indexed.modify_mapIdx, withAssignment_withAssignment]
      congr 1
      refine Indexed.mapIdx_congr fun p b _ => ?_
      by_cases hp : p = gatewayOf L settings draws m
      · simp [hp, withRole]
      · simp [hp, withRole]

-- ---------------------------------------------------------------------------
-- States of a plan
-- ---------------------------------------------------------------------------

section State

variable {manager : VMTDDeviceManager} {π : Plan manager.participants.length}
  {linked forward back : List Nat} {g h p : Nat} {b : VMTDParticipant}

theorem participants_state : (π.state linked forward back).participants =
    manager.participants.mapIdx (π.participantAt linked forward back) := rfl

theorem exists_base (hp : p < manager.participants.length) :
    ∃ b, manager.participants[p]? = some b :=
  ⟨_, List.getElem?_eq_getElem hp⟩

/-- A participant of a state of the loops. -/
theorem getElem?_state (hb : manager.participants[p]? = some b) :
    (π.state linked forward back).participants[p]? =
      some (π.participantAt linked forward back p b) := by
  rw [participants_state, List.getElem?_mapIdx, hb]
  rfl

/-- A group of such a state. -/
theorem groupAt_state (hg : g < π.groupCount) :
    (π.state linked forward back).groupAt (g : Int) = some (π.groupAt linked g) := by
  unfold VMTDEngine.groupAt
  rw [if_pos (by omega)]
  exact Indexed.getElem?_map_range _ hg

/-- The gateway of the next group, seen from the group. -/
theorem nextGateway_eq_some (hg : g < π.groupCount) (hp : p < manager.participants.length) :
    π.nextGateway g = some p ↔
      p = π.gateway (π.home p) ∧ (Chain.before π.chain (π.home p)).head? = some g := by
  have hHome := π.home_lt p hp
  rw [Plan.nextGateway, Option.map_eq_some_iff]
  constructor
  · rintro ⟨h, hHead, rfl⟩
    have hh : h < π.groupCount := (Plan.mem_after hg (List.mem_of_mem_head? hHead)).1
    rw [π.home_gateway h hh]
    exact ⟨rfl, (Chain.after_head_iff Plan.chain_nodup (Plan.mem_chain.mpr hg)
      (Plan.mem_chain.mpr hh)).mp hHead⟩
  · rintro ⟨hGateway, hHead⟩
    refine ⟨π.home p, ?_, hGateway.symm⟩
    exact (Chain.after_head_iff Plan.chain_nodup (Plan.mem_chain.mpr hg)
      (Plan.mem_chain.mpr hHome)).mpr hHead

end State

-- ---------------------------------------------------------------------------
-- Linking the chain
-- ---------------------------------------------------------------------------

section Linking

variable {manager : VMTDDeviceManager} {π : Plan manager.participants.length}
  {pre : List Nat} {g h p : Nat} {b : VMTDParticipant}

/-- Linking group `g` changes its other members and the next gateway. -/
theorem participantAt_link (hg : g < π.groupCount) (hNew : g ∉ pre)
    (hp : p < manager.participants.length) :
    π.participantAt (pre ++ [g]) [] [] p b =
      let q := π.participantAt pre [] [] p b
      { q with
        interface1 :=
          if p ∈ π.members g ∧ p ≠ π.gateway g then
            q.interface1.addRoute (networkText 0 0) 16 (π.gatewayIp g) 100
          else q.interface1
        interface2 :=
          if π.nextGateway g = some p then π.interface g (π.link4 g) else q.interface2 } := by
  have hMember : p ∈ π.members g ↔ π.home p = g := by
    rw [Layout.mem_members hg]
    exact and_iff_right hp
  have hFirst : π.interface1At (pre ++ [g]) [] p =
      if p ∈ π.members g ∧ p ≠ π.gateway g then
        (π.interface1At pre [] p).addRoute (networkText 0 0) 16 (π.gatewayIp g) 100
      else π.interface1At pre [] p := by
    unfold Plan.interface1At
    simp only [hMember]
    by_cases hHome : π.home p = g
    · by_cases hGateway : p = π.gateway g
      · simp [hHome, ← hGateway]
      · simp [hHome, hGateway, hNew, VMTDInterface.addRoute, Plan.defaultRoute]
    · simp [hHome]
  have hSecond : π.interface2At (pre ++ [g]) [] p =
      if π.nextGateway g = some p then π.interface g (π.link4 g)
      else π.interface2At pre [] p := by
    unfold Plan.interface2At
    simp only [nextGateway_eq_some hg hp]
    by_cases hGateway : p = π.gateway (π.home p)
    · rw [if_pos hGateway, if_pos hGateway]
      cases hHead : (Chain.before π.chain (π.home p)).head? with
      | none => simp
      | some h =>
        by_cases hhg : h = g
        · subst hhg
          simp [← hGateway, Layout.interface]
        · simp [hhg]
    · simp [hGateway]
  unfold Plan.participantAt
  rw [hFirst, hSecond]

theorem groupAt_of_notMem (hNew : g ∉ pre) : π.groupAt pre g = π.toLayout.group g := by
  rw [Plan.groupAt, if_neg hNew]

/-- A participant after `setInternalGateway` in group `g`: the other members have
their default route. -/
def internalAt (π : Plan manager.participants.length) (pre : List Nat) (g p : Nat)
    (b : VMTDParticipant) : VMTDParticipant :=
  if p ∈ π.members g ∧ p ≠ π.gateway g then
    { π.participantAt pre [] [] p b with
      interface1 := (π.interface1At pre [] p).addRoute (networkText 0 0) 16 (π.gatewayIp g) 100 }
  else π.participantAt pre [] [] p b

/-- The internal gateway of a group is recorded. -/
theorem setInternalGateway_state (hg : g < π.groupCount) :
    (π.toLayout.group g).setInternalGateway (π.gateway g) (π.state pre [] []).participants =
      some ({ π.toLayout.group g with internalGateway := some (π.gateway g) },
        manager.participants.mapIdx (internalAt π pre g)) := by
  obtain ⟨b, hb⟩ := exists_base (π.gateway_lt g hg)
  have hIndex : (π.participantAt pre [] [] (π.gateway g) b).interface1.groupIndex =
      (π.toLayout.group g).index :=
    congrArg _ (π.home_gateway g hg)
  have hMembers : (π.toLayout.group g).participants = π.members g := rfl
  unfold VMTDGroup.setInternalGateway
  rw [getElem?_state hb, Option.bind_eq_bind, Option.bind_some, if_neg (not_not.mpr hIndex),
    hMembers, participants_state, Indexed.foldl_modify_mapIdx _ _ (Layout.members_nodup hg)]
  rfl

/-- The gateway of another group is left alone. -/
theorem getElem?_internalAt (hg : g < π.groupCount) (hh : h < π.groupCount) (hne : h ≠ g)
    (hb : manager.participants[π.gateway h]? = some b) :
    (manager.participants.mapIdx (internalAt π pre g))[π.gateway h]? =
      some (π.participantAt pre [] [] (π.gateway h) b) := by
  rw [List.getElem?_mapIdx, hb, Option.map_some, internalAt,
    if_neg fun hIn => Plan.gateway_notMem_members hg hh hne hIn.1]

/-- Without a group after `g`, these are the participants of the next state. -/
theorem mapIdx_internalAt_last (hg : g < π.groupCount) (hNew : g ∉ pre)
    (hNone : π.nextGateway g = none) :
    manager.participants.mapIdx (internalAt π pre g) =
      manager.participants.mapIdx (π.participantAt (pre ++ [g]) [] []) := by
  refine Indexed.mapIdx_congr fun p b hpb => ?_
  have hp := (List.getElem?_eq_some_iff.mp hpb).1
  rw [participantAt_link hg hNew hp, hNone, internalAt]
  split <;> rfl

/-- Otherwise the next gateway gets its second interface. -/
theorem modify_mapIdx_internalAt (hg : g < π.groupCount) (hNew : g ∉ pre) (hh : h < π.groupCount)
    (hne : h ≠ g) (hNext : π.nextGateway g = some (π.gateway h)) :
    (manager.participants.mapIdx (internalAt π pre g)).modify (π.gateway h) (fun p =>
        { p with interface2 := (π.toLayout.group g).assign (π.link4 g) p.interface2 }) =
      manager.participants.mapIdx (π.participantAt (pre ++ [g]) [] []) := by
  rw [Indexed.modify_mapIdx]
  refine Indexed.mapIdx_congr fun p b hpb => ?_
  have hp := (List.getElem?_eq_some_iff.mp hpb).1
  rw [participantAt_link hg hNew hp, hNext, internalAt]
  by_cases hpg : p = π.gateway h
  · -- no member of the group, and without a second interface so far
    subst hpg
    have hNotMember := Plan.gateway_notMem_members hg hh hne
    have hHead := (nextGateway_eq_some hg hp).mp hNext
    have hEmpty : π.interface2At pre [] (π.gateway h) = {} := by
      rw [Plan.interface2At, if_pos hHead.1, hHead.2]
      exact if_neg hNew
    simp only [hNotMember, false_and, if_false, if_true]
    rw [show (π.participantAt pre [] [] (π.gateway h) b).interface2 =
      π.interface2At pre [] (π.gateway h) from rfl, hEmpty]
    rfl
  · have hOther : ¬some (π.gateway h) = some p := fun hEq => hpg (Option.some_injective _ hEq).symm
    rw [if_neg hpg]
    simp only [hOther, if_false]
    split <;> rfl

/-- The next state differs in the participants `participantAt_link` describes
and in group `g`. -/
theorem state_link {ps : List VMTDParticipant}
    (hps : ps = manager.participants.mapIdx (π.participantAt (pre ++ [g]) [] [])) :
    (π.state pre [] []).withAssignment ps
      ((π.state pre [] []).groups.set g (π.groupAt (pre ++ [g]) g)) =
      π.state (pre ++ [g]) [] [] := by
  have hGroups : (π.state pre [] []).groups.set g (π.groupAt (pre ++ [g]) g) =
      (π.state (pre ++ [g]) [] []).groups := by
    change ((List.range π.groupCount).map (π.groupAt pre)).set g _ = List.map _ _
    rw [Indexed.set_map_range]
    refine Indexed.map_range_congr fun g' _ => ?_
    by_cases hgg : g' = g
    · rw [hgg, Function.update_self]
    · rw [Function.update_of_ne hgg]
      simp [Plan.groupAt, hgg]
  rw [hGroups, hps]
  rfl

/-- **Step of linking.** -/
theorem linkGateways_step {rest : List Nat} {engine' : VMTDEngine}
    (hChain : π.chain = pre ++ g :: rest)
    (hLink : π.link4 g =
      if settings.shouldRandomizeGateway then draws.link4 g else (π.members g).length + 1)
    (h : linkGateways settings draws ((g :: rest).map π.gateway) (π.state pre [] []) =
      some engine') :
    linkGateways settings draws (rest.map π.gateway) (π.state (pre ++ [g]) [] []) = some engine' ∧
    (rest ≠ [] → settings.shouldRandomizeGateway = true →
      (1 ≤ π.link4 g ∧ π.link4 g < 253) ∧ π.link4 g ∉ (π.toLayout.group g).octets4) := by
  have hg : g < π.groupCount := Plan.mem_chain.mp (by simp [hChain])
  obtain ⟨hNew, hNotRest⟩ := Chain.notMem_of_split π.chain_nodup hChain
  have hAfter := Chain.after_eq_of_split π.chain_nodup hChain
  obtain ⟨b, hb⟩ := exists_base (π.gateway_lt g hg)
  have hIndex : (π.participantAt pre [] [] (π.gateway g) b).interface1.groupIndex = (g : Int) :=
    congrArg _ (π.home_gateway g hg)
  rw [List.map_cons, linkGateways] at h
  simp only [getElem?_state hb, Option.bind_eq_bind, Option.bind_some, hIndex, groupAt_state hg,
    groupAt_of_notMem hNew, setInternalGateway_state hg, Int.toNat_natCast] at h
  cases rest with
  | nil =>
    rw [List.map_nil] at h ⊢
    obtain rfl := Option.some_injective _ h
    refine ⟨?_, fun hne => absurd rfl hne⟩
    have hNone : π.nextGateway g = none := by rw [Plan.nextGateway, hAfter]; rfl
    rw [linkGateways, Option.some_inj]
    have hGroup : π.groupAt (pre ++ [g]) g =
        { π.toLayout.group g with internalGateway := some (π.gateway g) } := by
      rw [Plan.groupAt, if_pos (by simp), hNone]
      simp [Layout.group]
    rw [← hGroup]
    exact (state_link (mapIdx_internalAt_last hg hNew hNone)).symm
  | cons h' rest =>
    have hh : h' < π.groupCount := Plan.mem_chain.mp (by simp [hChain])
    have hNext : π.nextGateway g = some (π.gateway h') := by rw [Plan.nextGateway, hAfter]; rfl
    have hne : h' ≠ g := by
      rintro rfl
      exact hNotRest List.mem_cons_self
    obtain ⟨b', hb'⟩ := exists_base (π.gateway_lt h' hh)
    rw [List.map_cons] at h ⊢
    obtain ⟨⟨group, participants⟩, hExternal, h⟩ := Option.bind_eq_some_iff.mp h
    have hOther : (π.participantAt pre [] [] (π.gateway h') b').interface1.groupIndex ≠
        (g : Int) := by
      rw [show (π.participantAt pre [] [] (π.gateway h') b').interface1.groupIndex =
        (π.home (π.gateway h') : Int) from rfl, π.home_gateway h' hh]
      exact_mod_cast hne
    obtain ⟨octet4, hOctet, rfl, rfl⟩ := VMTDGroup.setExternalGateway_eq_some
      (getElem?_internalAt hg hh hne hb') hOther hExternal
    obtain ⟨hOctetEq, hFresh⟩ := drawIf_eq_some hOctet
    replace hOctetEq : octet4 = π.link4 g := hOctetEq.trans hLink.symm
    subst hOctetEq
    refine ⟨?_, fun _ hR => ⟨(hFresh hR).1.range (by decide), (hFresh hR).2⟩⟩
    have hGroup : π.groupAt (pre ++ [g]) g =
        { π.toLayout.group g with
          participants := (π.toLayout.group g).participants ++ [π.gateway h']
          octets4 := π.link4 g :: (π.toLayout.group g).octets4
          internalGateway := some (π.gateway g)
          externalGateway := some (π.gateway h') } := by
      rw [Plan.groupAt, if_pos (by simp), hNext]
      rfl
    have hState := state_link (modify_mapIdx_internalAt hg hNew hh hne hNext)
    rw [hGroup] at hState
    rw [← hState]
    exact h

/-- **Run of linking.** The loop ends with every group linked, and each drawn
octet of a link is in range and new in its group. -/
theorem linkGateways_run {suf : List Nat} {engine' : VMTDEngine} (hChain : π.chain = pre ++ suf)
    (hLink : ∀ g < π.groupCount, π.link4 g =
      if settings.shouldRandomizeGateway then draws.link4 g else (π.members g).length + 1)
    (h : linkGateways settings draws (suf.map π.gateway) (π.state pre [] []) = some engine') :
    engine' = π.state π.chain [] [] ∧
    (settings.shouldRandomizeGateway = true → ∀ g ∈ suf, Chain.after π.chain g ≠ [] →
      (1 ≤ π.link4 g ∧ π.link4 g < 253) ∧ π.link4 g ∉ (π.toLayout.group g).octets4) := by
  induction suf generalizing pre with
  | nil =>
    obtain rfl := Option.some_injective _ h
    rw [List.append_nil] at hChain
    exact ⟨by rw [hChain], by simp⟩
  | cons g rest ih =>
    have hg : g < π.groupCount := Plan.mem_chain.mp (by simp [hChain])
    have hAfter := Chain.after_eq_of_split π.chain_nodup hChain
    obtain ⟨hRest, hFresh⟩ := linkGateways_step hChain (hLink g hg) h
    obtain ⟨hEnd, hFreshRest⟩ := ih (by rw [hChain, List.append_cons]) hRest
    refine ⟨hEnd, fun hR g' hg' hNe => ?_⟩
    rcases List.mem_cons.mp hg' with rfl | hg'
    · exact hFresh (hAfter ▸ hNe) hR
    · exact hFreshRest hR g' hg' hNe

end Linking

-- ---------------------------------------------------------------------------
-- Routing along the chain
-- ---------------------------------------------------------------------------

section Routing

/-- An engine with more routes on a participant's first interface. -/
def addRoutes1 (engine : VMTDEngine) (p : Nat) (routes : List VMTDRoute) : VMTDEngine :=
  engine.modifyParticipant p fun q =>
    { q with interface1 := { q.interface1 with routes := q.interface1.routes ++ routes } }

/-- An engine with more routes on a participant's second interface. -/
def addRoutes2 (engine : VMTDEngine) (p : Nat) (routes : List VMTDRoute) : VMTDEngine :=
  engine.modifyParticipant p fun q =>
    { q with interface2 := { q.interface2 with routes := q.interface2.routes ++ routes } }

variable {engine : VMTDEngine} {p q : Nat} {routes routes' : List VMTDRoute}

theorem modifyParticipant_modifyParticipant (f f' : VMTDParticipant → VMTDParticipant) :
    (engine.modifyParticipant p f).modifyParticipant p f' =
      engine.modifyParticipant p (f' ∘ f) := by
  unfold modifyParticipant
  rw [participants_withAssignment, groups_withAssignment, List.modify_modify_eq,
    withAssignment_withAssignment]

/-- Routes that are added later come later. -/
theorem addRoutes1_addRoutes1 :
    addRoutes1 (addRoutes1 engine p routes) p routes' = addRoutes1 engine p (routes ++ routes') := by
  unfold addRoutes1
  rw [modifyParticipant_modifyParticipant]
  simp only [Function.comp_def, List.append_assoc]

theorem addRoutes2_addRoutes2 :
    addRoutes2 (addRoutes2 engine p routes) p routes' = addRoutes2 engine p (routes ++ routes') := by
  unfold addRoutes2
  rw [modifyParticipant_modifyParticipant]
  simp only [Function.comp_def, List.append_assoc]

/-- Routes do not change where a gateway belongs. -/
theorem gatewayGroup_modifyParticipant {f : VMTDParticipant → VMTDParticipant}
    (hf : ∀ b, (f b).interface1.groupIndex = b.interface1.groupIndex) :
    (engine.modifyParticipant p f).gatewayGroup q = engine.gatewayGroup q := by
  have hGroupAt : ∀ i, (engine.modifyParticipant p f).groupAt i = engine.groupAt i := fun _ => rfl
  have hIndex : ((engine.modifyParticipant p f).participants[q]?).map
      (·.interface1.groupIndex) = (engine.participants[q]?).map (·.interface1.groupIndex) := by
    change ((engine.participants.modify p f)[q]?).map _ = _
    rw [List.getElem?_modify]
    cases engine.participants[q]? with
    | none => rfl
    | some b => by_cases hpq : p = q <;> simp [hpq, hf]
  unfold gatewayGroup
  cases h₁ : engine.participants[q]? with
  | none =>
    rw [h₁, Option.map_none, Option.map_eq_none_iff] at hIndex
    rw [hIndex]
    rfl
  | some b =>
    rw [h₁, Option.map_some, Option.map_eq_some_iff] at hIndex
    obtain ⟨b', hb', hEq⟩ := hIndex
    rw [hb']
    simp [hGroupAt, hEq]

theorem modifyParticipant_id : (engine.modifyParticipant p fun b => b) = engine := by
  unfold modifyParticipant
  rw [show (fun b : VMTDParticipant => b) = id from rfl, List.modify_id]
  rfl

@[simp] theorem addRoutes1_nil : addRoutes1 engine p [] = engine := by
  unfold addRoutes1
  simp only [List.append_nil]
  exact modifyParticipant_id

@[simp] theorem addRoutes2_nil : addRoutes2 engine p [] = engine := by
  unfold addRoutes2
  simp only [List.append_nil]
  exact modifyParticipant_id

variable {manager : VMTDDeviceManager} {π : Plan manager.participants.length}
  {linked forward back pre rest : List Nat} {g h : Nat}

/-- The group of a gateway, in every state of the loops. -/
theorem gatewayGroup_state (hg : g < π.groupCount) :
    (π.state linked forward back).gatewayGroup (π.gateway g) = some (π.groupAt linked g) := by
  obtain ⟨b, hb⟩ := exists_base (π.gateway_lt g hg)
  have hIndex : (π.participantAt linked forward back (π.gateway g) b).interface1.groupIndex =
      (g : Int) :=
    congrArg _ (π.home_gateway g hg)
  unfold gatewayGroup
  rw [getElem?_state hb, Option.bind_eq_bind, Option.bind_some, hIndex, groupAt_state hg]

@[simp] theorem network_groupAt : (π.groupAt linked g).network = π.network g := by
  unfold Plan.groupAt
  split <;> rfl

@[simp] theorem mask_groupAt : (π.groupAt linked g).mask = 24 := by
  unfold Plan.groupAt
  split <;> rfl

/-- The address of a link, read off the gateway that holds it. -/
theorem linkIp_eq {p : Nat} {b : VMTDParticipant} (hb : manager.participants[p]? = some b)
    (hg : g ∈ linked) (hgk : g < π.groupCount) (hNext : π.nextGateway g = some p) :
    (π.participantAt linked forward back p b).interface2.ip = π.linkIp g := by
  obtain ⟨hGateway, hHead⟩ :=
    (nextGateway_eq_some hgk (List.getElem?_eq_some_iff.mp hb).1).mp hNext
  change (π.interface2At linked back p).ip = _
  rw [Plan.interface2At, if_pos hGateway, hHead]
  exact congrArg VMTDInterface.ip (if_pos hg)

theorem gatewayGroup_addRoutes1 :
    (addRoutes1 engine p routes).gatewayGroup q = engine.gatewayGroup q :=
  gatewayGroup_modifyParticipant fun _ => rfl

theorem gatewayGroup_addRoutes2 :
    (addRoutes2 engine p routes).gatewayGroup q = engine.gatewayGroup q :=
  gatewayGroup_modifyParticipant fun _ => rfl

/-- Routes for a list of groups, added in one pass over their gateways. -/
theorem remoteRoutes1 {gs : List Nat} (hgs : ∀ r ∈ gs, r < π.groupCount) (p : Nat) (via : String)
    {engine : VMTDEngine} (hEngine : ∀ r < π.groupCount,
      engine.gatewayGroup (π.gateway r) = some (π.groupAt linked r)) :
    (gs.map π.gateway).foldlM
      (fun engine remote => (engine.gatewayGroup remote).bind fun remoteGroup =>
        some (engine.addRoute1 p remoteGroup.network remoteGroup.mask via))
      engine =
      some (addRoutes1 engine p (gs.map fun r => ⟨π.network r, 24, via, 100⟩)) := by
  induction gs generalizing engine with
  | nil => simp
  | cons r gs ih =>
    rw [List.map_cons, List.foldlM_cons, hEngine r (hgs r List.mem_cons_self), Option.bind_some,
      Option.bind_eq_bind, Option.bind_some, network_groupAt, mask_groupAt]
    have hEngine' : ∀ r' < π.groupCount,
        (engine.addRoute1 p (π.network r) 24 via).gatewayGroup (π.gateway r') =
          some (π.groupAt linked r') := by
      intro r' hr'
      exact gatewayGroup_addRoutes1.trans (hEngine r' hr')
    rw [ih (fun r' hr' => hgs r' (List.mem_cons_of_mem _ hr')) hEngine']
    exact congrArg some addRoutes1_addRoutes1

/-- Once its forward routes are there, the next gateway is up. -/
theorem state_forward (hg : g < π.groupCount) (hNew : g ∉ pre) :
    addRoutes1 (π.state linked pre back) (π.gateway g) (π.forwardRoutes (π.gateway g)) =
      π.state linked (pre ++ [g]) back := by
  have hParticipants : (π.state linked pre back).participants.modify (π.gateway g) (fun q =>
      { q with interface1 :=
          { q.interface1 with
            routes := q.interface1.routes ++ π.forwardRoutes (π.gateway g) } }) =
      manager.participants.mapIdx (π.participantAt linked (pre ++ [g]) back) := by
    rw [participants_state, Indexed.modify_mapIdx]
    refine Indexed.mapIdx_congr fun p b _ => ?_
    unfold Plan.participantAt Plan.interface1At
    by_cases hpg : p = π.gateway g
    · subst hpg
      simp [π.home_gateway g hg, hNew]
    · rw [if_neg hpg]
      by_cases hHome : π.home p = g
      · subst hHome
        simp [hpg]
      · simp [hHome]
  unfold addRoutes1 modifyParticipant
  rw [hParticipants]
  rfl

/-- **Step of the forward loop.** -/
theorem routeForward_step {engine' : VMTDEngine} (hChain : π.chain = pre ++ g :: rest)
    (h : routeForward π.node10 ((g :: rest).map π.gateway) (π.state π.chain pre back) =
      some engine') :
    routeForward π.node10 (rest.map π.gateway) (π.state π.chain (pre ++ [g]) back) =
      some engine' := by
  have hNew := (Chain.notMem_of_split π.chain_nodup hChain).1
  have hMem : ∀ r ∈ g :: rest, r < π.groupCount := fun r hr =>
    Plan.mem_chain.mp (by rw [hChain]; exact List.mem_append_right _ hr)
  have hg := hMem g List.mem_cons_self
  have hAfter := Chain.after_eq_of_split π.chain_nodup hChain
  rw [← state_forward hg hNew]
  cases rest with
  | nil =>
    have hNone : π.forwardRoutes (π.gateway g) = [] := by
      rw [Plan.forwardRoutes, π.home_gateway g hg, hAfter]
    rw [hNone, addRoutes1_nil]
    exact h
  | cons h' rest =>
    have hh := hMem h' (by simp)
    obtain ⟨b, hb⟩ := exists_base (π.gateway_lt h' hh)
    have hVia : (π.participantAt π.chain pre back (π.gateway h') b).interface2.ip = π.linkIp g :=
      linkIp_eq hb (Plan.mem_chain.mpr hg) hg (by rw [Plan.nextGateway, hAfter]; rfl)
    have hRoutes : π.forwardRoutes (π.gateway g) =
        (⟨π.network h', 24, π.linkIp g, 100⟩ ::
          if some (π.gateway g) ≠ π.node10 then [⟨"100.100.18.0", 24, π.linkIp g, 100⟩] else []) ++
        rest.map fun r => ⟨π.network r, 24, π.linkIp g, 100⟩ := by
      rw [Plan.forwardRoutes, π.home_gateway g hg, hAfter]
      rfl
    rw [List.map_cons, List.map_cons, routeForward] at h
    simp only [getElem?_state hb, Option.bind_eq_bind, Option.bind_some, hVia,
      gatewayGroup_state hh, network_groupAt, mask_groupAt] at h
    rw [hRoutes, ← h]
    -- the routes to the next group and to 100.100.18.0/24 come first
    have hNear : (if some (π.gateway g) ≠ π.node10 then
        ((π.state π.chain pre back).addRoute1 (π.gateway g) (π.network h') 24
          (π.linkIp g)).addRoute1 (π.gateway g) "100.100.18.0" 24 (π.linkIp g)
        else (π.state π.chain pre back).addRoute1 (π.gateway g) (π.network h') 24 (π.linkIp g)) =
        addRoutes1 (π.state π.chain pre back) (π.gateway g)
          (⟨π.network h', 24, π.linkIp g, 100⟩ ::
            if some (π.gateway g) ≠ π.node10 then [⟨"100.100.18.0", 24, π.linkIp g, 100⟩]
            else []) := by
      split
      · exact addRoutes1_addRoutes1
      · rfl
    rw [hNear, remoteRoutes1 (fun r hr => hMem r (by simp [hr])) _ _
      (fun r hr => gatewayGroup_addRoutes1.trans (gatewayGroup_state hr)), Option.bind_some,
      addRoutes1_addRoutes1]
    rfl

/-- **Run of the forward loop.** -/
theorem routeForward_run {suf : List Nat} {engine' : VMTDEngine} (hChain : π.chain = pre ++ suf)
    (h : routeForward π.node10 (suf.map π.gateway) (π.state π.chain pre back) = some engine') :
    engine' = π.state π.chain π.chain back := by
  induction suf generalizing pre with
  | nil =>
    rw [List.map_nil, routeForward, Option.some_inj] at h
    · rw [← h, hChain, List.append_nil]
    · intro _ _ _ hEq
      exact absurd hEq (by simp)
  | cons g rest ih => exact ih (by rw [hChain, List.append_cons]) (routeForward_step hChain h)

/-- Whether a participant has its second interface. -/
def HasLink (engine : VMTDEngine) (p : Nat) : Prop :=
  ∃ b, engine.participants[p]? = some b ∧ b.interface2.isExist = true

theorem HasLink.addRoutes2 (h : HasLink engine p) : HasLink (addRoutes2 engine p routes) p := by
  obtain ⟨b, hb, hExist⟩ := h
  refine ⟨{ b with interface2 := { b.interface2 with routes := b.interface2.routes ++ routes } },
    ?_, hExist⟩
  change (engine.participants.modify p _)[p]? = _
  rw [List.getElem?_modify_eq, hb]
  rfl

/-- Back routes for a list of groups, added in one pass over their gateways. -/
theorem remoteRoutes2 {gs : List Nat} (hgs : ∀ r ∈ gs, r < π.groupCount) {p : Nat} (via : String)
    {engine : VMTDEngine} (hLink : HasLink engine p) (hEngine : ∀ r < π.groupCount,
      engine.gatewayGroup (π.gateway r) = some (π.groupAt linked r)) :
    (gs.map π.gateway).foldlM
      (fun engine remote => (engine.gatewayGroup remote).bind fun remoteGroup =>
        (engine.participants[p]?).bind fun gateway =>
          some
            (if gateway.interface2.isExist then
              engine.addRoute2 p remoteGroup.network remoteGroup.mask via
            else engine))
      engine =
      some (addRoutes2 engine p (gs.map fun r => ⟨π.network r, 24, via, 100⟩)) := by
  induction gs generalizing engine with
  | nil => simp
  | cons r gs ih =>
    obtain ⟨b, hb, hExist⟩ := id hLink
    rw [List.map_cons, List.foldlM_cons, hEngine r (hgs r List.mem_cons_self), Option.bind_some,
      hb, Option.bind_some, if_pos hExist, Option.bind_eq_bind, Option.bind_some,
      network_groupAt, mask_groupAt]
    have hEngine' : ∀ r' < π.groupCount,
        (engine.addRoute2 p (π.network r) 24 via).gatewayGroup (π.gateway r') =
          some (π.groupAt linked r') := by
      intro r' hr'
      exact gatewayGroup_addRoutes2.trans (hEngine r' hr')
    have hLink' : HasLink (engine.addRoute2 p (π.network r) 24 via) p := hLink.addRoutes2
    rw [ih (fun r' hr' => hgs r' (List.mem_cons_of_mem _ hr')) hLink' hEngine']
    exact congrArg some addRoutes2_addRoutes2

/-- Once its back routes are there, the previous gateway is up. -/
theorem state_back (hg : g < π.groupCount) (hNew : g ∉ pre) :
    addRoutes2 (π.state π.chain forward pre) (π.gateway g) (π.backRoutes (π.gateway g)) =
      π.state π.chain forward (pre ++ [g]) := by
  have hParticipants : (π.state π.chain forward pre).participants.modify (π.gateway g) (fun q =>
      { q with interface2 :=
          { q.interface2 with routes := q.interface2.routes ++ π.backRoutes (π.gateway g) } }) =
      manager.participants.mapIdx (π.participantAt π.chain forward (pre ++ [g])) := by
    rw [participants_state, Indexed.modify_mapIdx]
    refine Indexed.mapIdx_congr fun p b _ => ?_
    unfold Plan.participantAt Plan.interface2At
    by_cases hpg : p = π.gateway g
    · subst hpg
      rw [π.home_gateway g hg]
      cases hHead : (Chain.before π.chain g).head? with
      | none =>
        have hNone : π.backRoutes (π.gateway g) = [] := by
          rw [Plan.backRoutes, π.home_gateway g hg, List.head?_eq_none_iff.mp hHead]
        simp [hNone]
      | some h =>
        have hh : h ∈ π.chain :=
          Plan.mem_chain.mpr (Plan.mem_before hg (List.mem_of_mem_head? hHead)).1
        simp only [if_true, if_pos hh, if_neg hNew, List.nil_append, List.mem_append,
          List.mem_singleton, or_true]
    · rw [if_neg hpg]
      by_cases hHome : π.home p = g
      · subst hHome
        simp [hpg]
      · simp [hHome]
  unfold addRoutes2 modifyParticipant
  rw [hParticipants]
  rfl

/-- **Step of the back loop.** -/
theorem routeBack_step {engine' : VMTDEngine} (hChain : π.chain.reverse = pre ++ g :: rest)
    (h : routeBack π.node1 ((g :: rest).map π.gateway) (π.state π.chain forward pre) =
      some engine') :
    routeBack π.node1 (rest.map π.gateway) (π.state π.chain forward (pre ++ [g])) =
      some engine' := by
  have hNew := (Chain.notMem_of_split (List.nodup_reverse.mpr π.chain_nodup) hChain).1
  have hMem : ∀ r ∈ g :: rest, r < π.groupCount := fun r hr =>
    Plan.mem_chain.mp (List.mem_reverse.mp (by rw [hChain]; exact List.mem_append_right _ hr))
  have hg := hMem g List.mem_cons_self
  have hBefore := Chain.before_eq_of_split π.chain_nodup hChain
  rw [← state_back hg hNew]
  cases rest with
  | nil =>
    have hNone : π.backRoutes (π.gateway g) = [] := by
      rw [Plan.backRoutes, π.home_gateway g hg, hBefore]
    rw [hNone, addRoutes2_nil]
    exact h
  | cons h' rest =>
    have hh := hMem h' (by simp)
    obtain ⟨b, hb⟩ := exists_base (π.gateway_lt h' hh)
    have hVia : (π.participantAt π.chain forward pre (π.gateway h') b).interface1.ip =
        π.gatewayIp h' := rfl
    have hLink : HasLink (π.state π.chain forward pre) (π.gateway g) := by
      obtain ⟨bg, hbg⟩ := exists_base (π.gateway_lt g hg)
      refine ⟨_, getElem?_state hbg, ?_⟩
      change (π.interface2At π.chain pre (π.gateway g)).isExist = true
      rw [Plan.interface2At, π.home_gateway g hg, if_pos rfl, hBefore]
      exact congrArg VMTDInterface.isExist (if_pos (Plan.mem_chain.mpr hh))
    have hRoutes : π.backRoutes (π.gateway g) =
        (if some (π.gateway g) ≠ π.node1 then [⟨"100.100.17.0", 24, π.gatewayIp h', 100⟩]
          else []) ++
        rest.map fun r => ⟨π.network r, 24, π.gatewayIp h', 100⟩ := by
      rw [Plan.backRoutes, π.home_gateway g hg, hBefore]
    rw [List.map_cons, List.map_cons, routeBack] at h
    simp only [getElem?_state hb, Option.bind_eq_bind, Option.bind_some, hVia] at h
    rw [hRoutes, ← h]
    have hNear : (if some (π.gateway g) ≠ π.node1 then
        (π.state π.chain forward pre).addRoute2 (π.gateway g) "100.100.17.0" 24 (π.gatewayIp h')
        else π.state π.chain forward pre) =
        addRoutes2 (π.state π.chain forward pre) (π.gateway g)
          (if some (π.gateway g) ≠ π.node1 then [⟨"100.100.17.0", 24, π.gatewayIp h', 100⟩]
            else []) := by
      split
      · rfl
      · exact addRoutes2_nil.symm
    rw [hNear, remoteRoutes2 (fun r hr => hMem r (by simp [hr])) _ hLink.addRoutes2
      (fun r hr => gatewayGroup_addRoutes2.trans (gatewayGroup_state hr)), Option.bind_some,
      addRoutes2_addRoutes2]
    rfl

/-- **Run of the back loop.** -/
theorem routeBack_run {suf : List Nat} {engine' : VMTDEngine}
    (hChain : π.chain.reverse = pre ++ suf)
    (h : routeBack π.node1 (suf.map π.gateway) (π.state π.chain forward pre) = some engine') :
    engine' = π.state π.chain forward π.chain.reverse := by
  induction suf generalizing pre with
  | nil =>
    rw [List.map_nil, routeBack, Option.some_inj] at h
    · rw [← h, hChain, List.append_nil]
    · intro _ _ _ hEq
      exact absurd hEq (by simp)
  | cons g rest ih => exact ih (by rw [hChain, List.append_cons]) (routeBack_step hChain h)

end Routing

-- ---------------------------------------------------------------------------
-- The plan
-- ---------------------------------------------------------------------------

/-- The order of a list of processed groups does not matter. -/
theorem state_reverse {manager : VMTDDeviceManager} {π : Plan manager.participants.length}
    {linked forward back : List Nat} :
    π.state linked forward back.reverse = π.state linked forward back := by
  have hSame : ∀ p b, π.participantAt linked forward back.reverse p b =
      π.participantAt linked forward back p b := by
    intro p b
    simp [Plan.participantAt, Plan.interface2At]
  unfold Plan.state
  rw [Indexed.mapIdx_congr fun p b _ => hSame p b]

section PlanOf

variable {n : Nat} {L : Layout n} {gateways : List Nat}

/-- A gateway that is a member of a group is at home there. -/
theorem home_gatewayOf
    (hMember : ∀ g < L.groupCount, gatewayOf L settings draws g ∈ L.members g) :
    ∀ g < L.groupCount, L.home (gatewayOf L settings draws g) = g :=
  fun g hg => ((Layout.mem_members hg).mp (hMember g hg)).2

theorem homes_gatewayOf
    (hMember : ∀ g < L.groupCount, gatewayOf L settings draws g ∈ L.members g) :
    ((List.range L.groupCount).map (gatewayOf L settings draws)).map L.home =
      List.range L.groupCount := by
  rw [List.map_map]
  refine (List.map_congr_left fun g hg => ?_).trans (List.map_id _)
  exact home_gatewayOf hMember g (List.mem_range.mp hg)

/-- The plan for a layout and an order of its gateways. -/
def planOf (L : Layout n) (settings : VMTDSettings) (draws : Draws) (gateways : List Nat)
    (node1 node10 : Option Nat)
    (hMember : ∀ g < L.groupCount, gatewayOf L settings draws g ∈ L.members g)
    (hPerm : gateways.Perm ((List.range L.groupCount).map (gatewayOf L settings draws))) :
    Plan n where
  toLayout := L
  gateway := gatewayOf L settings draws
  chain := gateways.map L.home
  link4 g := if settings.shouldRandomizeGateway then draws.link4 g else (L.members g).length + 1
  node1 := node1
  node10 := node10
  gateway_lt g hg := ((Layout.mem_members hg).mp (hMember g hg)).1
  home_gateway := home_gatewayOf hMember
  chain_perm := homes_gatewayOf hMember ▸ hPerm.map L.home

/-- Each gateway is the one of its group. -/
theorem map_gateway_homes
    (hMember : ∀ g < L.groupCount, gatewayOf L settings draws g ∈ L.members g)
    (hPerm : gateways.Perm ((List.range L.groupCount).map (gatewayOf L settings draws))) :
    (gateways.map L.home).map (gatewayOf L settings draws) = gateways := by
  rw [List.map_map]
  refine (List.map_congr_left fun p hp => ?_).trans (List.map_id _)
  obtain ⟨g, hg, rfl⟩ := List.mem_map.mp (hPerm.mem_iff.mp hp)
  simp [home_gatewayOf hMember g (List.mem_range.mp hg)]

end PlanOf

/-- Before the first loop nothing is linked. -/
theorem state_start {manager : VMTDDeviceManager} {π : Plan manager.participants.length}
    {engine : VMTDEngine} (hBase : ∀ b ∈ manager.participants, b.interface2 = {})
    (hManager : engine.manager =
      { manager with participants := manager.participants.mapIdx π.toLayout.participant })
    (hGroups : engine.groups = (List.range π.groupCount).map π.toLayout.group) :
    engine.withAssignment
      (manager.participants.mapIdx (withRole π.toLayout fun p =>
        p ∈ (List.range π.groupCount).map π.gateway))
      engine.groups = π.state [] [] [] := by
  have hSeated : manager.participants.mapIdx (withRole π.toLayout fun p =>
      p ∈ (List.range π.groupCount).map π.gateway) =
      manager.participants.mapIdx (π.participantAt [] [] []) := by
    refine Indexed.mapIdx_congr fun p b hpb => ?_
    have hp := (List.getElem?_eq_some_iff.mp hpb).1
    have hGateway : p ∈ (List.range π.groupCount).map π.gateway ↔ p = π.gateway (π.home p) := by
      constructor
      · intro hIn
        obtain ⟨g, hg, rfl⟩ := List.mem_map.mp hIn
        exact congrArg π.gateway (π.home_gateway g (List.mem_range.mp hg)).symm
      · intro hEq
        exact List.mem_map.mpr ⟨π.home p, List.mem_range.mpr (π.home_lt p hp), hEq.symm⟩
    have hSecond : π.interface2At [] [] p = {} := by
      unfold Plan.interface2At
      split
      · split <;> simp
      · rfl
    have hFirst : π.interface1At [] [] p = π.homeInterface p := by
      unfold Plan.interface1At
      simp only [List.not_mem_nil, if_false, ite_self]
      rfl
    unfold withRole Plan.participantAt Layout.participant
    rw [hSecond, hFirst]
    simp only [hGateway, hBase b (List.mem_of_getElem? hpb)]
  rw [hSeated, hGroups]
  unfold withAssignment
  rw [hManager]
  refine congrArg (VMTDEngine.mk _) (Indexed.map_range_congr fun g _ => ?_)
  exact (groupAt_of_notMem List.not_mem_nil).symm

/-- **`createGateways` refines a plan** of the layout it starts from, chained in
the order of the gateways it selected. -/
theorem createGateways_selects {manager : VMTDDeviceManager}
    (L : Layout manager.participants.length) (hL : L.Follows settings draws)
    {engine engine' : VMTDEngine}
    (hBase : ∀ b ∈ manager.participants, b.interface2 = {})
    (hManager : engine.manager =
      { manager with participants := manager.participants.mapIdx L.participant })
    (hGroups : engine.groups = (List.range L.groupCount).map L.group)
    (h : createGateways settings draws engine = some engine') :
    ∃ π : Plan manager.participants.length, (π.toLayout = L ∧ π.Follows settings draws ∧
      π.node1 = engine.nodeNamed "Node-1" ∧ π.node10 = engine.nodeNamed "Node-10" ∧
      engine' = π.engine) ∧ π.gateway = gatewayOf π.toLayout settings draws ∧
      shuffleIf settings.shouldRandomizeGateway ((List.range π.groupCount).map π.gateway)
        draws.gateways = some (π.chain.map π.gateway) := by
  have hParticipants : engine.participants = manager.participants.mapIdx L.participant := by
    unfold VMTDEngine.participants
    rw [hManager]
  have hCount : engine.groups.length = L.groupCount := by simp [hGroups]
  unfold createGateways at h
  rw [hCount] at h
  obtain ⟨⟨selected, engine₁⟩, hSelect, h⟩ := Option.bind_eq_some_iff.mp h
  obtain ⟨rfl, hMember, rfl⟩ := selectGateways_loop le_rfl hParticipants hGroups hSelect
  obtain ⟨gateways, hShuffle, h⟩ := Option.bind_eq_some_iff.mp h
  obtain ⟨engine₂, hLink, h⟩ := Option.bind_eq_some_iff.mp h
  obtain ⟨engine₃, hForward, hBack⟩ := Option.bind_eq_some_iff.mp h
  have hPerm := shuffleIf_perm hShuffle
  have hGateways := map_gateway_homes hMember hPerm
  obtain ⟨π, hπ⟩ : ∃ π : Plan manager.participants.length, π = planOf L settings draws gateways
    (engine.nodeNamed "Node-1") (engine.nodeNamed "Node-10") hMember hPerm := ⟨_, rfl⟩
  have hLayout : π.toLayout = L := by rw [hπ]; rfl
  have hGatewaysEq : gateways = π.chain.map π.gateway := by rw [hπ]; exact hGateways.symm
  have hNode1 : π.node1 = engine.nodeNamed "Node-1" := by rw [hπ]; rfl
  have hNode10 : π.node10 = engine.nodeNamed "Node-10" := by rw [hπ]; rfl
  have hLink4 : ∀ g < π.groupCount, π.link4 g =
      if settings.shouldRandomizeGateway then draws.link4 g else (π.members g).length + 1 := by
    rw [hπ]
    exact fun _ _ => rfl
  have hGatewayOf : gatewayOf L settings draws = π.gateway := by rw [hπ]; rfl
  have hWhole : π.chain = [] ++ π.chain := rfl
  have hWholeBack : π.chain.reverse = [] ++ π.chain.reverse := rfl
  clear hπ
  subst hLayout
  rw [hGatewayOf] at hShuffle hLink
  rw [state_start hBase hManager hGroups, hGatewaysEq] at hLink
  obtain ⟨rfl, hFresh⟩ := linkGateways_run hWhole hLink4 hLink
  rw [hGatewaysEq, ← hNode10] at hForward
  obtain rfl := routeForward_run hWhole hForward
  rw [hGatewaysEq, ← hNode1, ← List.map_reverse] at hBack
  obtain rfl := routeBack_run hWholeBack hBack
  rw [hGatewaysEq] at hShuffle
  refine ⟨π, ⟨rfl, ⟨hL, ?_, fun g hg _ => hLink4 g hg, ?_, ?_⟩, hNode1, hNode10, state_reverse⟩,
    hGatewayOf.symm, hShuffle⟩
  · intro hR
    rw [hR] at hShuffle
    have hItems := Option.some_injective _ hShuffle
    have hHomes : ∀ gs : List Nat, (∀ g ∈ gs, g < π.groupCount) →
        (gs.map π.gateway).map π.home = gs := by
      intro gs hgs
      rw [List.map_map]
      exact (List.map_congr_left fun g hg => π.home_gateway g (hgs g hg)).trans (List.map_id _)
    rw [← hHomes π.chain (fun g hg => Plan.mem_chain.mp hg), ← hItems,
      hHomes _ fun g hg => List.mem_range.mp hg]
  · exact fun hR g hg hAfter => (hFresh hR g (Plan.mem_chain.mpr hg) hAfter).1
  · intro hR g hg hAfter t ht hEq
    refine (hFresh hR g (Plan.mem_chain.mpr hg) hAfter).2 ?_
    rw [hEq]
    exact List.mem_reverse.mpr (List.mem_map.mpr ⟨t, List.mem_range.mpr ht, rfl⟩)

/-- **`createGateways` makes a plan**, of whatever layout it finds. -/
theorem createGateways_refines {manager : VMTDDeviceManager}
    (L : Layout manager.participants.length) (hL : L.Follows settings draws)
    {engine engine' : VMTDEngine}
    (hBase : ∀ b ∈ manager.participants, b.interface2 = {})
    (hManager : engine.manager =
      { manager with participants := manager.participants.mapIdx L.participant })
    (hGroups : engine.groups = (List.range L.groupCount).map L.group)
    (h : createGateways settings draws engine = some engine') :
    ∃ π : Plan manager.participants.length, π.toLayout = L ∧ π.Follows settings draws ∧
      π.node1 = engine.nodeNamed "Node-1" ∧ π.node10 = engine.nodeNamed "Node-10" ∧
      engine' = π.engine := by
  obtain ⟨π, hπ, -⟩ := createGateways_selects L hL hBase hManager hGroups h
  exact ⟨π, hπ⟩

/-- With at least two participants, `generate` is the two steps. -/
theorem generate_steps {rows : List DeviceRow} {engine engine' : VMTDEngine}
    (h : generate settings rows draws engine = some engine')
    (hTwo : 2 ≤ (engine.manager.buildParticipants settings rows).participants.length) :
    ∃ engine₁, createGroups settings draws
        { engine with manager := engine.manager.buildParticipants settings rows } = some engine₁ ∧
      createGateways settings draws engine₁ = some engine' := by
  unfold generate at h
  dsimp only at h
  have hEnough : ¬(VMTDEngine.participants { engine with
      manager := engine.manager.buildParticipants settings rows }).length < 2 :=
    not_lt.mpr hTwo
  rw [if_neg hEnough] at h
  exact Option.bind_eq_some_iff.mp h

/-- **`generate` refines a plan**: with at least two participants, the engine it
leaves behind is the one some plan describes. -/
theorem generate_refines {rows : List DeviceRow} {engine engine' : VMTDEngine}
    (h : generate settings rows draws engine = some engine')
    (hTwo : 2 ≤ (engine.manager.buildParticipants settings rows).participants.length) :
    ∃ π : Plan (engine.manager.buildParticipants settings rows).participants.length,
      π.Follows settings draws ∧ engine' = π.engine := by
  obtain ⟨engine₁, hGroups, h⟩ := generate_steps h hTwo
  have hBase : ∀ b ∈ (engine.manager.buildParticipants settings rows).participants,
      b.interface1 = {} ∧ b.interface2 = {} ∧ b.role = .endpoint :=
    VMTDDeviceManager.buildParticipants_interfaces
  obtain ⟨L, hL, hManager, hGroupsEq⟩ :=
    @createGroups_refines settings draws
      { engine with manager := engine.manager.buildParticipants settings rows } engine₁
      (fun b hb => (hBase b hb).1) hTwo hGroups
  obtain ⟨π, -, hFollows, -, -, hEngine⟩ :=
    createGateways_refines L hL (fun b hb => (hBase b hb).2.1) hManager hGroupsEq h
  exact ⟨π, hFollows, hEngine⟩

end VxlanMtd
