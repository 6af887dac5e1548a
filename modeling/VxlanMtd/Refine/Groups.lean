import VxlanMtd.Model.Plan
import VxlanMtd.Lib.Indexed
import Mathlib.Data.List.Pairwise
import Mathlib.Tactic.Ring
import Mathlib.Algebra.BigOperators.Group.List.Basic

/-!
# createGroups refines a layout

`createGroups_refines`: what `createGroups` leaves behind is a `Layout` — the
groups with their members, and the participants in their seats.

The two loops are taken one at a time. `createGroups_loop` gives the groups
the first loop creates, by induction on the number of passes. `Filling` is the
invariant of the second: the groups' members together with the participants
still waiting are always a rearrangement of all participants.
-/

namespace VxlanMtd

open VMTDEngine

variable {settings : VMTDSettings} {draws : Draws}

-- addresses are opaque here; unfolding them would make Lean render templates
attribute [local irreducible] networkText macText PlaceMarker.arg

-- ---------------------------------------------------------------------------
-- The loop that creates the groups
-- ---------------------------------------------------------------------------

/-- Group `i` before it is filled. -/
def emptyGroup (settings : VMTDSettings) (draws : Draws) (size i : Nat) : VMTDGroup where
  index := i
  maxParticipantCount := sizeOf draws size i
  octet3 := octet3Of settings draws i
  mask := 24
  vlanId := vlanIdOf settings draws i

theorem drawIf_eq_some {shouldRandomize : Bool} {lowest highest value fixed result : Int}
    {used : List Int} (h : drawIf shouldRandomize lowest highest used value fixed = some result) :
    result = (if shouldRandomize then value else fixed) ∧
      (shouldRandomize = true → Bounded lowest highest result ∧ result ∉ used) := by
  unfold drawIf drawUnused at h
  cases shouldRandomize with
  | true =>
    rw [if_pos rfl] at h
    split at h
    · rename_i hDraw
      obtain rfl := Option.some_injective _ h
      exact ⟨rfl, fun _ => hDraw⟩
    · simp at h
  | false => exact ⟨(Option.some_injective _ h).symm, by simp⟩

theorem isInt_bmod (x : Int) : IsInt (Int.bmod x (2 ^ 32)) := by
  have hLow := @Int.le_bmod x (2 ^ 32) (by decide)
  have hHigh := @Int.bmod_lt x (2 ^ 32) (by decide)
  unfold IsInt
  constructor <;> omega

/-- What one pass adds, and what its draws had to meet. -/
theorem createGroup_eq_some {size i : Nat} {groups groups' : List VMTDGroup}
    {vlanIds octets3 vlanIds' octets3' : List Int}
    (h : createGroup settings draws size (groups, vlanIds, octets3) i =
      some (groups', vlanIds', octets3')) :
    groups' = groups ++ [emptyGroup settings draws size i] ∧
    vlanIds' = vlanIdOf settings draws i :: vlanIds ∧
    IsInt (vlanIdOf settings draws i) ∧
    (settings.shouldRandomizeVlan = true → vlanIdOf settings draws i ∉ vlanIds) ∧
    (settings.shouldRandomizeNetwork = true →
      octets3' = octet3Of settings draws i :: octets3 ∧ octet3Of settings draws i ∉ octets3 ∧
      1 ≤ octet3Of settings draws i ∧ octet3Of settings draws i < 253) := by
  have hSize : (if i = 0 ∧ size % draws.groupCount ≠ 0 then
      size / draws.groupCount + size % draws.groupCount else size / draws.groupCount) =
      sizeOf draws size i := by
    unfold sizeOf
    by_cases hi : i = 0 <;> by_cases hr : size % draws.groupCount = 0 <;> simp [hi, hr]
  unfold createGroup at h
  simp only [hSize] at h
  obtain ⟨vlanId, hVlan, h⟩ := Option.bind_eq_some_iff.mp h
  obtain ⟨octet3, hOctet, h⟩ := Option.bind_eq_some_iff.mp h
  rw [Option.some_inj, Prod.mk.injEq, Prod.mk.injEq] at h
  obtain ⟨rfl, rfl, rfl⟩ := h
  obtain ⟨rfl, hDraw⟩ := drawIf_eq_some hVlan
  obtain ⟨rfl, hNet⟩ := drawIf_eq_some hOctet
  change _ ∧ _ ∧ IsInt (if settings.shouldRandomizeVlan then _ else _) ∧ _ ∧ _
  refine ⟨?_, rfl, ?_, fun hR => (hDraw hR).2, fun hR => ?_⟩
  · unfold emptyGroup octet3Of
    cases hR : settings.shouldRandomizeNetwork <;> rfl
  · split
    · rename_i hR
      have hBounded := (hDraw hR).1
      rw [if_pos hR] at hBounded
      exact hBounded.value_int
    · exact isInt_bmod _
  · obtain ⟨hBounded, hNew⟩ := hNet hR
    unfold octet3Of
    rw [hR, if_pos rfl] at hBounded hNew ⊢
    exact ⟨rfl, hNew, hBounded.range (by decide)⟩

/-- **The groups the first loop creates**, and what the draws of all its
passes had to meet. -/
theorem createGroups_loop {size m : Nat} {groups : List VMTDGroup} {vlanIds octets3 : List Int}
    (h : (List.range m).foldlM (createGroup settings draws size) ([], [], []) =
      some (groups, vlanIds, octets3)) :
    groups = (List.range m).map (emptyGroup settings draws size) ∧
    vlanIds = ((List.range m).map (vlanIdOf settings draws)).reverse ∧
    (∀ i < m, IsInt (vlanIdOf settings draws i)) ∧
    (settings.shouldRandomizeVlan = true →
      ((List.range m).map (vlanIdOf settings draws)).Nodup) ∧
    (settings.shouldRandomizeNetwork = true →
      octets3 = ((List.range m).map (octet3Of settings draws)).reverse ∧
      ((List.range m).map (octet3Of settings draws)).Nodup ∧
      ∀ i < m, 1 ≤ octet3Of settings draws i ∧ octet3Of settings draws i < 253) := by
  induction m generalizing groups vlanIds octets3 with
  | zero =>
    obtain ⟨rfl, rfl, rfl⟩ : groups = [] ∧ vlanIds = [] ∧ octets3 = [] := by
      simpa [eq_comm] using h
    simp
  | succ m ih =>
    rw [List.range_succ, List.foldlM_append] at h
    obtain ⟨⟨groups₀, vlanIds₀, octets₀⟩, hFirst, hLast⟩ := Option.bind_eq_some_iff.mp h
    obtain ⟨rfl, rfl, hInt, hVlan, hNet⟩ := ih hFirst
    rw [List.foldlM_cons] at hLast
    obtain ⟨_, hPass, hEnd⟩ := Option.bind_eq_some_iff.mp hLast
    obtain rfl := Option.some_injective _ hEnd
    obtain ⟨rfl, rfl, hInt', hNew, hNet'⟩ := createGroup_eq_some hPass
    refine ⟨by simp [List.range_succ], by simp [List.range_succ], ?_, ?_, ?_⟩
    · intro i hi
      rcases Nat.lt_succ_iff_lt_or_eq.mp hi with hi | rfl
      · exact hInt i hi
      · exact hInt'
    · intro hR
      rw [List.range_succ, List.map_append, List.map_singleton, List.nodup_append_comm]
      refine List.nodup_cons.mpr ⟨?_, hVlan hR⟩
      simpa using hNew hR
    · intro hR
      obtain ⟨rfl, hNodup, hRange⟩ := hNet hR
      obtain ⟨rfl, hNew', hRange'⟩ := hNet' hR
      refine ⟨by simp [List.range_succ], ?_, fun i hi => ?_⟩
      · rw [List.range_succ, List.map_append, List.map_singleton, List.nodup_append_comm]
        refine List.nodup_cons.mpr ⟨?_, hNodup⟩
        simpa using hNew'
      · rcases Nat.lt_succ_iff_lt_or_eq.mp hi with hi | rfl
        · exact hRange i hi
        · exact hRange'

/-- Without randomisation the VLANs are consecutive modulo 2³², and there are
fewer of them. -/
theorem bmod_consecutive_inj (x : Int) {i j : Nat} (hi : i < 2 ^ 31) (hj : j < 2 ^ 31)
    (h : Int.bmod (x + i) (2 ^ 32) = Int.bmod (x + j) (2 ^ 32)) : i = j := by
  have hEmod : (x + i) % ((2 ^ 32 : Nat) : Int) = (x + j) % ((2 ^ 32 : Nat) : Int) := by
    rw [← Int.bmod_emod, h, Int.bmod_emod]
  omega

/-- A function without repetitions on a range is injective there. -/
theorem inj_of_nodup_map_range {f : Nat → Int} {m : Nat}
    (h : ((List.range m).map f).Nodup) : ∀ i < m, ∀ j < m, f i = f j → i = j := by
  intro i hi j hj hEq
  exact List.inj_on_of_nodup_map h (List.mem_range.mpr hi) (List.mem_range.mpr hj) hEq

-- ---------------------------------------------------------------------------
-- The loop that fills the groups
-- ---------------------------------------------------------------------------

/-- Group `g` with the members `ms`. -/
def filledGroup (settings : VMTDSettings) (draws : Draws) (size g : Nat) (ms : List Nat) :
    VMTDGroup :=
  { emptyGroup settings draws size g with
    participants := ms
    octets4 := ((List.range ms.length).map (octet4Of settings draws g)).reverse }

theorem canAddParticipant_filledGroup {size g : Nat} {ms : List Nat} :
    (filledGroup settings draws size g ms).canAddParticipant = true ↔
      ms.length < sizeOf draws size g :=
  decide_eq_true_iff

/-- A participant at place `t` of group `g`. -/
def seatedParticipant (settings : VMTDSettings) (draws : Draws) (size g t : Nat)
    (base : VMTDParticipant) : VMTDParticipant :=
  { base with
    role := .endpoint
    interface1 :=
      (emptyGroup settings draws size g).assign (octet4Of settings draws g t) {} }

/-- The invariant of filling: `mem` are the members so far, `rest` the
participants still waiting. -/
structure Filling (settings : VMTDSettings) (draws : Draws) (manager : VMTDDeviceManager)
    (mem : Nat → List Nat) (rest : List Nat) (engine : VMTDEngine) : Prop where
  manager_eq : engine.manager = { manager with participants := engine.participants }
  groups_eq : engine.groups = (List.range draws.groupCount).map fun g =>
    filledGroup settings draws manager.participants.length g (mem g)
  length_eq : engine.participants.length = manager.participants.length
  seated : ∀ g < draws.groupCount, ∀ t p, (mem g)[t]? = some p →
    engine.participants[p]? = manager.participants[p]?.map
      (seatedParticipant settings draws manager.participants.length g t)
  waiting : ∀ p ∈ rest, engine.participants[p]? = manager.participants[p]?
  conserved : ((List.range draws.groupCount).flatMap mem ++ rest).Perm
    (List.range manager.participants.length)
  octets_nodup : settings.shouldRandomizeNetwork = true → ∀ g < draws.groupCount,
    ((List.range (mem g).length).map (octet4Of settings draws g)).Nodup
  octets_range : settings.shouldRandomizeNetwork = true → ∀ g < draws.groupCount,
    ∀ t < (mem g).length, 1 ≤ octet4Of settings draws g t ∧ octet4Of settings draws g t < 253

namespace Filling

variable {manager : VMTDDeviceManager} {mem : Nat → List Nat} {rest : List Nat}
  {engine : VMTDEngine} {g p : Nat}

theorem getElem?_groups (hF : Filling settings draws manager mem rest engine)
    (hg : g < draws.groupCount) :
    engine.groups[g]? =
      some (filledGroup settings draws manager.participants.length g (mem g)) := by
  rw [hF.groups_eq, Indexed.getElem?_map_range _ hg]

/-- A waiting participant is in no group. -/
theorem notMem_of_waiting (hF : Filling settings draws manager mem (p :: rest) engine)
    (hg : g < draws.groupCount) : p ∉ mem g := by
  intro hMem
  have hNodup := hF.conserved.nodup_iff.mpr List.nodup_range
  have hIn : p ∈ (List.range draws.groupCount).flatMap mem :=
    List.mem_flatMap.mpr ⟨g, List.mem_range.mpr hg, hMem⟩
  exact (List.nodup_append.mp hNodup).2.2 p hIn p List.mem_cons_self rfl

theorem notMem_rest (hF : Filling settings draws manager mem (p :: rest) engine) : p ∉ rest := by
  have hNodup := hF.conserved.nodup_iff.mpr List.nodup_range
  exact (List.nodup_cons.mp (List.nodup_append.mp hNodup).2.1).1

end Filling

/-- The places in the groups once `p` joined group `g`. -/
theorem getElem?_update_append {mem : Nat → List Nat} {g g' p q t : Nat} :
    (Function.update mem g (mem g ++ [p]) g')[t]? = some q ↔
      (mem g')[t]? = some q ∨ (g' = g ∧ t = (mem g).length ∧ q = p) := by
  by_cases hgg : g' = g
  · subst hgg
    rw [Function.update_self]
    rcases Nat.lt_trichotomy t (mem g').length with hLt | rfl | hGt
    · rw [List.getElem?_append_left hLt]
      exact (or_iff_left fun hNew => by omega).symm
    · rw [List.getElem?_concat_length, List.getElem?_eq_none (Nat.le_refl _), Option.some_inj]
      simp [eq_comm]
    · have hLength : (mem g' ++ [p]).length ≤ t := by
        rw [List.length_append, List.length_singleton]
        exact hGt
      rw [List.getElem?_eq_none hLength, List.getElem?_eq_none (Nat.le_of_lt hGt)]
      simp only [reduceCtorEq, false_or, false_iff]
      omega
  · rw [Function.update_of_ne hgg]
    exact (or_iff_left fun hNew => hgg hNew.1).symm

/-- Giving group `g` another member moves it from one side of the
rearrangement to the other. -/
theorem flatMap_update_perm {mem : Nat → List Nat} {k g p : Nat} (hg : g < k) :
    ((List.range k).flatMap (Function.update mem g (mem g ++ [p]))).Perm
      ((List.range k).flatMap mem ++ [p]) := by
  obtain ⟨l, r, hSplit, hl, hr, -⟩ := Chain.exists_split List.nodup_range (List.mem_range.mpr hg)
  have hSame : ∀ s : List Nat, g ∉ s →
      s.flatMap (Function.update mem g (mem g ++ [p])) = s.flatMap mem := by
    intro s hs
    refine List.flatMap_congr fun x hx => ?_
    have hxg : x ≠ g := fun hEq => hs (hEq ▸ hx)
    rw [Function.update_of_ne hxg]
  rw [hSplit]
  simp only [List.flatMap_append, List.flatMap_cons, hSame l hl, hSame r hr,
    Function.update_self, List.append_assoc]
  exact (List.Perm.append_left _ (List.Perm.append_left _ List.perm_append_comm))

/-- **Step.** While group `g` has room, the loop seats the first waiting
participant in it. -/
theorem fillGroup_seat {manager : VMTDDeviceManager} {mem : Nat → List Nat} {rest : List Nat}
    {engine : VMTDEngine} {g p : Nat} {out : List Nat × VMTDEngine}
    (hBase : ∀ b ∈ manager.participants, b.interface1 = {})
    (hF : Filling settings draws manager mem (p :: rest) engine)
    (hg : g < draws.groupCount)
    (hRoom : (mem g).length < sizeOf draws manager.participants.length g)
    (h : fillGroup settings draws g (p :: rest) engine = some out) :
    ∃ engine', Filling settings draws manager (Function.update mem g (mem g ++ [p])) rest engine' ∧
      fillGroup settings draws g rest engine' = some out := by
  rw [fillGroup] at h
  obtain ⟨group, hGroup, h⟩ := Option.bind_eq_some_iff.mp h
  rw [hF.getElem?_groups hg] at hGroup
  obtain rfl := Option.some_injective _ hGroup
  have hCan := (@canAddParticipant_filledGroup settings draws _ g (mem g)).mpr hRoom
  rw [if_pos hCan] at h
  obtain ⟨⟨group', participants'⟩, hAdd, h⟩ := Option.bind_eq_some_iff.mp h
  obtain ⟨octet4, hOctet, rfl, rfl⟩ :=
    VMTDGroup.addParticipant_eq_some hCan (hF.notMem_of_waiting hg) hAdd
  obtain ⟨hOctetEq, hDraw⟩ := drawIf_eq_some hOctet
  replace hOctetEq : octet4 = octet4Of settings draws g (mem g).length := hOctetEq
  subst hOctetEq
  refine ⟨_, ?_, h⟩
  constructor
  case manager_eq => rw [VMTDEngine.withAssignment, hF.manager_eq]; rfl
  case length_eq => simpa using hF.length_eq
  case groups_eq =>
    rw [groups_withAssignment, hF.groups_eq, Indexed.set_map_range]
    refine Indexed.map_range_congr fun g' _ => ?_
    by_cases hgg : g' = g
    · subst hgg
      rw [Function.update_self, Function.update_self]
      simp [filledGroup, List.range_succ]
    · rw [Function.update_of_ne hgg, Function.update_of_ne hgg]
  case seated =>
    intro g' hg' t q hq
    rw [participants_withAssignment]
    rcases getElem?_update_append.mp hq with hOld | ⟨rfl, rfl, rfl⟩
    · -- a member of before is not the participant that waited
      have hqp : q ≠ p := fun hEq =>
        hF.notMem_of_waiting hg' (hEq ▸ List.mem_of_getElem? hOld)
      rw [Indexed.getElem?_modify_modify_ne hqp]
      exact hF.seated g' hg' t q hOld
    · rw [List.getElem?_modify_eq, List.getElem?_modify_eq, hF.waiting q List.mem_cons_self]
      cases hb : manager.participants[q]? with
      | none => rfl
      | some b =>
        have hDefault := hBase b (List.mem_of_getElem? hb)
        simp only [Option.map_eq_map, Option.map_some, seatedParticipant, hDefault]
        rfl
  case waiting =>
    intro q hq
    have hqp : q ≠ p := fun hEq => hF.notMem_rest (hEq ▸ hq)
    rw [participants_withAssignment, Indexed.getElem?_modify_modify_ne hqp]
    exact hF.waiting q (List.mem_cons_of_mem _ hq)
  case conserved =>
    refine List.Perm.trans ?_ hF.conserved
    have hMove := (@flatMap_update_perm mem _ g p hg).append_right rest
    rwa [List.append_assoc, List.singleton_append] at hMove
  case octets_nodup =>
    intro hR g' hg'
    by_cases hgg : g' = g
    · subst hgg
      rw [Function.update_self, List.length_append, List.length_singleton, List.range_succ,
        List.map_append, List.map_singleton, List.nodup_append_comm]
      refine List.nodup_cons.mpr ⟨?_, hF.octets_nodup hR g' hg'⟩
      simpa [filledGroup] using (hDraw hR).2
    · rw [Function.update_of_ne hgg]
      exact hF.octets_nodup hR g' hg'
  case octets_range =>
    intro hR g' hg' t ht
    by_cases hgg : g' = g
    · subst hgg
      rw [Function.update_self, List.length_append, List.length_singleton] at ht
      rcases Nat.lt_succ_iff_lt_or_eq.mp ht with ht | rfl
      · exact hF.octets_range hR g' hg' t ht
      · exact (hDraw hR).1.range (by decide)
    · rw [Function.update_of_ne hgg] at ht
      exact hF.octets_range hR g' hg' t ht

/-- **Run of one group's loop.** It ends with the group full. -/
theorem fillGroup_fills {manager : VMTDDeviceManager} {mem : Nat → List Nat} {rest rest' : List Nat}
    {engine engine' : VMTDEngine} {g : Nat}
    (hBase : ∀ b ∈ manager.participants, b.interface1 = {})
    (hF : Filling settings draws manager mem rest engine)
    (hg : g < draws.groupCount)
    (hLe : (mem g).length ≤ sizeOf draws manager.participants.length g)
    (h : fillGroup settings draws g rest engine = some (rest', engine')) :
    ∃ mem', Filling settings draws manager mem' rest' engine' ∧
      (mem' g).length = sizeOf draws manager.participants.length g ∧
      ∀ g', g' ≠ g → mem' g' = mem g' := by
  induction rest generalizing mem engine with
  | nil =>
    rw [fillGroup] at h
    obtain ⟨group, hGroup, h⟩ := Option.bind_eq_some_iff.mp h
    rw [hF.getElem?_groups hg] at hGroup
    obtain rfl := Option.some_injective _ hGroup
    split at h
    · simp at h
    · rename_i hFull
      rw [Option.some_inj, Prod.mk.injEq] at h
      obtain ⟨rfl, rfl⟩ := h
      refine ⟨mem, hF, ?_, fun _ _ => rfl⟩
      rw [canAddParticipant_filledGroup] at hFull
      omega
  | cons p rest ih =>
    by_cases hRoom : (mem g).length < sizeOf draws manager.participants.length g
    · obtain ⟨engine₁, hF₁, h₁⟩ := fillGroup_seat hBase hF hg hRoom h
      obtain ⟨mem', hF', hLength, hOthers⟩ := ih hF₁ (by simp; omega) h₁
      refine ⟨mem', hF', hLength, fun g' hg' => ?_⟩
      rw [hOthers g' hg', Function.update_of_ne hg']
    · rw [fillGroup] at h
      obtain ⟨group, hGroup, h⟩ := Option.bind_eq_some_iff.mp h
      rw [hF.getElem?_groups hg] at hGroup
      obtain rfl := Option.some_injective _ hGroup
      rw [if_neg (fun hCan => hRoom (canAddParticipant_filledGroup.mp hCan)), Option.some_inj,
        Prod.mk.injEq] at h
      obtain ⟨rfl, rfl⟩ := h
      exact ⟨mem, hF, by omega, fun _ _ => rfl⟩

/-- **Run over the groups.** Each group of the order ends full. -/
theorem fillGroups_fill {manager : VMTDDeviceManager} {mem : Nat → List Nat}
    {order rest : List Nat} {engine engine' : VMTDEngine}
    (hBase : ∀ b ∈ manager.participants, b.interface1 = {})
    (hF : Filling settings draws manager mem rest engine)
    (hOrder : order.Nodup) (hEmpty : ∀ g ∈ order, g < draws.groupCount ∧ mem g = [])
    (h : fillGroups settings draws order rest engine = some engine') :
    ∃ mem' rest', Filling settings draws manager mem' rest' engine' ∧
      (∀ g ∈ order, (mem' g).length = sizeOf draws manager.participants.length g) ∧
      ∀ g, g ∉ order → mem' g = mem g := by
  induction order generalizing mem rest engine with
  | nil =>
    obtain rfl := Option.some_injective _ h
    exact ⟨mem, rest, hF, by simp, fun _ _ => rfl⟩
  | cons g order ih =>
    obtain ⟨hgOrder, hOrder⟩ := List.nodup_cons.mp hOrder
    obtain ⟨hg, hMem⟩ := hEmpty g List.mem_cons_self
    rw [fillGroups] at h
    obtain ⟨⟨rest₁, engine₁⟩, hFirst, h⟩ := Option.bind_eq_some_iff.mp h
    obtain ⟨mem₁, hF₁, hLength, hSame⟩ := fillGroup_fills hBase hF hg (by simp [hMem]) hFirst
    have hEmpty₁ : ∀ g' ∈ order, g' < draws.groupCount ∧ mem₁ g' = [] := by
      intro g' hg'
      obtain ⟨hlt, hNil⟩ := hEmpty g' (List.mem_cons_of_mem _ hg')
      have hne : g' ≠ g := fun hEq => hgOrder (hEq ▸ hg')
      exact ⟨hlt, by rw [hSame g' hne, hNil]⟩
    obtain ⟨mem', rest', hF', hLengths, hSame'⟩ := ih hF₁ hOrder hEmpty₁ h
    refine ⟨mem', rest', hF', ?_, ?_⟩
    · intro g' hg'
      rcases List.mem_cons.mp hg' with rfl | hg'
      · rw [hSame' g' hgOrder, hLength]
      · exact hLengths g' hg'
    · intro g' hg'
      rw [hSame' g' fun hIn => hg' (List.mem_cons_of_mem _ hIn),
        hSame g' fun hEq => hg' (hEq ▸ List.mem_cons_self)]

/-- The number of members of group `i` out of `k`. -/
def capacity (k size i : Nat) : Nat := size / k + if i = 0 then size % k else 0

/-- The sizes of the groups add up. -/
theorem sum_capacity {k size : Nat} (hPos : 0 < k) :
    ((List.range k).map (capacity k size)).sum = size := by
  obtain ⟨m, hm⟩ := Nat.exists_eq_add_of_lt hPos
  rw [Nat.zero_add] at hm
  have hTail : (List.range m).map (capacity k size ∘ Nat.succ) =
      List.replicate m (size / k) := by
    rw [List.eq_replicate_iff]
    refine ⟨by simp, fun x hx => ?_⟩
    obtain ⟨i, _, rfl⟩ := List.mem_map.mp hx
    simp [capacity]
  have hHead : capacity k size 0 = size / k + size % k := by simp [capacity]
  have hRange : List.range k = 0 :: (List.range m).map Nat.succ := by
    rw [hm, List.range_succ_eq_map]
  calc ((List.range k).map (capacity k size)).sum
      = capacity k size 0 + ((List.range m).map (capacity k size ∘ Nat.succ)).sum := by
        rw [hRange, List.map_cons, List.map_map, List.sum_cons]
    _ = (size / k + size % k) + m * (size / k) := by
        rw [hTail, hHead, List.sum_replicate_nat]
    _ = (m + 1) * (size / k) + size % k := by ring
    _ = size := by rw [← hm, Nat.div_add_mod size k]

theorem sum_sizeOf {size : Nat} (hPos : 0 < draws.groupCount) :
    ((List.range draws.groupCount).map (sizeOf draws size)).sum = size :=
  sum_capacity hPos

/-- Once every group is full, nobody waits. -/
theorem Filling.rest_eq_nil {manager : VMTDDeviceManager} {mem : Nat → List Nat}
    {rest : List Nat} {engine : VMTDEngine}
    (hF : Filling settings draws manager mem rest engine) (hPos : 0 < draws.groupCount)
    (hLength : ∀ g < draws.groupCount,
      (mem g).length = sizeOf draws manager.participants.length g) : rest = [] := by
  have hTotal := hF.conserved.length_eq
  have hSum : (List.range draws.groupCount).map (fun g => (mem g).length) =
      (List.range draws.groupCount).map (sizeOf draws manager.participants.length) :=
    Indexed.map_range_congr hLength
  rw [List.length_append, List.length_flatMap, List.length_range, hSum, sum_sizeOf hPos] at hTotal
  exact List.length_eq_zero_iff.mp (by omega)

-- ---------------------------------------------------------------------------
-- The layout
-- ---------------------------------------------------------------------------

/-- The group a participant is a member of. -/
def homeOf (k : Nat) (mem : Nat → List Nat) (p : Nat) : Nat :=
  ((List.range k).find? fun g => decide (p ∈ mem g)).getD 0

/-- Its place there. -/
def seatOf (k : Nat) (mem : Nat → List Nat) (p : Nat) : Nat := (mem (homeOf k mem p)).idxOf p

/-- If the members of the groups are a rearrangement of the participants, each
participant is in one place. -/
theorem members_iff_of_perm {k n : Nat} {mem : Nat → List Nat}
    (hPerm : ((List.range k).flatMap mem).Perm (List.range n)) {g : Nat} (hg : g < k) (t p : Nat) :
    (mem g)[t]? = some p ↔ p < n ∧ homeOf k mem p = g ∧ seatOf k mem p = t := by
  have hNodup := hPerm.nodup_iff.mpr List.nodup_range
  obtain ⟨hEach, hDisj⟩ := List.nodup_flatMap.mp hNodup
  have hMemHome : ∀ g' < k, p ∈ mem g' → homeOf k mem p = g' := by
    intro g' hg' hp
    cases hFind : (List.range k).find? fun g => decide (p ∈ mem g) with
    | none =>
      have := List.find?_eq_none.mp hFind g' (List.mem_range.mpr hg')
      exact absurd (decide_eq_true hp) this
    | some g'' =>
      have hp'' : p ∈ mem g'' := by simpa using List.find?_some hFind
      have hg'' : g'' ∈ List.range k := List.mem_of_find?_eq_some hFind
      rw [homeOf, hFind, Option.getD_some]
      by_contra hne
      have hSym : Std.Symm (fun a b => Function.onFun List.Disjoint mem a b) :=
        ⟨fun a b h => List.Disjoint.symm h⟩
      exact hDisj.forall hg'' (List.mem_range.mpr hg') hne hp'' hp
  constructor
  · intro ht
    have hp : p ∈ mem g := List.mem_of_getElem? ht
    have hHome := hMemHome g hg hp
    refine ⟨?_, hHome, ?_⟩
    · rw [← List.mem_range, ← hPerm.mem_iff]
      exact List.mem_flatMap.mpr ⟨g, List.mem_range.mpr hg, hp⟩
    · rw [seatOf, hHome]
      obtain ⟨htLen, hEq⟩ := List.getElem?_eq_some_iff.mp ht
      rw [← hEq]
      exact (hEach g (List.mem_range.mpr hg)).idxOf_getElem t htLen
  · rintro ⟨hp, rfl, rfl⟩
    rw [← List.mem_range, ← hPerm.mem_iff] at hp
    obtain ⟨g', hg', hpg⟩ := List.mem_flatMap.mp hp
    have hHome := hMemHome g' (List.mem_range.mp hg') hpg
    have hIn : p ∈ mem (homeOf k mem p) := by rw [hHome]; exact hpg
    exact List.getElem?_idxOf hIn

theorem homeOf_lt_of_perm {k n : Nat} {mem : Nat → List Nat}
    (hPerm : ((List.range k).flatMap mem).Perm (List.range n)) {p : Nat} (hp : p < n) :
    homeOf k mem p < k := by
  rw [← List.mem_range, ← hPerm.mem_iff] at hp
  obtain ⟨g, hg, hpg⟩ := List.mem_flatMap.mp hp
  obtain ⟨t, ht⟩ := List.mem_iff_getElem?.mp hpg
  obtain ⟨-, hHome, -⟩ := (members_iff_of_perm hPerm (List.mem_range.mp hg) t p).mp ht
  rw [hHome]
  exact List.mem_range.mp hg

/-- A draw of the number of groups. -/
theorem groupCount_bounds {size k : Nat} (hSize : 2 ≤ size) (h : Bounded 2 size k) :
    2 ≤ k ∧ k < 2 ^ 31 ∧ size < 2 ^ 31 := by
  have hHigh := h.value_int.2
  have hHigh' := h.highest_int.2
  rcases Nat.lt_or_eq_of_le hSize with hlt | hEq
  · have := h.range (by exact_mod_cast hlt)
    omega
  · have := h.single (by exact_mod_cast hEq)
    omega

theorem shuffleIf_perm {shouldRandomize : Bool} {items shuffled result : List Nat}
    (h : shuffleIf shouldRandomize items shuffled = some result) : result.Perm items := by
  unfold shuffleIf at h
  split at h
  · split at h
    · rename_i hPerm
      exact Option.some_injective _ h ▸ hPerm
    · simp at h
  · exact Option.some_injective _ h ▸ List.Perm.refl _

/-- VLANs drawn without repetition, or counted up, are different. -/
theorem vlanIdOf_inj (hSmall : draws.groupCount < 2 ^ 31)
    (hDrawn : settings.shouldRandomizeVlan = true →
      ((List.range draws.groupCount).map (vlanIdOf settings draws)).Nodup) :
    ∀ g < draws.groupCount, ∀ g' < draws.groupCount,
      vlanIdOf settings draws g = vlanIdOf settings draws g' → g = g' := by
  cases hR : settings.shouldRandomizeVlan with
  | true => exact inj_of_nodup_map_range (hDrawn hR)
  | false =>
    intro g hg g' hg' hEq
    simp only [vlanIdOf, hR, Bool.false_eq_true, if_false] at hEq
    exact bmod_consecutive_inj _ (by omega) (by omega) hEq

/-- A network has its VLAN for an octet unless octets are drawn. -/
theorem octet3Of_inj
    (hVlan : ∀ g < draws.groupCount, ∀ g' < draws.groupCount,
      vlanIdOf settings draws g = vlanIdOf settings draws g' → g = g')
    (hDrawn : settings.shouldRandomizeNetwork = true →
      ((List.range draws.groupCount).map (octet3Of settings draws)).Nodup) :
    ∀ g < draws.groupCount, ∀ g' < draws.groupCount,
      octet3Of settings draws g = octet3Of settings draws g' → g = g' := by
  cases hR : settings.shouldRandomizeNetwork with
  | true => exact inj_of_nodup_map_range (hDrawn hR)
  | false =>
    intro g hg g' hg' hEq
    simp only [octet3Of, hR, Bool.false_eq_true, if_false] at hEq
    exact hVlan g hg g' hg' hEq

/-- Octets of members are their places unless they are drawn. -/
theorem octet4Of_inj {g m : Nat}
    (hDrawn : settings.shouldRandomizeNetwork = true →
      ((List.range m).map (octet4Of settings draws g)).Nodup) :
    ∀ t < m, ∀ u < m, octet4Of settings draws g t = octet4Of settings draws g u → t = u := by
  cases hR : settings.shouldRandomizeNetwork with
  | true => exact inj_of_nodup_map_range (hDrawn hR)
  | false =>
    intro t _ u _ hEq
    simp only [octet4Of, hR, Bool.false_eq_true, if_false] at hEq
    omega

/-- What `createGroups` has done: the loop that draws the groups, the orders, and
the loop that fills the groups in. -/
theorem createGroups_steps {engine engine' : VMTDEngine}
    (h : createGroups settings draws engine = some engine') :
    Bounded 2 engine.participants.length draws.groupCount ∧
      ∃ groups vlanIds octets3 participants order,
        (List.range draws.groupCount).foldlM
            (createGroup settings draws engine.participants.length) ([], [], []) =
          some (groups, vlanIds, octets3) ∧
        shuffleIf settings.shouldRandomizeParticipant (List.range engine.participants.length)
            draws.participants = some participants ∧
        shuffleIf settings.shouldRandomizeParticipant (List.range draws.groupCount) draws.groups =
          some order ∧
        fillGroups settings draws order participants { engine with groups := groups } =
          some engine' := by
  unfold createGroups at h
  dsimp only at h
  split at h
  case isFalse => cases h
  rename_i hCount
  obtain ⟨⟨groups, vlanIds, octets3⟩, hLoop, h⟩ := Option.bind_eq_some_iff.mp h
  obtain ⟨participants, hParticipants, h⟩ := Option.bind_eq_some_iff.mp h
  obtain ⟨order, hOrder, h⟩ := Option.bind_eq_some_iff.mp h
  exact ⟨hCount, groups, vlanIds, octets3, participants, order, hLoop, hParticipants, hOrder, h⟩

/-- **`createGroups` refines a layout.** -/
theorem createGroups_refines {engine engine' : VMTDEngine}
    (hBase : ∀ b ∈ engine.participants, b.interface1 = {})
    (hTwo : 2 ≤ engine.participants.length)
    (h : createGroups settings draws engine = some engine') :
    ∃ L : Layout engine.participants.length, L.Follows settings draws ∧
      engine'.manager =
        { engine.manager with participants := engine.participants.mapIdx L.participant } ∧
      engine'.groups = (List.range L.groupCount).map L.group := by
  obtain ⟨hCount, groups, vlanIds, octets3, participants, order, hLoop, hParticipants, hOrder, h⟩ :=
    createGroups_steps h
  obtain ⟨hTwoGroups, hSmall, hSizeLt⟩ := groupCount_bounds hTwo hCount
  obtain ⟨rfl, -, hVlanInt, hVlanNodup, hNet⟩ := createGroups_loop hLoop
  have hOrderPerm := shuffleIf_perm hOrder
  -- before the loop nobody is seated
  have hStart : Filling settings draws engine.manager (fun _ => []) participants
      { engine with
        groups := (List.range draws.groupCount).map
          (emptyGroup settings draws engine.participants.length) } := by
    refine ⟨rfl, rfl, rfl, by simp, fun _ _ => rfl, ?_, by simp, by simp⟩
    have hNil : (List.range draws.groupCount).flatMap (fun _ => ([] : List Nat)) = [] := by simp
    rw [hNil, List.nil_append]
    exact shuffleIf_perm hParticipants
  obtain ⟨mem, rest, hF, hLengths, -⟩ := fillGroups_fill hBase hStart
    (hOrderPerm.nodup_iff.mpr List.nodup_range)
    (fun g hg => ⟨List.mem_range.mp (hOrderPerm.mem_iff.mp hg), rfl⟩) h
  have hLength : ∀ g < draws.groupCount,
      (mem g).length = sizeOf draws engine.participants.length g :=
    fun g hg => hLengths g (hOrderPerm.mem_iff.mpr (List.mem_range.mpr hg))
  obtain rfl := hF.rest_eq_nil (by omega) hLength
  have hPerm : ((List.range draws.groupCount).flatMap mem).Perm
      (List.range engine.participants.length) := by
    have hAll := hF.conserved
    rwa [List.append_nil] at hAll
  have hMembers : ∀ g < draws.groupCount, ∀ t p, (mem g)[t]? = some p ↔
      p < engine.participants.length ∧ homeOf draws.groupCount mem p = g ∧
        seatOf draws.groupCount mem p = t :=
    fun g hg t p => members_iff_of_perm hPerm hg t p
  have hVlanInj := vlanIdOf_inj hSmall hVlanNodup
  let L : Layout engine.participants.length := {
    groupCount := draws.groupCount
    home := homeOf draws.groupCount mem
    seat := seatOf draws.groupCount mem
    members := mem
    vlanId := vlanIdOf settings draws
    octet3 := octet3Of settings draws
    octet4 := octet4Of settings draws
    two_le_groupCount := hTwoGroups
    members_iff := hMembers
    vlanId_int := hVlanInt
    vlanId_inj := hVlanInj
    home_lt := fun p hp => homeOf_lt_of_perm hPerm hp
    octet3_inj := octet3Of_inj hVlanInj fun hR => (hNet hR).2.1
    octet4_inj := fun g hg => octet4Of_inj fun hR => hF.octets_nodup hR g hg }
  refine ⟨L, ⟨rfl, rfl, rfl, rfl, hLength, hSizeLt, fun hR => (hNet hR).2.2, hF.octets_range⟩,
    ?_, ?_⟩
  · rw [hF.manager_eq]
    refine congrArg (fun ps => { engine.manager with participants := ps }) ?_
    refine List.ext_getElem? fun p => ?_
    rw [List.getElem?_mapIdx]
    rcases Nat.lt_or_ge p engine.participants.length with hp | hp
    · have hHome : homeOf draws.groupCount mem p < draws.groupCount := L.home_lt p hp
      exact hF.seated _ hHome _ p ((hMembers _ hHome _ p).mpr ⟨hp, rfl, rfl⟩)
    · have hLen : engine'.participants.length = engine.participants.length := hF.length_eq
      rw [List.getElem?_eq_none (by omega), List.getElem?_eq_none hp]
      rfl
  · rw [hF.groups_eq]
    refine Indexed.map_range_congr fun g hg => ?_
    have hSize := hLength g hg
    simp only [filledGroup, emptyGroup, Layout.group, L, hSize]
    rfl

end VxlanMtd
