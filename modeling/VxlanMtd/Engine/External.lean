import VxlanMtd.Engine.RouteTables
import VxlanMtd.Engine.Identifiers
import VxlanMtd.Lib.Arrival

/-!
# The networks behind Node-1 and Node-10

Packets for 100.100.17.0/24 are to arrive at the host Node-1, packets for
100.100.18.0/24 at Node-10. Every gateway passes them on to the previous or the
next one, except the two hosts themselves when they are gateways. Which members
of their groups become gateways, and in which order, does not depend on their
names.

* `hop_iff` — a packet goes to the holder of the key in `Plan.via`;
* `Plan.arrives_iff` — all packets arrive when the links are free and everybody
  but the destination can pass them on;
* **`externalsReachable_iff`** — which is so exactly when the ends of the chain
  are Node-1 and Node-10 and the octets on the way fit (`ExternalsRouted`).
-/

namespace VxlanMtd

open Forwarding Arrival

-- addresses are opaque here; unfolding them would make Lean render templates
attribute [local irreducible] networkText macText PlaceMarker.arg

/-- The networks outside. -/
inductive External where
  | behindNode1
  | behindNode10

namespace External

/-- The third octet of the network. -/
def octet3 : External → Int
  | behindNode1 => 17
  | behindNode10 => 18

/-- The host the network is behind. -/
def hostName : External → String
  | behindNode1 => "Node-1"
  | behindNode10 => "Node-10"

theorem isOctet (e : External) : IsOctet e.octet3 := by
  cases e <;> decide

end External

/-- A packet may go from `p` to `p'`: the table of `p` has a row for it, and
`p'` answers to where that row sends it. -/
def VMTDEngine.Hop (engine : VMTDEngine) (dest p p' : Nat) : Prop :=
  ∃ q q' row, engine.participants[p]? = some q ∧ engine.participants[p']? = some q' ∧
    lookup q.table dest = some row ∧ q.reaches q' (row.gateway.getD dest) = true

/-- Every packet for one of the networks arrives at the host it is behind,
whoever sends it. -/
def ExternalsReachable (engine : VMTDEngine) : Prop :=
  ∀ (e : External) (node : Nat) (r : VMTDParticipant), engine.participants[node]? = some r →
    r.hostName = e.hostName → ∀ p < engine.participants.length, ∀ x, IsOctet x →
      Delivered (engine.Hop (addressOf e.octet3 x)) node p

namespace Plan

-- ---------------------------------------------------------------------------
-- Where packets are sent
-- ---------------------------------------------------------------------------

variable {n : Nat} (π : Plan n)

/-- The text of a key's address. -/
def keyIp (k : Nat × Int) : String := networkText (π.octet3 k.1) k.2

/-- Both octets of a key fit. -/
def Readable (k : Nat × Int) : Prop := IsOctet (π.octet3 k.1) ∧ IsOctet k.2

instance (k : Nat × Int) : Decidable (π.Readable k) := inferInstanceAs (Decidable (_ ∧ _))

/-- The groups in the order their gateways pass the packets on. -/
def way : External → List Nat
  | .behindNode1 => π.chain.reverse
  | .behindNode10 => π.chain

/-- The participant without a route to the network. -/
def exempt : External → Option Nat
  | .behindNode1 => π.node1
  | .behindNode10 => π.node10

/-- The key by which the gateway of group `g` knows that of `h`, the next one
on the way. -/
def doorKey : External → Nat → Nat → Nat × Int
  | .behindNode1, _, h => π.homeKey (π.gateway h)
  | .behindNode10, g, _ => π.linkKey g

/-- Whom a participant sends the packets to. -/
def via (e : External) (p : Nat) : Option (Nat × Int) :=
  if p = π.gateway (π.home p) then
    if some p ≠ π.exempt e then
      (Chain.after (π.way e) (π.home p)).head?.map (π.doorKey e (π.home p))
    else none
  else some (π.homeKey (π.gateway (π.home p)))

/-- The route by which it does. -/
def viaRoute (e : External) (p : Nat) : Option VMTDRoute :=
  (π.via e p).map fun k =>
    if p = π.gateway (π.home p) then ⟨networkText e.octet3 0, 24, π.keyIp k, 100⟩
    else ⟨networkText 0 0, 16, π.keyIp k, 100⟩

/-- The row of that route, when it goes to `k`. -/
def viaRow (e : External) (p : Nat) (k : Nat × Int) : Entry :=
  if p = π.gateway (π.home p) then ⟨addressOf e.octet3 0, 24, some (π.keyAddress k)⟩
  else ⟨addressOf 0 0, 16, some (π.keyAddress k)⟩

/-- `p` has an address beside the key it sends the packets to, and `p'` has
that key. -/
def Passes (e : External) (p p' : Nat) : Prop :=
  p < n ∧ p' < n ∧ ∃ k, π.via e p = some k ∧ π.Readable k ∧ k ∈ π.keys p' ∧
    ∃ k' ∈ π.keys p, k'.1 = k.1 ∧ π.Readable k'

variable {π} {p q g : Nat} {k k' : Nat × Int} {route : VMTDRoute} {e : External} {x : Int}

@[simp] theorem gateway_viaRow : (π.viaRow e p k).gateway = some (π.keyAddress k) := by
  unfold viaRow
  split <;> rfl

theorem readAddress_keyIp (k : Nat × Int) :
    readAddress (π.keyIp k) = if π.Readable k then some (π.keyAddress k) else none :=
  readAddress_networkText _ _

theorem mem_forwardRoutes : route ∈ π.forwardRoutes p ↔
    (Chain.after π.chain (π.home p) ≠ [] ∧ some p ≠ π.node10 ∧
      route = ⟨"100.100.18.0", 24, π.linkIp (π.home p), 100⟩) ∨
    ∃ r ∈ Chain.after π.chain (π.home p), route = ⟨π.network r, 24, π.linkIp (π.home p), 100⟩ := by
  unfold forwardRoutes
  cases Chain.after π.chain (π.home p) with
  | nil => simp
  | cons h rest =>
    by_cases h10 : some p = π.node10 <;> simp [h10] <;> grind

theorem mem_backRoutes : route ∈ π.backRoutes p ↔
    ∃ h rest, Chain.before π.chain (π.home p) = h :: rest ∧
      ((some p ≠ π.node1 ∧ route = ⟨"100.100.17.0", 24, π.gatewayIp h, 100⟩) ∨
        ∃ r ∈ rest, route = ⟨π.network r, 24, π.gatewayIp h, 100⟩) := by
  unfold backRoutes
  cases Chain.before π.chain (π.home p) with
  | nil => simp
  | cons h rest =>
    by_cases h1 : some p = π.node1 <;> simp [h1] <;> grind

-- ---------------------------------------------------------------------------
-- Along the chain
-- ---------------------------------------------------------------------------

theorem way_nodup : (π.way e).Nodup := by
  cases e with
  | behindNode1 => exact List.nodup_reverse.mpr chain_nodup
  | behindNode10 => exact chain_nodup

theorem mem_way : g ∈ π.way e ↔ g < π.groupCount := by
  cases e with
  | behindNode1 => exact List.mem_reverse.trans mem_chain
  | behindNode10 => exact mem_chain

theorem via_gateway (hGateway : p = π.gateway (π.home p)) (hOther : some p ≠ π.exempt e)
    {h : Nat} {rest : List Nat} (hAfter : Chain.after (π.way e) (π.home p) = h :: rest) :
    π.via e p = some (π.doorKey e (π.home p) h) := by
  rw [via, if_pos hGateway, if_pos hOther, hAfter]
  rfl

/-- The door to the next group is held by its gateway. -/
theorem doorKey_mem (hg : g < π.groupCount) {h : Nat} {rest : List Nat}
    (hAfter : Chain.after (π.way e) g = h :: rest) :
    h < π.groupCount ∧ π.doorKey e g h ∈ π.keys (π.gateway h) := by
  have hIn : h ∈ π.way e := by
    have hMem : h ∈ Chain.after (π.way e) g := hAfter ▸ List.mem_cons_self
    exact ((Chain.mem_after_iff way_nodup (mem_way.mpr hg)).mp hMem).1
  refine ⟨mem_way.mp hIn, ?_⟩
  cases e with
  | behindNode1 => exact homeKey_mem
  | behindNode10 => exact linkKey_mem (linkedGroup_gateway hg hAfter).2.2

/-- The hops a packet still needs. -/
def hops {n : Nat} (π : Plan n) (e : External) (p : Nat) : Nat :=
  (Chain.after (π.way e) (π.home p)).length + if p = π.gateway (π.home p) then 0 else 1

/-- **Packets are sent to a gateway that is one hop closer.** -/
theorem exists_holder (hp : p < n) (hVia : π.via e p = some k) :
    ∃ q < n, k ∈ π.keys q ∧ π.hops e q < π.hops e p := by
  have hHome := π.home_lt p hp
  have hHops : ∀ g < π.groupCount,
      π.hops e (π.gateway g) = (Chain.after (π.way e) g).length := by
    intro g hg
    rw [hops, π.home_gateway g hg, if_pos rfl, Nat.add_zero]
  by_cases hGateway : p = π.gateway (π.home p)
  · rw [via, if_pos hGateway] at hVia
    split at hVia
    case isFalse => cases hVia
    obtain ⟨h, hHead, rfl⟩ := Option.map_eq_some_iff.mp hVia
    obtain ⟨rest, hAfter⟩ := List.head?_eq_some_iff.mp hHead
    obtain ⟨hh, hMem⟩ := doorKey_mem hHome hAfter
    refine ⟨π.gateway h, π.gateway_lt h hh, hMem, ?_⟩
    rw [hHops h hh, Chain.after_after_head way_nodup (mem_way.mpr hHome) hAfter, hops, hAfter,
      if_pos hGateway, List.length_cons]
    omega
  · rw [via, if_neg hGateway] at hVia
    refine ⟨π.gateway (π.home p), π.gateway_lt _ hHome, ?_, ?_⟩
    · rw [← Option.some_inj.mp hVia]
      exact homeKey_mem
    · rw [hHops _ hHome, hops, if_neg hGateway]
      exact Nat.lt_succ_self _

-- ---------------------------------------------------------------------------
-- Arrival
-- ---------------------------------------------------------------------------

/-- Every holder of the key gets the packet. -/
theorem Passes.of_mem {r : Nat} (h : π.Passes e p q) (hr : r < n) (hVia : π.via e p = some k)
    (hk : k ∈ π.keys r) : π.Passes e p r := by
  obtain ⟨hp, -, k', hVia', hRead, -, hBeside⟩ := h
  rw [hVia, Option.some_inj] at hVia'
  rw [← hVia'] at hRead hBeside
  exact ⟨hp, hr, k, hVia, hRead, hk, hBeside⟩

/-- With free links, packets that everybody else can pass on arrive. -/
theorem arrives_of_passes {t : Nat} (hFree : π.LinksFree)
    (hPass : ∀ p < n, p ≠ t → ∃ q, π.Passes e p q) (hp : p < n) : Arrives (π.Passes e) t p := by
  refine @arrives_of_rank _ _ t p (· < n) (π.hops e) (fun p hp hOther => ?_) hp
  refine ⟨hPass p hp hOther, fun q hPasses => ?_⟩
  obtain ⟨-, hq, k, hVia, -, hk, -⟩ := hPasses
  obtain ⟨holder, hHolder, hkHolder, hLower⟩ := exists_holder hp hVia
  have hSame : q = holder := by
    by_contra hne
    exact keys_disjoint hFree hq hHolder hne hk hkHolder
  exact ⟨hq, hSame ▸ hLower⟩

/-- Whoever cannot pass packets on is the destination: the last gateway. -/
theorem last_of_passes {t : Nat} (hPass : ∀ p < n, p ≠ t → ∃ q, π.Passes e p q) :
    (π.way e).getLast?.map π.gateway = some t := by
  have hNonempty : π.way e ≠ [] := by
    have hZero : 0 ∈ π.way e := mem_way.mpr (by have := π.two_le_groupCount; omega)
    exact List.ne_nil_of_mem hZero
  obtain ⟨g, hLast⟩ : ∃ g, (π.way e).getLast? = some g :=
    ⟨_, List.getLast?_eq_some_getLast hNonempty⟩
  have hg : g < π.groupCount := mem_way.mp (List.mem_of_getLast? hLast)
  have hNil := (Chain.after_eq_nil_iff way_nodup (mem_way.mpr hg)).mpr hLast
  rw [hLast, Option.map_some, Option.some_inj]
  by_contra hOther
  obtain ⟨q, -, -, k, hVia, -⟩ := hPass _ (π.gateway_lt g hg) hOther
  rw [via, π.home_gateway g hg, if_pos rfl, hNil] at hVia
  simp at hVia

/-- Only the last gateway has nobody to send packets to. -/
theorem exists_next {t : Nat} (hExempt : π.exempt e = some t)
    (hLast : (π.way e).getLast?.map π.gateway = some t) (hg : g < π.groupCount)
    (hOther : π.gateway g ≠ t) : ∃ h rest, Chain.after (π.way e) g = h :: rest ∧
      π.via e (π.gateway g) = some (π.doorKey e g h) := by
  have hNext : Chain.after (π.way e) g ≠ [] := by
    intro hNil
    rw [(Chain.after_eq_nil_iff way_nodup (mem_way.mpr hg)).mp hNil, Option.map_some,
      Option.some_inj] at hLast
    exact hOther hLast
  obtain ⟨h, rest, hAfter⟩ := List.exists_cons_of_ne_nil hNext
  have hHome := π.home_gateway g hg
  refine ⟨h, rest, hAfter, ?_⟩
  have hVia := @via_gateway _ π (π.gateway g) e (by rw [hHome])
    (by rw [hExempt, ne_eq, Option.some_inj]; exact hOther) h rest (by rw [hHome]; exact hAfter)
  rwa [hHome] at hVia

/-- The last gateway is in no other group. -/
theorem ne_last {t : Nat} (hLast : (π.way e).getLast?.map π.gateway = some t)
    (hAfter : Chain.after (π.way e) (π.home p) ≠ []) : p ≠ t := by
  rintro rfl
  obtain ⟨l, hl, hGateway⟩ := Option.map_eq_some_iff.mp hLast
  have hlLt : l < π.groupCount := mem_way.mp (List.mem_of_getLast? hl)
  rw [← hGateway, π.home_gateway l hlLt] at hAfter
  exact hAfter ((Chain.after_eq_nil_iff way_nodup (mem_way.mpr hlLt)).mpr hl)

/-- A link that a member of its group shares sends packets back. -/
theorem linksFree_of_arrives {t : Nat} (hExempt : π.exempt .behindNode10 = some t)
    (hArrives : ∀ p < n, Arrives (π.Passes .behindNode10) t p) : π.LinksFree := by
  have hPass : ∀ p < n, p ≠ t → ∃ q, π.Passes .behindNode10 p q :=
    fun p hp hOther => (hArrives p hp).exists_hop hOther
  have hLast := last_of_passes hPass
  intro g hg hAfter s hs hEq
  -- the destination is in the last group
  have hElsewhere : ∀ p, π.home p = g → p ≠ t := by
    rintro p rfl
    exact ne_last hLast hAfter
  have hHome := π.home_gateway g hg
  have ha := π.gateway_lt g hg
  obtain ⟨h, rest, -, hVia⟩ := exists_next hExempt hLast hg (hElsewhere _ hHome)
  obtain ⟨m, hm⟩ : ∃ m, (π.members g)[s]? = some m := ⟨_, List.getElem?_eq_getElem hs⟩
  obtain ⟨hmLt, hmHome, hmSeat⟩ := (π.members_iff g hg s m).mp hm
  have hShared : π.linkKey g ∈ π.keys m := by
    rw [linkKey, ← hEq]
    have hMem := @homeKey_mem _ π m
    rwa [homeKey, hmHome, hmSeat] at hMem
  obtain ⟨q, hPasses⟩ := hPass _ ha (hElsewhere _ hHome)
  have hThere : π.Passes .behindNode10 (π.gateway g) m := hPasses.of_mem hmLt hVia hShared
  by_cases hGateway : m = π.gateway (π.home m)
  · rw [hmHome] at hGateway
    rw [hGateway] at hThere
    exact not_arrives_of_cycle (hElsewhere _ hHome) (hElsewhere _ hHome) hThere hThere
      (hArrives _ ha)
  · obtain ⟨q', hPasses'⟩ := hPass m hmLt (hElsewhere m hmHome)
    have hViaMember : π.via .behindNode10 m = some (π.homeKey (π.gateway g)) := by
      rw [via, if_neg hGateway, hmHome]
    have hBack : π.Passes .behindNode10 m (π.gateway g) :=
      hPasses'.of_mem ha hViaMember homeKey_mem
    exact not_arrives_of_cycle (hElsewhere _ hHome) (hElsewhere m hmHome) hThere hBack
      (hArrives _ ha)

/-- **When all packets arrive.** -/
theorem arrives_iff {t : External → Nat} (hExempt : ∀ e, π.exempt e = some (t e)) :
    (∀ e, ∀ p < n, Arrives (π.Passes e) (t e) p) ↔
      π.LinksFree ∧ ∀ e, ∀ p < n, p ≠ t e → ∃ q, π.Passes e p q := by
  constructor
  · intro hArrives
    exact ⟨linksFree_of_arrives (hExempt .behindNode10) (hArrives .behindNode10),
      fun e p hp hOther => (hArrives e p hp).exists_hop hOther⟩
  · rintro ⟨hFree, hPass⟩ e p hp
    exact arrives_of_passes hFree (hPass e) hp

-- ---------------------------------------------------------------------------
-- Who can pass packets on
-- ---------------------------------------------------------------------------

theorem exists_passes (hp : p < n) (hVia : π.via e p = some k) (hRead : π.Readable k)
    (hk' : k' ∈ π.keys p) (hGroup : k'.1 = k.1) (hRead' : π.Readable k') :
    ∃ q, π.Passes e p q := by
  obtain ⟨q, hq, hk, -⟩ := exists_holder hp hVia
  exact ⟨q, hp, hq, k, hVia, hRead, hk, k', hk', hGroup, hRead'⟩

theorem eq_homeKey (hp : p < n) (hk : k ∈ π.keys p) (hGroup : k.1 = π.home p) :
    k = π.homeKey p := by
  rcases mem_keys.mp hk with rfl | ⟨h, hLink, rfl⟩
  · rfl
  · exact absurd hGroup (linkedGroup_eq_some hp hLink).2.1

/-- A group of one member. -/
theorem members_eq_singleton_iff (hp : p < n) :
    π.members (π.home p) = [p] ↔ ∀ m < n, π.home m = π.home p → m = p := by
  have hHome := π.home_lt p hp
  constructor
  · intro hAlone m hm hSame
    have hMem := (Layout.mem_members hHome).mpr ⟨hm, hSame⟩
    rw [hAlone] at hMem
    exact List.mem_singleton.mp hMem
  · intro hAlone
    refine List.perm_singleton.mp ((List.perm_ext_iff_of_nodup (Layout.members_nodup hHome)
      (List.nodup_singleton p)).mpr fun m => ?_)
    rw [Layout.mem_members hHome, List.mem_singleton]
    refine ⟨fun hm => hAlone m hm.1 hm.2, ?_⟩
    rintro rfl
    exact ⟨hp, rfl⟩

/-- **When everybody can pass packets on**: the ends of the chain are the
destinations, and the addresses on the way fit. A last gateway without other
members sends and gets nothing at the address in its own group. -/
theorem passes_iff {t : External → Nat} (hExempt : ∀ e, π.exempt e = some (t e)) :
    (∀ e, ∀ p < n, p ≠ t e → ∃ q, π.Passes e p q) ↔
      (∀ e, (π.way e).getLast?.map π.gateway = some (t e)) ∧
      (∀ p < n, π.members (π.home p) ≠ [t .behindNode10] → π.Readable (π.homeKey p)) ∧
      ∀ g < π.groupCount, Chain.after π.chain g ≠ [] → π.Readable (π.linkKey g) := by
  constructor
  · intro hPass
    have hLast : ∀ e, (π.way e).getLast?.map π.gateway = some (t e) :=
      fun e => last_of_passes (hPass e)
    have hDoor : ∀ p < n, p ≠ t .behindNode10 → ∃ k, π.via .behindNode10 p = some k ∧
        π.Readable k ∧ ∃ k' ∈ π.keys p, k'.1 = k.1 ∧ π.Readable k' := by
      intro p hp hOther
      obtain ⟨q, -, -, k, hVia, hRead, -, hBeside⟩ := hPass .behindNode10 p hp hOther
      exact ⟨k, hVia, hRead, hBeside⟩
    refine ⟨hLast, fun p hp hMany => ?_, fun g hg hAfter => ?_⟩
    · have hHome := π.home_lt p hp
      by_cases hTarget : p = t .behindNode10
      · -- another member sends its packets here
        obtain ⟨l, hl, hGateway⟩ := Option.map_eq_some_iff.mp (hLast .behindNode10)
        have hlLt : l < π.groupCount := mem_way.mp (List.mem_of_getLast? hl)
        have hl' : π.home p = l := by rw [hTarget, ← hGateway, π.home_gateway l hlLt]
        rw [← hTarget, ne_eq, members_eq_singleton_iff hp] at hMany
        push Not at hMany
        obtain ⟨m, hm, hSame, hOther⟩ := hMany
        have hPlain : m ≠ π.gateway (π.home m) := by
          rw [hSame, hl', hGateway, ← hTarget]
          exact hOther
        obtain ⟨k, hVia, hRead, -⟩ := hDoor m hm (hTarget ▸ hOther)
        rw [via, if_neg hPlain, Option.some_inj, hSame, hl', hGateway, ← hTarget] at hVia
        rwa [hVia]
      · obtain ⟨k, hVia, -, k', hk', hGroup, hRead'⟩ := hDoor p hp hTarget
        have hOwn : k.1 = π.home p := by
          rw [via] at hVia
          split at hVia
          · split at hVia
            case isFalse => cases hVia
            obtain ⟨h, -, rfl⟩ := Option.map_eq_some_iff.mp hVia
            rfl
          · rw [← Option.some_inj.mp hVia]
            exact π.home_gateway _ hHome
        rwa [eq_homeKey hp hk' (hGroup.trans hOwn)] at hRead'
    · have hHome := π.home_gateway g hg
      have hOther : π.gateway g ≠ t .behindNode10 :=
        ne_last (hLast .behindNode10) (by rw [hHome]; exact hAfter)
      obtain ⟨h, rest, -, hVia⟩ := exists_next (hExempt _) (hLast _) hg hOther
      obtain ⟨k, hVia', hRead, -⟩ := hDoor _ (π.gateway_lt g hg) hOther
      rw [hVia, Option.some_inj] at hVia'
      rwa [← hVia'] at hRead
  · rintro ⟨hLast, hHomeKey, hLinkKey⟩ e p hp hOther
    have hHome := π.home_lt p hp
    have hAlone : ∀ q < n, π.members (π.home q) = [t .behindNode10] → q = t .behindNode10 := by
      intro q hq hEq
      have hMem := (Layout.mem_members (π.home_lt q hq)).mpr ⟨hq, rfl⟩
      rw [hEq] at hMem
      exact List.mem_singleton.mp hMem
    by_cases hGateway : p = π.gateway (π.home p)
    · obtain ⟨h, rest, hAfter, hVia⟩ :=
        exists_next (hExempt e) (hLast e) hHome (by rwa [← hGateway])
      rw [← hGateway] at hVia
      cases e with
      | behindNode10 =>
        have hNext : Chain.after π.chain (π.home p) ≠ [] := hAfter ▸ List.cons_ne_nil _ _
        exact exists_passes hp hVia (hLinkKey _ hHome hNext) homeKey_mem rfl
          (hHomeKey p hp fun hEq => hOther (hAlone p hp hEq))
      | behindNode1 =>
        rw [way, ← Chain.before_eq_after_reverse chain_nodup (home_mem_chain hp)] at hAfter
        have hLink : π.linkedGroup p = some h := by
          rw [linkedGroup, if_pos hGateway, hAfter]
          rfl
        obtain ⟨hh, -, -, hBack⟩ := linkedGroup_eq_some hp hLink
        have hNext : Chain.after π.chain h ≠ [] := by
          intro hNil
          rw [hNil] at hBack
          simp at hBack
        have hNotLast : π.gateway h ≠ t .behindNode10 :=
          ne_last (hLast .behindNode10) (by rw [π.home_gateway h hh]; exact hNext)
        refine exists_passes hp hVia (hHomeKey _ (π.gateway_lt h hh) fun hEq => ?_)
          (linkKey_mem hLink) ?_ (hLinkKey h hh hNext)
        · exact hNotLast (hAlone _ (π.gateway_lt h hh) hEq)
        · exact (π.home_gateway h hh).symm
    · have hVia : π.via e p = some (π.homeKey (π.gateway (π.home p))) := by
        rw [via, if_neg hGateway]
      have hBoth := π.home_gateway _ hHome
      -- both are in this group
      have hMany : π.members (π.home p) ≠ [t .behindNode10] := by
        intro hEq
        have hGate := hAlone _ (π.gateway_lt _ hHome) (by rw [hBoth]; exact hEq)
        exact hGateway ((hAlone p hp hEq).trans hGate.symm)
      exact exists_passes hp hVia (hHomeKey _ (π.gateway_lt _ hHome) (by rwa [hBoth]))
        homeKey_mem hBoth.symm (hHomeKey p hp hMany)

-- ---------------------------------------------------------------------------
-- Tables
-- ---------------------------------------------------------------------------

variable {manager : VMTDDeviceManager} {π : Plan manager.participants.length}
  {b b' : VMTDParticipant}

theorem viaRoute_gateway (hGateway : p = π.gateway (π.home p)) (hOther : some p ≠ π.exempt e)
    {h : Nat} {rest : List Nat} (hAfter : Chain.after (π.way e) (π.home p) = h :: rest) :
    π.viaRoute e p =
      some ⟨networkText e.octet3 0, 24, π.keyIp (π.doorKey e (π.home p) h), 100⟩ := by
  rw [viaRoute, via_gateway hGateway hOther hAfter, Option.map_some, if_pos hGateway]

/-- A route goes the way of the packets, or to another network. -/
theorem route_cases (hReserved : ∀ g < π.groupCount, π.octet3 g ≠ e.octet3)
    (hp : p < manager.participants.length) (hRoute : route ∈ (π.participant p b).routes) :
    π.viaRoute e p = some route ∨
      ∃ o, o ≠ e.octet3 ∧ route.network = networkText o 0 ∧ route.mask = 24 := by
  have hHome := π.home_lt p hp
  have hGroup : ∀ {r : Nat} {gateway : String}, r < π.groupCount →
      ∃ o, o ≠ e.octet3 ∧ (⟨π.network r, 24, gateway, 100⟩ : VMTDRoute).network = networkText o 0 ∧
        (⟨π.network r, 24, gateway, 100⟩ : VMTDRoute).mask = 24 :=
    fun hr => ⟨_, hReserved _ hr, rfl, rfl⟩
  obtain ⟨⟨h17, -⟩, h18, -⟩ := octetNetwork_fixed.imp Prod.mk.inj Prod.mk.inj
  rw [VMTDParticipant.routes, interface1_participant hp, routes2_participant hp] at hRoute
  dsimp only [routes1] at hRoute
  by_cases hGateway : p = π.gateway (π.home p)
  · rw [if_pos hGateway, if_pos hGateway, List.mem_append, mem_forwardRoutes,
      mem_backRoutes] at hRoute
    rcases hRoute with (⟨hAfter, h10, rfl⟩ | ⟨r, hr, rfl⟩) | ⟨h, rest, hBefore, ⟨h1, rfl⟩ | ⟨r, hr, rfl⟩⟩
    · cases e with
      | behindNode10 =>
        obtain ⟨h, rest, hAfter⟩ := List.exists_cons_of_ne_nil hAfter
        rw [@viaRoute_gateway _ .behindNode10 _ _ hGateway h10 _ _ hAfter, External.octet3, h18]
        exact Or.inl rfl
      | behindNode1 => exact Or.inr ⟨18, by decide, h18.symm, rfl⟩
    · exact Or.inr (hGroup (mem_after hHome hr).1)
    · cases e with
      | behindNode1 =>
        rw [Chain.before_eq_after_reverse chain_nodup (home_mem_chain hp)] at hBefore
        rw [@viaRoute_gateway _ .behindNode1 _ _ hGateway h1 _ _ hBefore, External.octet3, h17]
        exact Or.inl rfl
      | behindNode10 => exact Or.inr ⟨17, by decide, h17.symm, rfl⟩
    · exact Or.inr (hGroup (mem_before hHome (hBefore ▸ List.mem_cons_of_mem h hr)).1)
  · rw [if_neg hGateway, if_neg hGateway, List.append_nil, List.mem_singleton] at hRoute
    left
    rw [viaRoute, via, if_neg hGateway, hRoute]
    simp only [Option.map_some, if_neg hGateway]
    rfl

/-- The route of the packets is there. -/
theorem viaRoute_mem (hp : p < manager.participants.length)
    (hRoute : π.viaRoute e p = some route) : route ∈ (π.participant p b).routes := by
  rw [VMTDParticipant.routes, interface1_participant hp, routes2_participant hp]
  dsimp only [routes1]
  obtain ⟨⟨h17, -⟩, h18, -⟩ := octetNetwork_fixed.imp Prod.mk.inj Prod.mk.inj
  obtain ⟨k, hVia, rfl⟩ := Option.map_eq_some_iff.mp hRoute
  by_cases hGateway : p = π.gateway (π.home p)
  · rw [if_pos hGateway, if_pos hGateway, List.mem_append, mem_forwardRoutes, mem_backRoutes]
    rw [via, if_pos hGateway] at hVia
    split at hVia
    case isFalse => simp at hVia
    rename_i hOther
    obtain ⟨h, hHead, rfl⟩ := Option.map_eq_some_iff.mp hVia
    obtain ⟨rest, hAfter⟩ := List.head?_eq_some_iff.mp hHead
    rw [if_pos hGateway]
    cases e with
    | behindNode10 =>
      left; left
      refine ⟨?_, hOther, ?_⟩
      · rw [way] at hAfter
        rw [hAfter]
        exact List.cons_ne_nil _ _
      · rw [External.octet3, h18]
        rfl
    | behindNode1 =>
      right
      rw [way, ← Chain.before_eq_after_reverse chain_nodup (home_mem_chain hp)] at hAfter
      refine ⟨h, rest, hAfter, Or.inl ⟨hOther, ?_⟩⟩
      rw [External.octet3, h17]
      rfl
  · rw [if_neg hGateway, if_neg hGateway, List.append_nil, if_neg hGateway, List.mem_singleton]
    rw [via, if_neg hGateway] at hVia
    rw [← Option.some_inj.mp hVia]
    rfl

/-- A row for another network does not cover the packets. -/
theorem not_covers_of_ne {o y : Int} (hOther : o ≠ e.octet3) (ho : IsOctet o) (hy : IsOctet y)
    (hx : IsOctet x) : ¬ covers (addressOf o y) 24 (addressOf e.octet3 x) = true :=
  fun hCovers => hOther ((covers_24 ho hy e.isOctet hx).mp hCovers)

theorem covers_viaRow (hx : IsOctet x) : covers (π.viaRow e p k).network (π.viaRow e p k).length
    (addressOf e.octet3 x) = true := by
  unfold viaRow
  split
  · exact (covers_24 e.isOctet (by decide) e.isOctet hx).mpr rfl
  · exact covers_16 e.isOctet hx

/-- The row of the route of the packets, if its texts can be read. -/
theorem entry_viaRoute (hRoute : π.viaRoute e p = some route) :
    ∃ k, π.via e p = some k ∧
      route.entry = if π.Readable k then some (π.viaRow e p k) else none := by
  obtain ⟨k, hVia, rfl⟩ := Option.map_eq_some_iff.mp hRoute
  have hFixed : ∀ {o : Int}, IsOctet o → readAddress (networkText o 0) = some (addressOf o 0) := by
    intro o ho
    rw [readAddress_networkText, if_pos ⟨ho, by decide⟩]
  have hEntry : ∀ {o : Int} (mask : Nat), IsOctet o →
      (⟨networkText o 0, mask, π.keyIp k, 100⟩ : VMTDRoute).entry =
        if π.Readable k then some ⟨addressOf o 0, mask, some (π.keyAddress k)⟩ else none := by
    intro o mask ho
    unfold VMTDRoute.entry
    dsimp only
    rw [hFixed ho, readAddress_keyIp]
    split <;> rfl
  refine ⟨k, hVia, ?_⟩
  unfold viaRow
  split
  · exact hEntry 24 e.isOctet
  · exact hEntry 16 (by decide)

/-- **Which row decides** about the packets. -/
theorem lookup_table (hReserved : ∀ g < π.groupCount, π.octet3 g ≠ e.octet3) (hx : IsOctet x)
    (hp : p < manager.participants.length) :
    lookup (π.participant p b).table (addressOf e.octet3 x) =
      (π.via e p).bind fun k => if π.Readable k then some (π.viaRow e p k) else none := by
  have hConnected : ∀ k : Nat × Int, (π.interface k.1 k.2).connected =
      if π.Readable k then some ⟨π.keyAddress k, 24, none⟩ else none := by
    intro k
    have hIp : (π.interface k.1 k.2).ip = π.keyIp k := rfl
    unfold VMTDInterface.connected
    rw [hIp, readAddress_keyIp]
    split <;> rfl
  refine lookup_eq fun row => ?_
  constructor
  · rintro ⟨hRow, hCovers⟩
    rcases List.mem_append.mp hRow with hRow | hRow
    · -- the participant's own networks are different
      obtain ⟨i, hi, hConn⟩ := List.mem_filterMap.mp hRow
      have hMem : i.connected ∈ (π.participant p b).existingInterfaces.map
          VMTDInterface.connected := List.mem_map_of_mem hi
      rw [existing_participant (fun _ _ => rfl) hp] at hMem
      obtain ⟨k, hk, hEq⟩ := List.mem_map.mp hMem
      rw [hConn, hConnected] at hEq
      split at hEq
      · rename_i hRead
        rw [← Option.some_inj.mp hEq] at hCovers
        have hg := lt_of_mem_allKeys (mem_allKeys hp hk)
        exact absurd hCovers (not_covers_of_ne (hReserved _ hg) hRead.1 hRead.2 hx)
      · cases hEq
    · obtain ⟨route, hRoute, hEntry⟩ := List.mem_filterMap.mp hRow
      rcases route_cases hReserved hp hRoute with hVia | ⟨o, hOther, hNetwork, hMask⟩
      · obtain ⟨k, hVia, hEq⟩ := entry_viaRoute hVia
        rw [hVia, Option.bind_some, ← hEq, hEntry]
      · unfold VMTDRoute.entry at hEntry
        rw [hNetwork, hMask, readAddress_networkText] at hEntry
        split at hEntry
        · rename_i hOctets
          rw [Option.bind_eq_bind, Option.bind_some] at hEntry
          obtain ⟨gateway, -, hEq⟩ := Option.bind_eq_some_iff.mp hEntry
          rw [← Option.some_inj.mp hEq] at hCovers
          exact absurd hCovers (not_covers_of_ne hOther hOctets.1 hOctets.2 hx)
        · cases hEntry
  · intro hRow
    obtain ⟨k, hVia, hRow⟩ := Option.bind_eq_some_iff.mp hRow
    split at hRow
    case isFalse => cases hRow
    rename_i hRead
    obtain rfl := Option.some_inj.mp hRow
    refine ⟨List.mem_append_right _ (List.mem_filterMap.mpr ?_), covers_viaRow hx⟩
    obtain ⟨route, hRoute⟩ : ∃ route, π.viaRoute e p = some route := by
      rw [viaRoute, hVia]
      exact ⟨_, rfl⟩
    obtain ⟨k', hVia', hEntry⟩ := entry_viaRoute hRoute
    rw [hVia, Option.some_inj] at hVia'
    rw [← hVia', if_pos hRead] at hEntry
    exact ⟨route, viaRoute_mem hp hRoute, hEntry⟩

-- ---------------------------------------------------------------------------
-- Hops
-- ---------------------------------------------------------------------------

/-- The interfaces of a participant, by its keys. -/
theorem exists_existing_iff {P : String × Nat × Int → Prop} (hp : p < manager.participants.length)
    (b : VMTDParticipant) :
    (∃ i ∈ (π.participant p b).existingInterfaces, P (i.ip, i.mask, i.vlanId)) ↔
      ∃ k ∈ π.keys p, P (π.keyIp k, 24, π.vlanId k.1) := by
  have hMap : (π.participant p b).existingInterfaces.map (fun i => (i.ip, i.mask, i.vlanId)) =
      (π.keys p).map fun k => (π.keyIp k, 24, π.vlanId k.1) :=
    existing_participant (fun _ _ => rfl) hp b
  have hExists := congrArg (fun l : List (String × Nat × Int) => ∃ t ∈ l, P t) hMap
  simpa only [List.mem_map, exists_exists_and_eq_and, eq_iff_iff] using hExists

theorem via_lt (hp : p < manager.participants.length) (hVia : π.via e p = some k) :
    k.1 < π.groupCount := by
  obtain ⟨q, hq, hk, -⟩ := exists_holder hp hVia
  exact lt_of_mem_allKeys (mem_allKeys hq hk)

/-- Who answers to the address of a key. -/
theorem reaches_iff (hp : p < manager.participants.length) (hq : q < manager.participants.length)
    (hg : k.1 < π.groupCount) (hRead : π.Readable k) :
    (π.participant p b).reaches (π.participant q b') (π.keyAddress k) = true ↔
      k ∈ π.keys q ∧ ∃ k' ∈ π.keys p, k'.1 = k.1 ∧ π.Readable k' := by
  have hReaches : (π.participant p b).reaches (π.participant q b') (π.keyAddress k) = true ↔
      ∃ k' ∈ π.keys p, ∃ k'' ∈ π.keys q, π.vlanId k'.1 = π.vlanId k''.1 ∧
        (readAddress (π.keyIp k')).any (covers · 24 (π.keyAddress k)) = true ∧
        readAddress (π.keyIp k'') = some (π.keyAddress k) := by
    rw [VMTDParticipant.reaches, List.any_eq_true]
    simp only [List.any_eq_true, Bool.and_eq_true, beq_iff_eq, and_assoc]
    rw [@exists_existing_iff _ _ _ (fun t => ∃ i' ∈ (π.participant q b').existingInterfaces,
      t.2.2 = i'.vlanId ∧ (readAddress t.1).any (covers · t.2.1 (π.keyAddress k)) = true ∧
        readAddress i'.ip = some (π.keyAddress k)) hp b]
    refine exists_congr fun k' => and_congr_right fun _ => ?_
    exact @exists_existing_iff _ _ _ (fun t => π.vlanId k'.1 = t.2.2 ∧
      (readAddress (π.keyIp k')).any (covers · 24 (π.keyAddress k)) = true ∧
        readAddress t.1 = some (π.keyAddress k)) hq b'
  have hGroup : ∀ {p k}, p < manager.participants.length → k ∈ π.keys p → k.1 < π.groupCount :=
    fun hp hk => lt_of_mem_allKeys (mem_allKeys hp hk)
  rw [hReaches]
  constructor
  · rintro ⟨k', hk', k'', hk'', hVlan, hCovers, hAddress⟩
    have hSame : k'' = k := by
      rw [readAddress_keyIp] at hAddress
      split at hAddress
      · rename_i hRead''
        obtain ⟨h₃, h₄⟩ := addressOf_inj hRead''.1 hRead''.2 hRead.1 hRead.2
          (Option.some_inj.mp hAddress)
        exact Prod.ext (π.octet3_inj _ (hGroup hq hk'') _ hg h₃) h₄
      · cases hAddress
    have hRead' : π.Readable k' := by
      by_contra hUnread
      rw [readAddress_keyIp, if_neg hUnread] at hCovers
      simp at hCovers
    rw [hSame] at hk'' hVlan
    exact ⟨hk'', k', hk', π.vlanId_inj _ (hGroup hp hk') _ hg hVlan, hRead'⟩
  · rintro ⟨hk, k', hk', hEq, hRead'⟩
    refine ⟨k', hk', k, hk, by rw [hEq], ?_, ?_⟩
    · rw [readAddress_keyIp, if_pos hRead', Option.any_some]
      refine (covers_24 hRead'.1 hRead'.2 hRead.1 hRead.2).mpr ?_
      rw [hEq]
    · rw [readAddress_keyIp, if_pos hRead]

/-- **Where packets go**, whatever the last octet. -/
theorem hop_eq (hReserved : ∀ g < π.groupCount, π.octet3 g ≠ e.octet3) (hx : IsOctet x) :
    π.engine.Hop (addressOf e.octet3 x) = π.Passes e := by
  funext p q
  refine propext ⟨?_, ?_⟩
  · rintro ⟨r, r', row, hr, hr', hLookup, hReaches⟩
    obtain ⟨b, hb, rfl⟩ := getElem?_participants.mp hr
    obtain ⟨b', hb', rfl⟩ := getElem?_participants.mp hr'
    have hp := (List.getElem?_eq_some_iff.mp hb).1
    have hq := (List.getElem?_eq_some_iff.mp hb').1
    rw [lookup_table hReserved hx hp] at hLookup
    obtain ⟨k, hVia, hRow⟩ := Option.bind_eq_some_iff.mp hLookup
    split at hRow
    case isFalse => cases hRow
    rename_i hRead
    rw [← Option.some_inj.mp hRow, gateway_viaRow, Option.getD_some,
      reaches_iff hp hq (via_lt hp hVia) hRead] at hReaches
    exact ⟨hp, hq, k, hVia, hRead, hReaches⟩
  · rintro ⟨hp, hq, k, hVia, hRead, hKeys⟩
    obtain ⟨b, hb⟩ := exists_base hp
    obtain ⟨b', hb'⟩ := exists_base hq
    refine ⟨_, _, π.viaRow e p k, getElem?_participants.mpr ⟨b, hb, rfl⟩,
      getElem?_participants.mpr ⟨b', hb', rfl⟩, ?_, ?_⟩
    · rw [lookup_table hReserved hx hp, hVia, Option.bind_some, if_pos hRead]
    · rw [gateway_viaRow, Option.getD_some]
      exact (reaches_iff hp hq (via_lt hp hVia) hRead).mpr hKeys

end Plan

-- ---------------------------------------------------------------------------
-- When the packets arrive
-- ---------------------------------------------------------------------------

/-- The draws lead to Node-1 and Node-10: they are the first and the last
gateway, the octets of the groups fit (those of the last one only if its
gateway has company), and so do those of the links, which nobody else has. -/
structure ExternalsRouted (settings : VMTDSettings) (draws : Draws)
    (participants : List VMTDParticipant) : Prop where
  first : nodeOf settings draws participants "Node-1" =
    firstGateway settings draws participants.length
  last : nodeOf settings draws participants "Node-10" =
    lastGateway settings draws participants.length
  octets : ∀ g < draws.groupCount, membersOf settings draws participants.length g ≠
      (lastGateway settings draws participants.length).toList →
    IsOctet (octet3Of settings draws g) ∧
      ∀ t < sizeOf draws participants.length g, IsOctet (octet4Of settings draws g t)
  links : settings.shouldRandomizeGateway = false → ∀ g, g + 1 < draws.groupCount →
    sizeOf draws participants.length g + 1 < 256
  free : LinkOctetsFree settings draws participants.length

/-- What occurs once has one place. -/
theorem exists_place {α : Type*} [DecidableEq α] {l : List α} {a : α} (h : l.count a = 1) :
    ∃ t : Nat, ∀ i : Nat, l[i]? = some a ↔ i = t := by
  obtain ⟨pre, suf, rfl⟩ := List.append_of_mem (List.count_pos_iff.mp (h ▸ Nat.one_pos))
  rw [List.count_append, List.count_cons_self] at h
  have hPre : a ∉ pre := List.count_eq_zero.mp (by omega)
  have hSuf : a ∉ suf := List.count_eq_zero.mp (by omega)
  refine ⟨pre.length, fun i => ⟨fun hi => ?_, ?_⟩⟩
  · rcases Nat.lt_trichotomy i pre.length with hLt | hEq | hGt
    · rw [List.getElem?_append_left hLt] at hi
      exact absurd (List.mem_of_getElem? hi) hPre
    · exact hEq
    · obtain ⟨j, rfl⟩ : ∃ j, i = pre.length + (j + 1) := ⟨i - pre.length - 1, by omega⟩
      rw [List.getElem?_append_right (by omega), Nat.add_sub_cancel_left,
        List.getElem?_cons_succ] at hi
      exact absurd (List.mem_of_getElem? hi) hSuf
  · rintro rfl
    rw [List.getElem?_append_right le_rfl, Nat.sub_self, List.getElem?_cons_zero]

/-- A search for something that is there once ends with it. -/
theorem foldl_search {P : Nat → Prop} [DecidablePred P] {l : List Nat} {t : Nat}
    (hOnly : ∀ i ∈ l, P i ↔ i = t) (found : Option Nat) :
    l.foldl (fun found i => if P i then some i else found) found =
      if t ∈ l then some t else found := by
  induction l generalizing found with
  | nil => rfl
  | cons a l ih =>
    have ha := hOnly a List.mem_cons_self
    rw [List.foldl_cons, ih fun i hi => hOnly i (List.mem_cons_of_mem a hi)]
    by_cases hP : P a
    · obtain rfl := ha.mp hP
      rw [if_pos hP, if_pos List.mem_cons_self, ite_self]
    · have hne : t ≠ a := fun hEq => hP (ha.mpr hEq.symm)
      simp only [if_neg hP, List.mem_cons, hne, false_or]

namespace Plan.Selects

variable {settings : VMTDSettings} {draws : Draws} {manager : VMTDDeviceManager}
  {π : Plan manager.participants.length}

/-- A host name that is there once is found. -/
theorem exists_node (h : π.Selects settings draws) {hostName : String}
    (hOne : (manager.participants.map (·.hostName)).count hostName = 1) :
    ∃ t < manager.participants.length,
      nodeOf settings draws manager.participants hostName = some t ∧
      ∀ i b, manager.participants[i]? = some b → (b.hostName = hostName ↔ i = t) := by
  obtain ⟨t, ht⟩ := exists_place hOne
  have hName : ∀ i, (manager.participants[i]?).map (·.hostName) = some hostName ↔ i = t := by
    intro i
    rw [← List.getElem?_map]
    exact ht i
  have hLt : t < manager.participants.length := by
    obtain ⟨b, hb, -⟩ := Option.map_eq_some_iff.mp ((hName t).mpr rfl)
    exact (List.getElem?_eq_some_iff.mp hb).1
  have hSeat : t ∈ (List.range draws.groupCount).flatMap
      (membersOf settings draws manager.participants.length) := by
    have hHome := π.home_lt t hLt
    refine List.mem_flatMap.mpr ⟨π.home t, List.mem_range.mpr ?_, ?_⟩
    · rw [← h.follows.groupCount_eq]
      exact hHome
    · rw [← h.members_eq _ hHome]
      exact (Layout.mem_members hHome).mpr ⟨hLt, rfl⟩
  refine ⟨t, hLt, ?_, fun i b hb => ?_⟩
  · rw [nodeOf, foldl_search (fun i _ => hName i), if_pos hSeat]
  · rw [← hName i, hb, Option.map_some, Option.some_inj]

/-- The ends of the ways, and the addresses on them, from the draws. -/
theorem routed_iff (h : π.Selects settings draws) (hTwo : 2 ≤ manager.participants.length)
    {t : External → Nat} (hExempt : ∀ e, π.exempt e = some (t e)) :
    (π.LinksFree ∧ (∀ e, (π.way e).getLast?.map π.gateway = some (t e)) ∧
      (∀ p < manager.participants.length, π.members (π.home p) ≠ [t .behindNode10] →
        π.Readable (π.homeKey p)) ∧
      ∀ g < π.groupCount, Chain.after π.chain g ≠ [] → π.Readable (π.linkKey g)) ↔
    ExternalsRouted settings draws manager.participants := by
  have hF := h.follows
  have hCount : π.groupCount = draws.groupCount := hF.groupCount_eq
  have hNode1 : nodeOf settings draws manager.participants "Node-1" = some (t .behindNode1) :=
    h.node1_eq.symm.trans (hExempt .behindNode1)
  have hNode10 : nodeOf settings draws manager.participants "Node-10" = some (t .behindNode10) :=
    h.node10_eq.symm.trans (hExempt .behindNode10)
  have hEnd1 : (π.way .behindNode1).getLast?.map π.gateway =
      firstGateway settings draws manager.participants.length := by
    rw [way, List.getLast?_reverse]
    exact h.first_eq
  have hEnd10 : (π.way .behindNode10).getLast?.map π.gateway =
      lastGateway settings draws manager.participants.length := h.last_eq
  have hSeat : ∀ p, π.Readable (π.homeKey p) ↔ IsOctet (octet3Of settings draws (π.home p)) ∧
      IsOctet (octet4Of settings draws (π.home p) (π.seat p)) := by
    intro p
    rw [← hF.octet3_eq, ← hF.octet4_eq]
    exact Iff.rfl
  rw [linksFree_iff hF hTwo]
  constructor
  · rintro ⟨hFree, hLast, hHomeKey, hLinkKey⟩
    have hTarget : (lastGateway settings draws manager.participants.length).toList =
        [t .behindNode10] := by
      rw [← hEnd10, hLast]
      rfl
    refine ⟨?_, ?_, fun g hg hMany => ?_, fun hFixed g hg => ?_, hFree⟩
    · rw [hNode1, ← hEnd1, hLast]
    · rw [hNode10, ← hEnd10, hLast]
    · rw [← hCount] at hg
      rw [hTarget, ← h.members_eq g hg] at hMany
      have hMember : ∀ s p, (π.members g)[s]? = some p →
          IsOctet (octet3Of settings draws g) ∧ IsOctet (octet4Of settings draws g s) := by
        intro s p hAt
        obtain ⟨hp, rfl, rfl⟩ := (π.members_iff g hg s p).mp hAt
        exact (hSeat p).mp (hHomeKey p hp hMany)
      have hGateway := (π.members_iff g hg _ _).mpr ⟨π.gateway_lt g hg, π.home_gateway g hg, rfl⟩
      refine ⟨(hMember _ _ hGateway).1, fun s hs => ?_⟩
      rw [← hF.length_members g hg] at hs
      exact (hMember s _ (List.getElem?_eq_getElem hs)).2
    · have hgLt : g < π.groupCount := by omega
      have hAfter : Chain.after π.chain g ≠ [] := by
        rw [hF.chain_eq hFixed]
        exact (Chain.after_range_ne_nil hgLt).mpr (by omega)
      have hOctet : IsOctet (π.link4 g) := (hLinkKey g hgLt hAfter).2
      rw [hF.link4_eq g hgLt hAfter, hFixed, if_neg Bool.false_ne_true,
        hF.length_members g hgLt] at hOctet
      unfold IsOctet at hOctet
      omega
  · rintro ⟨hFirst, hLast, hOctets, hLinks, hFree⟩
    have hEnds : ∀ e, (π.way e).getLast?.map π.gateway = some (t e) := by
      intro e
      cases e with
      | behindNode1 => rw [hEnd1, ← hFirst, hNode1]
      | behindNode10 => rw [hEnd10, ← hLast, hNode10]
    rw [← hLast, hNode10, Option.toList_some] at hOctets
    have hGroup : ∀ g < π.groupCount, π.members g ≠ [t .behindNode10] →
        IsOctet (octet3Of settings draws g) ∧
          ∀ s < (π.members g).length, IsOctet (octet4Of settings draws g s) := by
      intro g hg hMany
      rw [hF.length_members g hg]
      rw [h.members_eq g hg] at hMany
      exact hOctets g (hCount ▸ hg) hMany
    refine ⟨hFree, hEnds, fun p hp hMany => ?_, fun g hg hAfter => ?_⟩
    · obtain ⟨hOctet3, hOctet4⟩ := hGroup _ (π.home_lt p hp) hMany
      exact (hSeat p).mpr ⟨hOctet3, hOctet4 _ (Layout.seat_lt hp)⟩
    · -- a group with a link is not the last
      have hMany : π.members g ≠ [t .behindNode10] := by
        intro hEq
        have hMem : t .behindNode10 ∈ π.members g := hEq ▸ List.mem_singleton_self _
        have hHome := ((Layout.mem_members hg).mp hMem).2
        exact ne_last (hEnds .behindNode10) (by rw [hHome]; exact hAfter) rfl
      refine ⟨by rw [hF.octet3_eq]; exact (hGroup g hg hMany).1, ?_⟩
      have hLink := hF.link4_eq g hg hAfter
      cases hRandom : settings.shouldRandomizeGateway with
      | true =>
        have hRange := hF.link4_range hRandom g hg hAfter
        have hOctet : IsOctet (π.link4 g) := ⟨by omega, by omega⟩
        exact hOctet
      | false =>
        rw [hF.chain_eq hRandom, Chain.after_range_ne_nil hg] at hAfter
        have hFits := hLinks hRandom g (hCount ▸ hAfter)
        rw [hRandom, if_neg Bool.false_ne_true, hF.length_members g hg] at hLink
        unfold IsOctet linkKey
        dsimp only
        omega

end Plan.Selects

/-- **Which outcomes of `generate` reach the networks outside**: those whose
draws lead to the two hosts. -/
theorem externalsReachable_iff {settings : VMTDSettings} {rows : List DeviceRow} {draws : Draws}
    {engine engine' : VMTDEngine}
    (h : VMTDEngine.generate settings rows draws engine = some engine')
    (hNode1 : ((engine.manager.buildParticipants settings rows).participants.map
      (·.hostName)).count "Node-1" = 1)
    (hNode10 : ((engine.manager.buildParticipants settings rows).participants.map
      (·.hostName)).count "Node-10" = 1)
    (hReserved : ∀ G ∈ engine'.groups, G.network ≠ "100.100.17.0" ∧ G.network ≠ "100.100.18.0") :
    ExternalsReachable engine' ↔ ExternalsRouted settings draws
      (engine.manager.buildParticipants settings rows).participants := by
  have hTwo : 2 ≤ (engine.manager.buildParticipants settings rows).participants.length := by
    have hIn : ∀ name ∈ ["Node-1", "Node-10"], name ∈
        (engine.manager.buildParticipants settings rows).participants.map (·.hostName) := by
      intro name hName
      rcases List.mem_cons.mp hName with rfl | hName
      · exact List.count_pos_iff.mp (hNode1 ▸ Nat.one_pos)
      · rw [List.mem_singleton.mp hName]
        exact List.count_pos_iff.mp (hNode10 ▸ Nat.one_pos)
    have hNames : ["Node-1", "Node-10"].Nodup := by decide
    have hLength := (List.subperm_of_subset hNames hIn).length_le
    rwa [List.length_map] at hLength
  obtain ⟨π, hSelects, rfl⟩ := generate_selects h hTwo
  obtain ⟨t1, ht1, hFound1, hOnly1⟩ := hSelects.exists_node hNode1
  obtain ⟨t10, ht10, hFound10, hOnly10⟩ := hSelects.exists_node hNode10
  have hNodes : ∃ t : External → Nat, ∀ e, π.exempt e = some (t e) ∧
      t e < (engine.manager.buildParticipants settings rows).participants.length ∧
      ∀ i b, (engine.manager.buildParticipants settings rows).participants[i]? = some b →
        (b.hostName = e.hostName ↔ i = t e) := by
    refine ⟨fun e => match e with
      | .behindNode1 => t1
      | .behindNode10 => t10, fun e => ?_⟩
    cases e with
    | behindNode1 => exact ⟨hSelects.node1_eq.trans hFound1, ht1, hOnly1⟩
    | behindNode10 => exact ⟨hSelects.node10_eq.trans hFound10, ht10, hOnly10⟩
  obtain ⟨t, ht⟩ := hNodes
  have hOctets := Plan.octet3_ne_of_engine hReserved
  have hHop : ∀ (e : External) (x : Int), IsOctet x →
      π.engine.Hop (addressOf e.octet3 x) = π.Passes e := by
    intro e x hx
    refine Plan.hop_eq (fun g hg => ?_) hx
    cases e with
    | behindNode1 => exact (hOctets g hg).1
    | behindNode10 => exact (hOctets g hg).2
  have hLength : π.engine.participants.length =
      (engine.manager.buildParticipants settings rows).participants.length := by
    rw [Plan.participants_engine, List.length_mapIdx]
  rw [← hSelects.routed_iff hTwo fun e => (ht e).1, ← Plan.passes_iff fun e => (ht e).1,
    ← Plan.arrives_iff fun e => (ht e).1]
  constructor
  · intro hReach e p hp
    obtain ⟨b, hb⟩ := exists_base (ht e).2.1
    have hArrives := (hReach e (t e) _ (Plan.getElem?_participants.mpr ⟨b, hb, rfl⟩)
      (((ht e).2.2 _ b hb).mpr rfl) p (hLength ▸ hp) 1 (by decide)).arrives
    rwa [hHop e 1 (by decide)] at hArrives
  · intro hArrives e node r hr hName p hp x hx
    obtain ⟨b, hb, rfl⟩ := Plan.getElem?_participants.mp hr
    rw [((ht e).2.2 _ b hb).mp hName, hHop e x hx]
    exact delivered_iff.mpr (hArrives e p (hLength ▸ hp))

-- ---------------------------------------------------------------------------
-- With the two hosts at the ends, and not
-- ---------------------------------------------------------------------------

/-- The two hosts, and others after them. -/
def externalRows (others : List DeviceRow) : List DeviceRow :=
  [⟨1, "Node-1", "node1", "10.0.0.1", "eth0", "1/1", "leaf", "http://leaf"⟩,
    ⟨10, "Node-10", "node10", "10.0.0.10", "eth0", "1/10", "leaf", "http://leaf"⟩] ++ others

/-- On their own, the two hosts are the ends of the chain. -/
theorem externalsReachable_twoHosts :
    ∃ engine', VMTDEngine.generate {} (externalRows []) (twoGroups 1) {} = some engine' ∧
      ExternalsReachable engine' := by
  have hRun : (VMTDEngine.generate {} (externalRows []) (twoGroups 1) {}).any (fun engine' =>
      decide (∀ G ∈ engine'.groups, G.network ≠ "100.100.17.0" ∧ G.network ≠ "100.100.18.0")) =
        true := by
    decide +kernel
  obtain ⟨engine', hEngine, hReserved⟩ := Option.any_eq_true _ _ |>.mp hRun
  refine ⟨engine', hEngine, (externalsReachable_iff hEngine (by decide +kernel)
    (by decide +kernel) (of_decide_eq_true hReserved)).mpr ?_⟩
  refine ⟨by decide +kernel, by decide +kernel, fun g hg _ => by decide +kernel +revert,
    fun _ g hg => ?_, fun _ hNo => by simp at hNo⟩
  obtain rfl : g = 0 := by
    have : g + 1 < 2 := hg
    omega
  decide +kernel

/-- Node-2 in a group after them is the last gateway, and has no route to
100.100.18.0. -/
theorem not_externalsReachable :
    ¬ ∀ (settings : VMTDSettings) (rows : List DeviceRow) (draws : Draws)
        (engine engine' : VMTDEngine),
        VMTDEngine.generate settings rows draws engine = some engine' →
        ((engine.manager.buildParticipants settings rows).participants.map
          (·.hostName)).count "Node-1" = 1 →
        ((engine.manager.buildParticipants settings rows).participants.map
          (·.hostName)).count "Node-10" = 1 →
        (∀ G ∈ engine'.groups, G.network ≠ "100.100.17.0" ∧ G.network ≠ "100.100.18.0") →
          ExternalsReachable engine' := by
  intro hClaim
  have hRun : (VMTDEngine.generate {} (externalRows [⟨2, "Node-2", "node2", "10.0.0.2", "eth0",
      "1/2", "leaf", "http://leaf"⟩]) (twoGroups 1) {}).any (fun engine' =>
        decide (∀ G ∈ engine'.groups, G.network ≠ "100.100.17.0" ∧ G.network ≠ "100.100.18.0") &&
          (engine'.participants[1]?).any (·.hostName == "Node-10") &&
          (engine'.participants[2]?).any fun q => (lookup q.table (addressOf 18 1)).isNone) =
        true := by
    decide +kernel
  obtain ⟨engine', hEngine, hAll⟩ := Option.any_eq_true _ _ |>.mp hRun
  rw [Bool.and_eq_true, Bool.and_eq_true] at hAll
  obtain ⟨⟨hReserved, hNode⟩, hLast⟩ := hAll
  obtain ⟨r, hr, hName⟩ := Option.any_eq_true _ _ |>.mp hNode
  obtain ⟨q, hq, hNone⟩ := Option.any_eq_true _ _ |>.mp hLast
  have hReach := hClaim _ _ _ _ _ hEngine (by decide +kernel) (by decide +kernel)
    (of_decide_eq_true hReserved)
  have hDelivered := hReach .behindNode10 1 r hr (beq_iff_eq.mp hName) 2
    (List.getElem?_eq_some_iff.mp hq).1 1 (by decide)
  -- the last gateway has no row for the packet
  obtain ⟨p', q₀, q', row, hq₀, -, hRow, -⟩ := hDelivered.arrives.exists_hop (by decide)
  rw [hq, Option.some_inj] at hq₀
  rw [← hq₀] at hRow
  have hNoRow := Option.isNone_iff_eq_none.mp hNone
  rw [External.octet3, hNoRow] at hRow
  cases hRow

end VxlanMtd
