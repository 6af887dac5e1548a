import VxlanMtd.Engine.Addresses
import VxlanMtd.Lib.Forwarding

/-!
# The overlay network

The participants as nodes of a `Forwarding.Network`: the table of a node has
the networks of its existing interfaces and the routes of both interfaces, and
its neighbours are the nodes with an interface in one of its VLANs.

`readAddress_networkText` says which numbers the engine's addresses are, and
the `Sound` plans are those whose addresses can be routed to at all.
-/

namespace VxlanMtd

open Forwarding

-- addresses are opaque here; unfolding them would make Lean render templates
attribute [local irreducible] networkText macText PlaceMarker.arg

-- ---------------------------------------------------------------------------
-- Nodes
-- ---------------------------------------------------------------------------

/-- The network of an interface, as a row of a routing table. -/
def VMTDInterface.connected (i : VMTDInterface) : Option Entry :=
  (readAddress i.ip).map fun address => ⟨address, i.mask, none⟩

/-- A route, as a row of a routing table. -/
def VMTDRoute.entry (route : VMTDRoute) : Option Entry := do
  some ⟨← readAddress route.network, route.mask, some (← readAddress route.gateway)⟩

namespace VMTDParticipant

def table (q : VMTDParticipant) : List Entry :=
  q.existingInterfaces.filterMap VMTDInterface.connected ++
    (q.interface1.routes ++ q.interface2.routes).filterMap VMTDRoute.entry

/-- Whether an address is one of the participant's. -/
def hasAddress (q : VMTDParticipant) (address : Nat) : Bool :=
  q.existingInterfaces.any fun i => readAddress i.ip == some address

/-- Whether `q` can send to `q'` under that address without a router: the
address is in the network of an interface of `q`, and `q'` has it on an
interface in the same VLAN. -/
def reaches (q q' : VMTDParticipant) (address : Nat) : Bool :=
  q.existingInterfaces.any fun i => q'.existingInterfaces.any fun i' =>
    i.vlanId == i'.vlanId && (readAddress i.ip).any (covers · i.mask address)
      && readAddress i'.ip == some address

end VMTDParticipant

/-- The participants, by position, as nodes. -/
def VMTDEngine.overlay (engine : VMTDEngine) : Network Nat where
  table p := ((engine.participants[p]?).map (·.table)).getD []
  owns p address := (engine.participants[p]?).any (·.hasAddress address)
  neighbour p address := (List.range engine.participants.length).find? fun p' =>
    (engine.participants[p]?).any fun q =>
      (engine.participants[p']?).any fun q' => q.reaches q' address

-- ---------------------------------------------------------------------------
-- The numbers of addresses
-- ---------------------------------------------------------------------------

/-- The number of 100.100.`octet3`.`octet4`. -/
def addressOf (octet3 octet4 : Int) : Nat := (25700 * 256 + octet3.toNat) * 256 + octet4.toNat

/-- Whether a number fits an octet. -/
def IsOctet (x : Int) : Prop := 0 ≤ x ∧ x < 256

instance (x : Int) : Decidable (IsOctet x) := inferInstanceAs (Decidable (_ ∧ _))

theorem readOctet_repr (x : Int) :
    readOctet x.repr.toList = if 0 ≤ x ∧ x < 256 then some x.toNat else none := by
  rw [Int.repr_eq_if]
  split
  · rename_i hNonneg
    rw [readOctet, Text.readNat_repr, Option.bind_some]
    by_cases hx : x < 256
    · rw [if_pos (by omega), if_pos ⟨hNonneg, hx⟩]
    · rw [if_neg (by omega), if_neg (by omega)]
  · rename_i hNeg
    rw [if_neg (fun h => hNeg h.1), readOctet]
    have hMinus : Text.readNat ("-" ++ (-x).toNat.repr).toList = none := by
      rw [String.toList_append]
      rfl
    rw [hMinus, Option.bind_none]

/-- Which addresses can be read, and as what. -/
theorem readAddress_networkText (octet3 octet4 : Int) :
    readAddress (networkText octet3 octet4) =
      if IsOctet octet3 ∧ IsOctet octet4 then some (addressOf octet3 octet4) else none := by
  have hDot : ∀ x : Int, '.' ∉ x.repr.toList := fun x => Text.notMem_repr (by decide) (by decide)
  have h100 : ∀ rest, "100.100.".toList ++ rest =
      ['1', '0', '0'] ++ '.' :: (['1', '0', '0'] ++ '.' :: rest) := fun _ => rfl
  have hSplit : Text.splitOnChar '.' (networkText octet3 octet4).toList =
      [['1', '0', '0'], ['1', '0', '0'], octet3.repr.toList, octet4.repr.toList] := by
    rw [networkText_eq, String.toList_ofList, List.append_assoc, h100,
      Text.splitOnChar_append (by decide), Text.splitOnChar_append (by decide),
      Text.splitOnChar_append (hDot _), Text.splitOnChar_of_notMem (hDot _)]
  have hOctet : readOctet ['1', '0', '0'] = some 100 := by decide
  unfold readAddress
  rw [hSplit]
  dsimp only
  rw [hOctet, readOctet_repr, readOctet_repr]
  unfold IsOctet
  by_cases h₃ : 0 ≤ octet3 ∧ octet3 < 256 <;> by_cases h₄ : 0 ≤ octet4 ∧ octet4 < 256 <;>
    simp [h₃, h₄, addressOf]

theorem addressOf_inj {a b c d : Int} (ha : IsOctet a) (hb : IsOctet b) (hc : IsOctet c)
    (hd : IsOctet d) (h : addressOf a b = addressOf c d) : a = c ∧ b = d := by
  unfold IsOctet at ha hb hc hd
  unfold addressOf at h
  omega

/-- A /24 network has the addresses with its third octet. -/
theorem covers_24 {a b c d : Int} (ha : IsOctet a) (hb : IsOctet b) (hc : IsOctet c)
    (hd : IsOctet d) : covers (addressOf a b) 24 (addressOf c d) = true ↔ a = c := by
  have hPow : 2 ^ (32 - 24) = 256 := rfl
  unfold IsOctet at ha hb hc hd
  rw [covers, beq_iff_eq, hPow, addressOf, addressOf]
  omega

/-- 100.100.0.0/16 has all of them. -/
theorem covers_16 {c d : Int} (hc : IsOctet c) (hd : IsOctet d) :
    covers (addressOf 0 0) 16 (addressOf c d) = true := by
  have hPow : 2 ^ (32 - 16) = 65536 := rfl
  have hZero : addressOf 0 0 / 65536 = 25700 := by decide
  unfold IsOctet at hc hd
  rw [covers, beq_iff_eq, hPow, hZero, addressOf]
  omega

end VxlanMtd
