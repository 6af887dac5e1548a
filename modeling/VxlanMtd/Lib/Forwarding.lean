import VxlanMtd.Lib.Text
import Mathlib.Data.List.MinMax
import Mathlib.Data.List.Nodup

/-!
# Forwarding by longest prefix match

IPv4 addresses as numbers, routing tables, and the hop sequence of a packet.

* `readAddress` — the address a dotted quad stands for;
* `lookup` — the entry with the longest prefix that covers the destination;
* `HopSequence` — the nodes a packet visits until it reaches an owner of its
  destination.

`lookup_hop` finds the hop of a destination without fixing how ties are broken
(`lookup_eq` where there are none), and **`exists_hopSequence`** delivers a
packet whose nodes have a rank that every hop decreases: such a packet never
comes back to a node. `HopSequence.isChain`, `HopSequence.forall_tail` and
`HopSequence.length_le` say of the whole way what is known of one hop.
-/

namespace Forwarding

-- ---------------------------------------------------------------------------
-- Addresses
-- ---------------------------------------------------------------------------

/-- An octet of a dotted quad. -/
def readOctet (cs : List Char) : Option Nat :=
  (Text.readNat cs).bind fun octet => if octet < 256 then some octet else none

/-- The 32-bit number of a dotted quad. -/
def readAddress (address : String) : Option Nat :=
  match Text.splitOnChar '.' address.toList with
  | [a, b, c, d] => do
    let a ← readOctet a
    let b ← readOctet b
    let c ← readOctet c
    let d ← readOctet d
    some (((a * 256 + b) * 256 + c) * 256 + d)
  | _ => none

/-- `address` has the first `length` bits of `network`. -/
def covers (network length address : Nat) : Bool :=
  network / 2 ^ (32 - length) == address / 2 ^ (32 - length)

-- ---------------------------------------------------------------------------
-- Tables
-- ---------------------------------------------------------------------------

/-- A row of a routing table. Without a gateway the destination itself is on
the link. -/
structure Entry where
  network : Nat
  length : Nat
  gateway : Option Nat
  deriving DecidableEq, Repr

/-- The entry with the longest prefix that covers the destination. -/
def lookup (table : List Entry) (dest : Nat) : Option Entry :=
  (table.filter fun e => covers e.network e.length dest).argmax Entry.length

/-- If all entries of maximal length agree, it does not matter which is
taken. -/
theorem lookup_hop {table : List Entry} {dest : Nat} {e : Entry} (he : e ∈ table)
    (hCovers : covers e.network e.length dest = true)
    (hLongest : ∀ e' ∈ table, covers e'.network e'.length dest = true →
      e'.length ≤ e.length ∧ (e'.length = e.length → e'.gateway = e.gateway)) :
    (lookup table dest).map Entry.gateway = some e.gateway := by
  have hMem : ∀ e', e' ∈ table.filter (fun e => covers e.network e.length dest) ↔
      e' ∈ table ∧ covers e'.network e'.length dest = true := fun e' => List.mem_filter
  cases hBest : lookup table dest with
  | none =>
    have hNil := List.argmax_eq_none.mp hBest
    have := (hMem e).mpr ⟨he, hCovers⟩
    rw [hNil] at this
    exact absurd this List.not_mem_nil
  | some best =>
    obtain ⟨hIn, hBestCovers⟩ := (hMem best).mp (List.argmax_mem hBest)
    have hLe := List.le_of_mem_argmax ((hMem e).mpr ⟨he, hCovers⟩) hBest
    obtain ⟨hGe, hSame⟩ := hLongest best hIn hBestCovers
    rw [Option.map_some, hSame (Nat.le_antisymm hGe hLe)]

/-- Where at most one entry covers the destination, it is the one. -/
theorem lookup_eq {table : List Entry} {dest : Nat} {row : Option Entry}
    (h : ∀ e, (e ∈ table ∧ covers e.network e.length dest = true) ↔ row = some e) :
    lookup table dest = row := by
  have hMem : ∀ e, e ∈ table.filter (fun e => covers e.network e.length dest) ↔ row = some e :=
    fun e => List.mem_filter.trans (h e)
  cases hBest : lookup table dest with
  | none =>
    have hNil := List.argmax_eq_none.mp hBest
    cases row with
    | none => rfl
    | some e =>
      have hIn := (hMem e).mpr rfl
      rw [hNil] at hIn
      exact absurd hIn List.not_mem_nil
  | some best => exact ((hMem best).mp (List.argmax_mem hBest)).symm

-- ---------------------------------------------------------------------------
-- Networks of nodes
-- ---------------------------------------------------------------------------

/-- Nodes that forward packets. `neighbour node a` is the node that answers to
`a` on a link of `node`. -/
structure Network (Node : Type*) where
  table : Node → List Entry
  owns : Node → Nat → Bool
  neighbour : Node → Nat → Option Node

namespace Network

variable {Node : Type*} (N : Network Node)

/-- The next hop of a packet. -/
def next (dest : Nat) (node : Node) : Option Node :=
  (lookup (N.table node) dest).bind fun e => N.neighbour node (e.gateway.getD dest)

/-- The nodes a packet for `dest` visits, from `node` to the first owner of the
destination. -/
inductive HopSequence (dest : Nat) : Node → List Node → Prop where
  | arrived {node : Node} (hOwns : N.owns node dest = true) : HopSequence dest node [node]
  | hop {node node' : Node} {path : List Node} (hOther : N.owns node dest = false)
      (hNext : N.next dest node = some node') (hPath : HopSequence dest node' path) :
      HopSequence dest node (node :: path)

variable {N} {dest : Nat} {node : Node}

/-- A hop sequence ends at an owner of the destination. -/
theorem HopSequence.getLast {path : List Node} (h : N.HopSequence dest node path) :
    ∃ owner, path.getLast? = some owner ∧ N.owns owner dest = true := by
  induction h with
  | arrived hOwns => exact ⟨_, rfl, hOwns⟩
  | hop _ _ hPath ih =>
    obtain ⟨owner, hLast, hOwns⟩ := ih
    refine ⟨owner, ?_, hOwns⟩
    cases hPath <;> simpa using hLast

/-- A packet has one way. -/
theorem HopSequence.unique {path path' : List Node} (h : N.HopSequence dest node path)
    (h' : N.HopSequence dest node path') : path = path' := by
  induction h generalizing path' with
  | arrived hOwns =>
    cases h' with
    | arrived => rfl
    | hop hOther => exact absurd hOwns (by rw [hOther]; exact Bool.false_ne_true)
  | hop hOther hNext _ ih =>
    cases h' with
    | arrived hOwns => exact absurd hOwns (by rw [hOther]; exact Bool.false_ne_true)
    | hop _ hNext' hPath' =>
      obtain rfl := Option.some_inj.mp (hNext.symm.trans hNext')
      rw [ih hPath']

/-- A hop sequence starts where the packet is. -/
theorem HopSequence.head {path : List Node} (h : N.HopSequence dest node path) :
    path.head? = some node := by
  cases h <;> rfl

/-- What every hop of a packet meets, consecutive nodes of its way meet. -/
theorem HopSequence.isChain {R : Node → Node → Prop}
    (hR : ∀ a b, N.next dest a = some b → R a b) {path : List Node}
    (h : N.HopSequence dest node path) : path.IsChain R := by
  induction h with
  | arrived => exact .singleton _
  | @hop node node' path _ hNext hPath ih =>
    obtain ⟨rest, hCons⟩ := List.head?_eq_some_iff.mp hPath.head
    rw [hCons] at ih ⊢
    exact List.isChain_cons_cons.mpr ⟨hR _ _ hNext, ih⟩

/-- What the next hops of a node in `Inv` meet, every node a packet comes to
meets. -/
theorem HopSequence.forall_tail {Inv P : Node → Prop}
    (hStep : ∀ a b, Inv a → N.owns a dest = false → N.next dest a = some b → Inv b ∧ P b)
    {path : List Node} (h : N.HopSequence dest node path) (hInv : Inv node) :
    ∀ x ∈ path.tail, P x := by
  induction h with
  | arrived => exact fun x hx => absurd hx List.not_mem_nil
  | @hop node node' path hOther hNext hPath ih =>
    obtain ⟨hInv', hP⟩ := hStep _ _ hInv hOther hNext
    obtain ⟨rest, hCons⟩ := List.head?_eq_some_iff.mp hPath.head
    intro x hx
    rw [List.tail_cons, hCons] at hx
    rcases List.mem_cons.mp hx with rfl | hx
    · exact hP
    · exact ih hInv' x (by rw [hCons]; exact hx)

/-- A packet whose hops lower a rank makes no more hops than its rank. -/
theorem HopSequence.length_le {Inv : Node → Prop} {rank : Node → Nat}
    (hStep : ∀ a b, Inv a → N.owns a dest = false → N.next dest a = some b →
      Inv b ∧ rank b < rank a)
    {path : List Node} (h : N.HopSequence dest node path) (hInv : Inv node) :
    path.length ≤ rank node + 1 := by
  induction h with
  | arrived => rw [List.length_singleton]; omega
  | hop hOther hNext _ ih =>
    obtain ⟨hInv', hLower⟩ := hStep _ _ hInv hOther hNext
    have := ih hInv'
    rw [List.length_cons]
    omega

/-- **Delivery by rank.** If every node in `Inv` owns the destination or has a
next hop in `Inv` of a lower rank, a packet is delivered and visits no node
twice. -/
theorem exists_hopSequence {Inv : Node → Prop} {rank : Node → Nat}
    (hStep : ∀ node, Inv node → N.owns node dest = false →
      ∃ node', N.next dest node = some node' ∧ Inv node' ∧ rank node' < rank node)
    (hInv : Inv node) : ∃ path, N.HopSequence dest node path ∧ path.Nodup := by
  -- the ranks along the path stay at most the rank of its first node
  suffices h : ∃ path, N.HopSequence dest node path ∧ path.Nodup ∧
      ∀ x ∈ path, rank x ≤ rank node by
    obtain ⟨path, hPath, hNodup, -⟩ := h
    exact ⟨path, hPath, hNodup⟩
  induction hRank : rank node using Nat.strong_induction_on generalizing node with
  | _ r ih =>
    cases hOwns : N.owns node dest with
    | true => exact ⟨[node], .arrived hOwns, List.nodup_singleton _, by simp [hRank]⟩
    | false =>
      obtain ⟨node', hNext, hInv', hLower⟩ := hStep node hInv hOwns
      obtain ⟨path, hPath, hNodup, hBound⟩ := ih (rank node') (by omega) hInv' rfl
      refine ⟨node :: path, .hop hOwns hNext hPath, List.nodup_cons.mpr ⟨fun hMem => ?_, hNodup⟩,
        fun x hx => ?_⟩
      · have := hBound node hMem
        omega
      · rcases List.mem_cons.mp hx with rfl | hx
        · omega
        · have := hBound x hx
          omega

end Network

end Forwarding
