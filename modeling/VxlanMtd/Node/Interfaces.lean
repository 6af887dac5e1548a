import VxlanMtd.Lib.Run
import VxlanMtd.Model.Configurator
import Mathlib.Data.Finset.Card

/-!
# The VLAN interfaces of a host

`VMTDConfigurator` together with the host it configures: the netplan files
`applyNetplanSlot` writes, and the VLAN interfaces its commands remove and
create. What netplan makes of a text is netplan's business and an argument,
`named`.

**`noStaleVlan_iff`**: over any sequence of method calls, every apply leaves
exactly the VLANs the two texts name if and only if at every apply each VLAN of
the configuration applied before is named again or is one of the two the
configurator remembers. A cleared text, or a second setup before an apply,
makes it forget the interface that is still there.
-/

namespace VxlanMtd

open EventRun

/-- The netplan files and the VLAN interfaces of a host. -/
structure Host where
  netplan1 : String
  netplan2 : String
  vlans : Finset String
  deriving DecidableEq

variable (named : String → Finset String)

namespace Host

/-- The VLANs the netplan files name. -/
def configured (host : Host) : Finset String := named host.netplan1 ∪ named host.netplan2

/-- A command of `applyNetplanSlot`. Routes are no interfaces. -/
def execute (host : Host) : HostCommand → Host
  | .ipLinkDelete interface => { host with vlans := host.vlans.erase interface }
  | .ipRouteFlush => host
  | .netplanApply => { host with vlans := host.vlans ∪ host.configured named }

/-- One apply: the files are written, then the commands run. -/
def apply (application : Application) (host : Host) : Host :=
  application.commands.foldl (execute named)
    { host with netplan1 := application.netplan1, netplan2 := application.netplan2 }

end Host

/-- A host with its configurator. -/
structure HostNode where
  configurator : VMTDConfigurator
  host : Host

namespace HostNode

/-- A method call. -/
def step (node : HostNode) (call : String × QJsonObject) : HostNode :=
  let handled := node.configurator.handleMethodSlot call.1 call.2
  { configurator := handled.configurator
    host := handled.application.elim node.host fun application =>
      node.host.apply named application }

/-- The node after a start: the texts are loaded from the files, and the VLANs
they name are there. -/
def start (netplan1 netplan2 hosts : String) : HostNode where
  configurator := { netplan1 := netplan1, netplan2 := netplan2, hosts := hosts }
  host := ⟨netplan1, netplan2, named netplan1 ∪ named netplan2⟩

/-- After an apply the VLANs are those of the current texts. -/
def NoStaleVlan (node : HostNode) (call : String × QJsonObject) : Prop :=
  call.1 = EnName.applyNetplan.text →
    (node.step named call).host.vlans =
      named (node.step named call).configurator.netplan1 ∪
        named (node.step named call).configurator.netplan2

/-- The interfaces the configurator remembers from the texts the last setup
requests replaced. -/
def remembered (configurator : VMTDConfigurator) : Finset String :=
  ({configurator.vlanInterface1, configurator.vlanInterface2} : Finset String).erase ""

/-- Before an apply, each VLAN of the files is named in a current text or
remembered. -/
def OldVlansKnown (node : HostNode) (call : String × QJsonObject) : Prop :=
  call.1 = EnName.applyNetplan.text →
    node.host.configured named ⊆
      named node.configurator.netplan1 ∪ named node.configurator.netplan2 ∪
        remembered node.configurator

variable {named}

/-- What the commands of an apply do to the host: the remembered interfaces
go, those of the two texts come. -/
theorem apply_applyNetplanSlot (configurator : VMTDConfigurator) (host : Host) :
    host.apply named configurator.applyNetplanSlot =
      { netplan1 := configurator.netplan1
        netplan2 := configurator.netplan2
        vlans := (host.vlans \ remembered configurator) ∪
          (named configurator.netplan1 ∪ named configurator.netplan2) } := by
  -- an interface is deleted by a command, or by none when its name is empty
  have hDelete : ∀ (interface : String) (host : Host),
      (if interface ≠ "" then [HostCommand.ipLinkDelete interface] else []).foldl
          (Host.execute named) host =
        { host with vlans := host.vlans \ ({interface} : Finset String).erase "" } := by
    intro interface host
    by_cases hEmpty : interface = ""
    · rw [if_neg (not_not.mpr hEmpty), hEmpty, Finset.erase_singleton, Finset.sdiff_empty]
      rfl
    · rw [if_pos hEmpty, Finset.erase_eq_of_notMem fun hMem =>
        hEmpty (Finset.mem_singleton.mp hMem).symm, Finset.sdiff_singleton_eq_erase]
      rfl
  have hRemembered : remembered configurator =
      ({configurator.vlanInterface1} : Finset String).erase "" ∪
        ({configurator.vlanInterface2} : Finset String).erase "" := by
    rw [← Finset.erase_union_distrib]
    rfl
  have hTwice : (host.vlans \ ({configurator.vlanInterface1} : Finset String).erase "") \
      ({configurator.vlanInterface2} : Finset String).erase "" =
        host.vlans \ remembered configurator := hRemembered ▸ sdiff_sdiff_left
  unfold Host.apply VMTDConfigurator.applyNetplanSlot
  dsimp only
  rw [List.foldl_append, List.foldl_append, hDelete, hDelete, ← hTwice]
  rfl

/-- Only `applyNetplan` reaches the host. -/
theorem step_host {node : HostNode} {call : String × QJsonObject}
    (h : call.1 ≠ EnName.applyNetplan.text) : (node.step named call).host = node.host := by
  unfold step
  dsimp only
  rw [VMTDConfigurator.application_handleMethodSlot h]
  rfl

theorem step_applyNetplan {node : HostNode} {call : String × QJsonObject}
    (h : call.1 = EnName.applyNetplan.text) :
    node.step named call =
      ⟨node.configurator, node.host.apply named node.configurator.applyNetplanSlot⟩ := by
  unfold step
  rw [h, VMTDConfigurator.handleMethodSlot_text]
  rfl

/-- Between applies the VLANs of the host are those its files name. -/
def Settled (named : String → Finset String) (node : HostNode) : Prop :=
  node.host.vlans = node.host.configured named

/-- One apply on a settled host: it leaves no stale VLAN exactly when the old
ones are known. -/
theorem noStaleVlan_iff_oldVlansKnown {node : HostNode} (hSettled : node.Settled named)
    (call : String × QJsonObject) :
    node.NoStaleVlan named call ↔ node.OldVlansKnown named call := by
  refine forall_congr' fun hApply => ?_
  rw [step_applyNetplan hApply, apply_applyNetplanSlot]
  dsimp only
  rw [Finset.union_eq_right, hSettled]
  -- a VLAN survives the deletions unless it is remembered
  constructor
  · intro hGone v hv
    rw [Finset.mem_union]
    by_cases hKnown : v ∈ remembered node.configurator
    · exact Or.inr hKnown
    · exact Or.inl (hGone (Finset.mem_sdiff.mpr ⟨hv, hKnown⟩))
  · intro hKnown v hv
    obtain ⟨hOld, hForgotten⟩ := Finset.mem_sdiff.mp hv
    exact (Finset.mem_union.mp (hKnown hOld)).resolve_right hForgotten

/-- A host stays settled as long as applies leave nothing behind. -/
theorem settled_step {node : HostNode} (hSettled : node.Settled named)
    {call : String × QJsonObject} (hCall : node.OldVlansKnown named call) :
    (node.step named call).Settled named := by
  by_cases hApply : call.1 = EnName.applyNetplan.text
  · have hNoStale := (noStaleVlan_iff_oldVlansKnown hSettled call).mpr hCall hApply
    unfold Settled
    rw [hNoStale, step_applyNetplan hApply, apply_applyNetplanSlot]
    rfl
  · unfold Settled
    rw [step_host hApply]
    exact hSettled

end HostNode

/-- **No stale VLAN interface**, exactly: whatever the host was started with
and whatever methods are called, the applies leave no stale VLAN if and only if
the configurator knows the old VLANs at each of them. -/
theorem noStaleVlan_iff (netplan1 netplan2 hosts : String)
    (calls : List (String × QJsonObject)) :
    Along (HostNode.step named) (HostNode.NoStaleVlan named)
        (HostNode.start named netplan1 netplan2 hosts) calls ↔
      Along (HostNode.step named) (HostNode.OldVlansKnown named)
        (HostNode.start named netplan1 netplan2 hosts) calls := by
  have hStart : (HostNode.start named netplan1 netplan2 hosts).Settled named := rfl
  refine along_iff_of_invariant hStart ?_ ?_
  · exact fun node call hSettled => HostNode.noStaleVlan_iff_oldVlansKnown hSettled call
  · exact fun node call hSettled hCall => HostNode.settled_step hSettled hCall

/-- The names `vlan.N` in a text. -/
def vlanNames (netplan : String) : Finset String :=
  ((Pattern.globalMatch (Pattern.literal "vlan." ++ [.plus Char.isDigit]) netplan.toList).map
    fun pieces => String.ofList pieces.flatten).toFinset

/-- A text that sets VLAN 20 up. -/
def netplanVlan20 : String :=
  "network:\n  vlans:\n    vlan.20:\n      id: 20\n      link: eth0\n" ++
    "      addresses: [ \"100.100.20.1/24\" ]\n      macaddress: aa:bb:cc:dd:14:01\n"

/-- A cleared interface stays: nothing remembers its name. -/
theorem cleared_vlan_stays :
    ¬ ∀ (netplan1 netplan2 hosts : String) (calls : List (String × QJsonObject)),
        (vlanNames netplan1).card ≤ 1 → (vlanNames netplan2).card ≤ 1 →
          Along (HostNode.step vlanNames) (HostNode.NoStaleVlan vlanNames)
            (HostNode.start vlanNames netplan1 netplan2 hosts) calls := by
  intro hClaim
  have hRun := hClaim netplanVlan20 "" ""
    [(EnName.clearInterface1.text, []), (EnName.applyNetplan.text, [])]
    (by decide +kernel) (by decide +kernel)
  exact absurd (hRun.2.1 rfl) (by decide +kernel)

end VxlanMtd
