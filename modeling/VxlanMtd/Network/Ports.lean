import VxlanMtd.Engine.Vlans
import VxlanMtd.Lib.Table

/-!
# The ports of the switches

What the command lists of `run` leave on the switches, over any history of
reconfigurations, if they do what NX-OS documents: `switchport trunk allowed
vlan` with a list replaces the VLANs of the interface that was entered before,
and no other line of the lists changes any. The switches are reached in whatever
order the set of their URLs has.

* `filter_portWrites` — what a reconfiguration writes to one port;
* **`ports_after_runs`** — a port has the VLANs of the last participant ever
  configured on it, and keeps them while no later participant is on it;
* `ports_after_run` — with one participant on a port, its own VLANs.
-/

namespace VxlanMtd

-- addresses are opaque here; unfolding them would make Lean render templates
attribute [local irreducible] networkText macText PlaceMarker.arg

-- ---------------------------------------------------------------------------
-- Ports
-- ---------------------------------------------------------------------------

/-- The switch and the port a participant is plugged into. -/
def VMTDParticipant.plug (q : VMTDParticipant) : String × String := (q.switchUrl, q.switchPort)

/-- The VLANs allowed on the ports of all switches, by URL and port. -/
abbrev SwitchPorts := String × String → Option (List Int)

/-- What emitted command lists write, in order. -/
def portWrites (emitted : List (String × CommandList)) : List ((String × String) × List Int) :=
  emitted.flatMap fun list =>
    (readBlocks list.2).map fun block => ((list.1, block.port), block.vlans)

/-- The ports once the switches have executed the lists. The switches are not
part of the program; this is what NX-OS documents for `interface` and
`switchport trunk allowed vlan`: the list replaces the one of that interface. -/
def SwitchPorts.execute (ports : SwitchPorts) (emitted : List (String × CommandList)) :
    SwitchPorts :=
  (portWrites emitted).foldl (fun ports write => Function.update ports write.1 (some write.2)) ports

/-- The participants a reconfiguration emits anything for. -/
def VMTDEngine.served (engine : VMTDEngine) : List VMTDParticipant :=
  if engine.participants.length < 2 then [] else engine.participants

/-- What is written for a participant. -/
def VMTDParticipant.portWrite (q : VMTDParticipant) : (String × String) × List Int :=
  (q.plug, q.openVlans)

-- ---------------------------------------------------------------------------
-- One reconfiguration
-- ---------------------------------------------------------------------------

/-- The writes, switch by switch. -/
theorem portWrites_createCommands (engine : VMTDEngine) (urls : List String) :
    portWrites (engine.createCommands urls) =
      (urls.flatMap fun url => engine.participants.filter fun q => q.switchUrl == url).map
        VMTDParticipant.portWrite := by
  unfold portWrites VMTDEngine.createCommands
  rw [List.flatMap_map, List.map_flatMap]
  refine List.flatMap_congr fun url _ => ?_
  dsimp only
  rw [readBlocks_commands, List.map_map]
  refine List.map_congr_left fun q hq => ?_
  have hUrl := beq_iff_eq.mp (List.mem_filter.mp hq).2
  rw [Function.comp_apply, VMTDParticipant.portWrite, VMTDParticipant.plug, hUrl]

/-- **What a reconfiguration writes to one port**: the VLANs of the participants
on it, in the order of the participants, whatever the order of the switches. -/
theorem filter_portWrites {engine : VMTDEngine} {urls : List String} (hUrls : engine.UrlSet urls)
    (plug : String × String) :
    ((portWrites (engine.run urls).1).filter fun write => write.1 = plug) =
      (engine.served.filter fun q => q.plug = plug).map VMTDParticipant.portWrite := by
  unfold VMTDEngine.run VMTDEngine.served
  by_cases hFew : engine.participants.length < 2
  · rw [if_pos hFew, if_pos hFew]
    rfl
  rw [if_neg hFew, if_neg hFew, portWrites_createCommands, List.filter_map]
  refine congrArg _ ?_
  -- the writes to a port are all for one switch
  refine Table.filter_flatMap_parts (t := plug.1) hUrls.1 VMTDParticipant.switchUrl
    (fun q hq => ?_) fun q hq => (hUrls.2 _).mpr ⟨q, hq, rfl⟩
  exact congrArg Prod.fst (of_decide_eq_true hq)

-- ---------------------------------------------------------------------------
-- Any history
-- ---------------------------------------------------------------------------

/-- The ports after a history of reconfigurations. -/
def SwitchPorts.executeRuns (ports : SwitchPorts) (runs : List (VMTDEngine × List String)) :
    SwitchPorts :=
  runs.foldl (fun ports run => ports.execute (run.1.run run.2).1) ports

/-- Executing lists one after the other is executing all their writes. -/
theorem executeRuns_eq (ports : SwitchPorts) (runs : List (VMTDEngine × List String)) :
    ports.executeRuns runs =
      (runs.flatMap fun run => portWrites (run.1.run run.2).1).foldl
        (fun (ports : SwitchPorts) write => Function.update ports write.1 (some write.2)) ports := by
  induction runs generalizing ports with
  | nil => rfl
  | cons run runs ih =>
    rw [List.flatMap_cons, List.foldl_append]
    exact ih _

/-- **Ports over whole histories.** Whatever the ports allowed before, after any
reconfigurations a port allows the VLANs of the last participant that any of
them configured on it; where there is none, what it allowed before. -/
theorem ports_after_runs (ports : SwitchPorts) {runs : List (VMTDEngine × List String)}
    (hUrls : ∀ run ∈ runs, run.1.UrlSet run.2) (plug : String × String) :
    ports.executeRuns runs plug =
      ((((runs.flatMap fun run => run.1.served).filter fun q => q.plug = plug).getLast?).map
        VMTDParticipant.openVlans).or (ports plug) := by
  have hWrites : ((runs.flatMap fun run => portWrites (run.1.run run.2).1).filter
        fun write => write.1 = plug) =
      ((runs.flatMap fun run => run.1.served).filter fun q => q.plug = plug).map
        VMTDParticipant.portWrite := by
    rw [List.filter_flatMap, List.filter_flatMap, List.map_flatMap]
    exact List.flatMap_congr fun run hRun => filter_portWrites (hUrls run hRun) plug
  rw [executeRuns_eq, Table.foldl_update, Table.lookup_reverse, hWrites, List.getLast?_map,
    Option.map_map]
  rfl

/-- After a reconfiguration, a participant that has its port for itself finds
its VLANs open there. -/
theorem ports_after_run (ports : SwitchPorts) {engine : VMTDEngine} {urls : List String}
    (hTwo : 2 ≤ engine.participants.length) (hUrls : engine.UrlSet urls)
    (hPlugs : (engine.participants.map VMTDParticipant.plug).Nodup) {q : VMTDParticipant}
    (hq : q ∈ engine.participants) :
    ports.execute (engine.run urls).1 q.plug = some q.openVlans := by
  have hServed : engine.served = engine.participants := if_neg (by omega)
  have hOne := @ports_after_runs ports [(engine, urls)]
    (fun run hRun => by rwa [List.mem_singleton.mp hRun]) q.plug
  rw [List.flatMap_cons, List.flatMap_nil, List.append_nil, hServed] at hOne
  rw [Table.filter_key_eq_singleton hPlugs hq] at hOne
  exact hOne

/-- Participants that are all on one switch. -/
theorem urlSet_singleton {engine : VMTDEngine} {url : String}
    (hSome : engine.participants ≠ []) (hUrl : ∀ q ∈ engine.participants, q.switchUrl = url) :
    engine.UrlSet [url] := by
  refine ⟨List.nodup_singleton _, fun url' => ?_⟩
  rw [List.mem_singleton]
  constructor
  · rintro rfl
    obtain ⟨q, hq⟩ := List.exists_mem_of_ne_nil _ hSome
    exact ⟨q, hq, hUrl q hq⟩
  · rintro ⟨q, hq, rfl⟩
    exact hUrl q hq

/-- Two reconfigurations of two hosts on one switch. -/
theorem ports_after_runs_twoRows :
    ∃ engine', VMTDEngine.generate {} twoRows (twoGroups 1) {} = some engine' ∧
      ∀ plug, SwitchPorts.executeRuns (fun _ => none)
          [(engine', ["http://leaf"]), (engine', ["http://leaf"])] plug =
        (((([(engine', ["http://leaf"]), (engine', ["http://leaf"])].flatMap fun run =>
          run.1.served).filter fun q => q.plug = plug).getLast?).map
            VMTDParticipant.openVlans).or none := by
  have hRun : (VMTDEngine.generate {} twoRows (twoGroups 1) {}).any (fun engine' =>
      decide (engine'.participants ≠ [] ∧
        ∀ q ∈ engine'.participants, q.switchUrl = "http://leaf")) = true := by
    decide +kernel
  obtain ⟨engine', hEngine, hAll⟩ := Option.any_eq_true _ _ |>.mp hRun
  obtain ⟨hSome, hUrl⟩ := of_decide_eq_true hAll
  have hUrls := urlSet_singleton hSome hUrl
  refine ⟨engine', hEngine, fun plug => ports_after_runs _ (fun run hRun => ?_) plug⟩
  simp only [List.mem_cons, List.not_mem_nil, or_false, or_self] at hRun
  rwa [hRun]

end VxlanMtd
