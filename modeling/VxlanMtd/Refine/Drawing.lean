import VxlanMtd.Model.Drawing

/-!
# The engine draws from its table

`Drawing.run_generate`: when the questions of `Drawing.generate` are answered
from a table of `Draws`, the result is that of `VMTDEngine.generate`. The two
are followed function by function; what holds of every course of the first
(`Asking.Always`) then holds of the second, whatever the draws.
-/

namespace VxlanMtd

/-- What the table has for a question. -/
def Draws.answer (draws : Draws) : ∀ q, Answer q
  | .bounded .groupCount _ _ _ => draws.groupCount
  | .bounded (.vlanId i) _ _ _ => draws.vlanId i
  | .bounded (.octet3 i) _ _ _ => draws.octet3 i
  | .bounded (.octet4 g t) _ _ _ => draws.octet4 g t
  | .bounded (.link4 g) _ _ _ => draws.link4 g
  | .shuffle .participants _ => draws.participants
  | .shuffle .groups _ => draws.groups
  | .shuffle .gateways _ => draws.gateways
  | .qrand g => draws.gateway g

namespace Drawing

variable {settings : VMTDSettings} {draws : Draws} {engine : VMTDEngine}

theorem run_bounded (place : Place) (lowest highest : Int) (used : List Int) :
    (bounded place lowest highest used).run Accepts draws.answer =
      drawUnused lowest highest used (draws.answer (.bounded place lowest highest used)) := rfl

/-- What is drawn from a range only if it should be. -/
theorem run_drawIf (shouldRandomize : Bool) (place : Place) (lowest highest : Int)
    (used : List Int) (fixed : Int) :
    (drawIf shouldRandomize place lowest highest used fixed).run Accepts draws.answer =
      VxlanMtd.drawIf shouldRandomize lowest highest used
        (draws.answer (.bounded place lowest highest used)) fixed := by
  cases shouldRandomize <;> rfl

/-- What is shuffled only if it should be. -/
theorem run_shuffleIf (shouldRandomize : Bool) (which : Shuffled) (items : List Nat) :
    (shuffleIf shouldRandomize which items).run Accepts draws.answer =
      VxlanMtd.shuffleIf shouldRandomize items (draws.answer (.shuffle which items)) := by
  cases shouldRandomize <;> rfl

/-- Without randomisation nothing is asked, the index is 0. -/
theorem run_qrandIf (shouldRandomize : Bool) (group : Nat) :
    (qrandIf shouldRandomize group).run Accepts draws.answer =
      some (if shouldRandomize then draws.gateway group else 0) := by
  cases shouldRandomize <;> rfl

theorem run_ite {α : Type} {c : Prop} [Decidable c] (x y : Drawing α) :
    (if c then x else y).run Accepts draws.answer =
      if c then x.run Accepts draws.answer else y.run Accepts draws.answer := by
  split <;> rfl

-- ---------------------------------------------------------------------------
-- Function by function
-- ---------------------------------------------------------------------------

/-- The octet asked for is the one of that place in the group. -/
theorem run_addParticipant (g t : Nat) (group : VMTDGroup) (participant : Nat)
    (participants : List VMTDParticipant) :
    (addParticipant settings (.octet4 g t) group participant participants).run Accepts
        draws.answer =
      group.addParticipant settings (draws.octet4 g t) participant participants := by
  unfold addParticipant VMTDGroup.addParticipant
  simp only [run_ite, Asking.run_pure, Asking.run_bind, run_drawIf]
  rfl

/-- The octet asked for is the one of that link. -/
theorem run_setExternalGateway (g : Nat) (group : VMTDGroup) (externalGateway : Nat)
    (participants : List VMTDParticipant) :
    (setExternalGateway settings (.link4 g) group externalGateway participants).run Accepts
        draws.answer =
      group.setExternalGateway settings (draws.link4 g) externalGateway participants := by
  unfold setExternalGateway VMTDGroup.setExternalGateway
  simp only [run_ite, Asking.run_pure, Asking.run_bind, Asking.run_ofOption, run_drawIf]
  rfl

/-- The pass that creates a group. -/
theorem run_createGroup (size : Nat) (created : List VMTDGroup × List Int × List Int) (i : Nat) :
    (createGroup settings draws.groupCount size created i).run Accepts draws.answer =
      VMTDEngine.createGroup settings draws size created i := by
  unfold createGroup VMTDEngine.createGroup
  simp only [Asking.run_bind, Asking.run_pure, run_drawIf]
  rfl

/-- The loop that fills a group, participant by participant. -/
theorem run_fillGroup (group : Nat) (participants : List Nat) :
    (fillGroup settings group participants engine).run Accepts draws.answer =
      VMTDEngine.fillGroup settings draws group participants engine := by
  induction participants generalizing engine with
  | nil =>
    rw [fillGroup, VMTDEngine.fillGroup]
    simp only [Asking.run_bind, Asking.run_ofOption, run_ite, Asking.run_pure]
    rfl
  | cons participant rest ih =>
    rw [fillGroup, VMTDEngine.fillGroup]
    simp only [Asking.run_bind, Asking.run_ofOption, run_ite, Asking.run_pure, run_addParticipant,
      ih]
    rfl

/-- The loop over the groups. -/
theorem run_fillGroups (groups participants : List Nat) :
    (fillGroups settings groups participants engine).run Accepts draws.answer =
      VMTDEngine.fillGroups settings draws groups participants engine := by
  induction groups generalizing participants engine with
  | nil => rfl
  | cons group groups ih =>
    rw [fillGroups, VMTDEngine.fillGroups]
    simp only [Asking.run_bind, run_fillGroup, ih]
    rfl

/-- `createGroups`: the questions of its four loops are answered in their order. -/
theorem run_createGroups :
    (createGroups settings engine).run Accepts draws.answer =
      VMTDEngine.createGroups settings draws engine := by
  unfold createGroups createGroupsOf VMTDEngine.createGroups
  simp only [Asking.run_bind, run_bounded, Asking.run_foldlM, run_shuffleIf, run_fillGroups]
  change (drawUnused 2 _ [] (draws.groupCount : Int)).bind _ = _
  unfold drawUnused
  by_cases hCount : Bounded 2 engine.participants.length draws.groupCount
  · rw [if_pos ⟨hCount, List.not_mem_nil⟩, if_pos hCount]
    simp only [Option.bind_some, Int.toNat_natCast, run_createGroup]
    rfl
  · rw [if_neg fun h => hCount h.1, if_neg hCount]
    rfl

/-- The pass that picks a gateway. -/
theorem run_selectGateway (selected : List Nat × VMTDEngine) (i : Nat) :
    (selectGateway settings selected i).run Accepts draws.answer =
      VMTDEngine.selectGateway settings draws selected i := by
  unfold selectGateway VMTDEngine.selectGateway
  simp only [Asking.run_bind, Asking.run_ofOption, run_qrandIf, Asking.run_pure, Option.bind_some]
  cases settings.shouldRandomizeGateway <;> rfl

/-- The loop that links the gateways, from one to the next. -/
theorem run_linkGateways (gateways : List Nat) :
    (linkGateways settings gateways engine).run Accepts draws.answer =
      VMTDEngine.linkGateways settings draws gateways engine := by
  induction gateways generalizing engine with
  | nil => rfl
  | cons internalGateway rest ih =>
    cases rest with
    | nil =>
      rw [linkGateways, VMTDEngine.linkGateways]
      simp only [Asking.run_bind, Asking.run_ofOption, Asking.run_pure]
      rfl
    | cons externalGateway rest =>
      rw [linkGateways, VMTDEngine.linkGateways]
      simp only [Asking.run_bind, Asking.run_ofOption, run_setExternalGateway, ih]
      rfl

/-- `createGateways`: only the gateways and the links are drawn, the routes are
not. -/
theorem run_createGateways :
    (createGateways settings engine).run Accepts draws.answer =
      VMTDEngine.createGateways settings draws engine := by
  unfold createGateways VMTDEngine.createGateways
  simp only [Asking.run_bind, Asking.run_ofOption, Asking.run_foldlM, run_selectGateway,
    run_shuffleIf, run_linkGateways]
  rfl

/-- **Answered from a table, `generate` is the engine's.** -/
theorem run_generate (rows : List DeviceRow) :
    (generate settings rows engine).run Accepts draws.answer =
      VMTDEngine.generate settings rows draws engine := by
  unfold generate VMTDEngine.generate
  simp only [run_ite, Asking.run_pure, Asking.run_bind, run_createGroups, run_createGateways]
  rfl

end Drawing

end VxlanMtd
