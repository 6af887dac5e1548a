import VxlanMtd.Model.HostFiles
import VxlanMtd.Node.HostsRewrite

/-!
# Node — what an apply leaves behind

A failed step does not stop an apply, nothing is undone, and the request is
answered with `true` whatever happened.

## Results

* `request_applyNetplan` — the answer, the files and the exit code.
* `perform_netplan1`, `perform_netplan2`, `perform_hosts` — the three files
  afterwards.
* `allOrNothing_iff` — exactly when the answer is true to the host: every
  netplan file was written or has its text, the hosts file could be rewritten
  with the block in it or has it, and the command succeeded.
-/

namespace VxlanMtd

-- ---------------------------------------------------------------------------
-- The promise
-- ---------------------------------------------------------------------------

/-- The three files hold the configuration: the texts of the interfaces, and in
the hosts file one block with the current text, with what was around it kept. -/
structure HoldConfiguration (settings : VMTDSettings) (configurator : VMTDConfigurator)
    (before after : HostFiles) : Prop where
  netplan1 : after (netplan1FilePath settings) = some configurator.netplan1
  netplan2 : after (netplan2FilePath settings) = some configurator.netplan2
  hosts : ∃ old new, before hostsFilePath = some old ∧ after hostsFilePath = some new ∧
    HoldsBlock old.toList configurator.hosts new.toList

/-- An apply takes effect and is answered with `true`, or has no effect and is
answered with something else. -/
def AllOrNothing (settings : VMTDSettings) (outcome : HostOutcome) (params : QJsonObject)
    (configurator : VMTDConfigurator) (files : HostFiles) : Prop :=
  ∀ result after exitCode,
    configurator.request settings outcome EnName.applyNetplan.text params files =
      (result, after, exitCode) →
    (HoldConfiguration settings configurator files after ∧ exitCode = some 0 ∧
      result = .bool true) ∨
    (result ≠ .bool true ∧
      ∀ filePath ∈ [netplan1FilePath settings, netplan2FilePath settings, hostsFilePath],
        after filePath = files filePath)

/-- The command succeeds, every netplan file is written or has its text already
(both can have the same name), and the hosts file can be rewritten with a content
that fits into it or, where it is not opened, has it already. -/
structure Effective (settings : VMTDSettings) (outcome : HostOutcome)
    (configurator : VMTDConfigurator) (files : HostFiles) : Prop where
  command : outcome.exitCode configurator.applyNetplanSlot.shellText = 0
  names : netplan1FilePath settings = netplan2FilePath settings →
    configurator.netplan1 = configurator.netplan2
  netplan1 : outcome.opensNetplan1 = true ∨
    (netplan1FilePath settings = netplan2FilePath settings ∧ outcome.opensNetplan2 = true) ∨
    files (netplan1FilePath settings) = some configurator.netplan1
  netplan2 : outcome.opensNetplan2 = true ∨
    (netplan1FilePath settings = netplan2FilePath settings ∧ outcome.opensNetplan1 = true) ∨
    files (netplan2FilePath settings) = some configurator.netplan2
  hosts : ∃ text, files hostsFilePath = some text ∧
    if outcome.readsHosts = true ∧ outcome.rewritesHosts = true then
      Writable configurator.hosts ∧ Rewritable text.toList
    else Current text.toList configurator.hosts

-- ---------------------------------------------------------------------------
-- The files afterwards
-- ---------------------------------------------------------------------------

variable {settings : VMTDSettings} {outcome : HostOutcome} {configurator : VMTDConfigurator}
  {files : HostFiles} {filePath data : String}

/-- The answer does not depend on what happens. -/
theorem request_applyNetplan (params : QJsonObject) :
    configurator.request settings outcome EnName.applyNetplan.text params files =
      (.bool true, (configurator.applyNetplanSlot.perform settings outcome files).1,
        some (outcome.exitCode configurator.applyNetplanSlot.shellText)) := by
  rw [VMTDConfigurator.request, VMTDConfigurator.handleMethodSlot_text]
  rfl

theorem hostsFilePath_ne (fileName : String) : hostsFilePath ≠ netplanFilePath fileName := by
  intro h
  have hSixth := congrArg (fun s : String => s.toList[5]?) h
  rw [netplanFilePath, String.toList_append] at hSixth
  exact absurd hSixth (by simp [hostsFilePath, netplanPathTemplate])

theorem netplan1FilePath_ne (settings : VMTDSettings) :
    netplan1FilePath settings ≠ hostsFilePath :=
  (hostsFilePath_ne settings.netplan1FileName).symm

theorem netplan2FilePath_ne (settings : VMTDSettings) :
    netplan2FilePath settings ≠ hostsFilePath :=
  (hostsFilePath_ne settings.netplan2FileName).symm

theorem save_apply (opens : Bool) (other : String) :
    files.save opens filePath data other =
      if opens = true ∧ other = filePath then some data else files other := by
  cases opens with
  | false => simp [HostFiles.save]
  | true => simp [HostFiles.save, Function.update_apply]

theorem saveHosts_apply_of_ne (reads rewrites : Bool) {other : String} (h : other ≠ filePath) :
    files.saveHosts reads rewrites filePath data other = files other := by
  unfold HostFiles.saveHosts
  cases files filePath with
  | none => rfl
  | some text =>
    dsimp only
    split
    · exact Function.update_of_ne h _ _
    · rfl

/-- Without the file, and where it cannot be read or rewritten, it stays as it
is. -/
theorem saveHosts_apply (reads rewrites : Bool) :
    files.saveHosts reads rewrites filePath data filePath =
      (files filePath).map fun text =>
        if reads = true ∧ rewrites = true then String.ofList (saveHosts text.toList data)
        else text := by
  unfold HostFiles.saveHosts
  cases hFile : files filePath with
  | none => exact hFile
  | some text =>
    dsimp only
    by_cases hOpens : reads = true ∧ rewrites = true
    · rw [if_pos (Bool.and_eq_true _ _ ▸ hOpens), Function.update_self, Option.map_some,
        if_pos hOpens]
    · rw [if_neg (Bool.and_eq_true _ _ ▸ hOpens), hFile, Option.map_some, if_neg hOpens]

/-- The second file after an apply. -/
theorem perform_netplan2 :
    (configurator.applyNetplanSlot.perform settings outcome files).1 (netplan2FilePath settings) =
      if outcome.opensNetplan2 = true then some configurator.netplan2
      else if outcome.opensNetplan1 = true ∧
          netplan2FilePath settings = netplan1FilePath settings then some configurator.netplan1
      else files (netplan2FilePath settings) := by
  unfold Application.perform
  dsimp only
  rw [saveHosts_apply_of_ne _ _ (netplan2FilePath_ne settings), save_apply, save_apply]
  simp only [and_true, VMTDConfigurator.applyNetplanSlot]

/-- The first file after an apply. The second is written later. -/
theorem perform_netplan1 :
    (configurator.applyNetplanSlot.perform settings outcome files).1 (netplan1FilePath settings) =
      if outcome.opensNetplan2 = true ∧
          netplan1FilePath settings = netplan2FilePath settings then some configurator.netplan2
      else if outcome.opensNetplan1 = true then some configurator.netplan1
      else files (netplan1FilePath settings) := by
  unfold Application.perform
  dsimp only
  rw [saveHosts_apply_of_ne _ _ (netplan1FilePath_ne settings), save_apply, save_apply]
  simp only [and_true, VMTDConfigurator.applyNetplanSlot]

/-- The hosts file after an apply. -/
theorem perform_hosts :
    (configurator.applyNetplanSlot.perform settings outcome files).1 hostsFilePath =
      (files hostsFilePath).map fun text =>
        if outcome.readsHosts = true ∧ outcome.rewritesHosts = true then
          String.ofList (saveHosts text.toList configurator.hosts)
        else text := by
  unfold Application.perform
  dsimp only
  rw [saveHosts_apply, save_apply, save_apply, if_neg fun h => netplan2FilePath_ne settings h.2.symm,
    if_neg fun h => netplan1FilePath_ne settings h.2.symm]
  rfl

-- ---------------------------------------------------------------------------
-- The promise, file by file
-- ---------------------------------------------------------------------------

/-- The answer is always `true`, so an apply has to take effect. -/
theorem allOrNothing_iff_holds (params : QJsonObject) :
    AllOrNothing settings outcome params configurator files ↔
      HoldConfiguration settings configurator files
        (configurator.applyNetplanSlot.perform settings outcome files).1 ∧
      outcome.exitCode configurator.applyNetplanSlot.shellText = 0 := by
  constructor
  · intro h
    rcases h _ _ _ (request_applyNetplan params) with ⟨hHold, hExit, -⟩ | ⟨hResult, -⟩
    · exact ⟨hHold, Option.some_injective _ hExit⟩
    · exact absurd rfl hResult
  · rintro ⟨hHold, hExit⟩ result after exitCode hRequest
    rw [request_applyNetplan, Prod.mk.injEq, Prod.mk.injEq] at hRequest
    obtain ⟨rfl, rfl, rfl⟩ := hRequest
    exact Or.inl ⟨hHold, congrArg some hExit, rfl⟩

/-- The hosts file holds the configuration when it was rewritten and could be,
or is left as it is and does already. -/
theorem holds_hosts_iff :
    (∃ old new, files hostsFilePath = some old ∧
      (configurator.applyNetplanSlot.perform settings outcome files).1 hostsFilePath = some new ∧
        HoldsBlock old.toList configurator.hosts new.toList) ↔
      ∃ text, files hostsFilePath = some text ∧
        if outcome.readsHosts = true ∧ outcome.rewritesHosts = true then
          Writable configurator.hosts ∧ Rewritable text.toList
        else Current text.toList configurator.hosts := by
  refine exists_congr fun text => ?_
  rw [exists_and_left]
  refine and_congr_right fun hText => ?_
  rw [perform_hosts, hText, Option.map_some]
  simp only [Option.some_inj, exists_eq_left']
  by_cases hOpens : outcome.readsHosts = true ∧ outcome.rewritesHosts = true
  · rw [if_pos hOpens, if_pos hOpens, String.toList_ofList]
    exact holdsBlock_saveHosts_iff text.toList configurator.hosts
  · rw [if_neg hOpens, if_neg hOpens]
    exact holdsBlock_self_iff text.toList configurator.hosts

/-- The netplan files hold the configuration when each was written or is as it
would be; if they are one file, their texts have to be the same. -/
theorem holds_netplan_iff :
    ((configurator.applyNetplanSlot.perform settings outcome files).1
        (netplan1FilePath settings) = some configurator.netplan1 ∧
      (configurator.applyNetplanSlot.perform settings outcome files).1
        (netplan2FilePath settings) = some configurator.netplan2) ↔
      (netplan1FilePath settings = netplan2FilePath settings →
        configurator.netplan1 = configurator.netplan2) ∧
      (outcome.opensNetplan1 = true ∨
        (netplan1FilePath settings = netplan2FilePath settings ∧ outcome.opensNetplan2 = true) ∨
        files (netplan1FilePath settings) = some configurator.netplan1) ∧
      (outcome.opensNetplan2 = true ∨
        (netplan1FilePath settings = netplan2FilePath settings ∧ outcome.opensNetplan1 = true) ∨
        files (netplan2FilePath settings) = some configurator.netplan2) := by
  rw [perform_netplan1, perform_netplan2]
  by_cases hSame : netplan1FilePath settings = netplan2FilePath settings
  · -- one file: what it holds is the same whichever of the two is asked for
    rw [hSame]
    cases outcome.opensNetplan1 <;> cases outcome.opensNetplan2
    · simp only [Bool.false_eq_true, false_and, and_false, if_false, false_or, true_imp_iff]
      exact ⟨fun ⟨h₁, h₂⟩ => ⟨Option.some_injective _ (h₁.symm.trans h₂), h₁, h₂⟩, And.right⟩
    · simp [eq_comm]
    · simp
    · simp [eq_comm]
  · have hSame' : ¬ netplan2FilePath settings = netplan1FilePath settings := fun h => hSame h.symm
    cases outcome.opensNetplan1 <;> cases outcome.opensNetplan2 <;> simp [hSame, hSame']

/-- **When an apply is all or nothing.** Since the answer is always `true`: when
the command succeeds, and each file is written, or rewritten, as it should be or
is so already. -/
theorem allOrNothing_iff (settings : VMTDSettings) (outcome : HostOutcome) (params : QJsonObject)
    (configurator : VMTDConfigurator) (files : HostFiles) :
    AllOrNothing settings outcome params configurator files ↔
      Effective settings outcome configurator files := by
  rw [allOrNothing_iff_holds]
  constructor
  · rintro ⟨⟨hFirst, hSecond, hHosts⟩, hExit⟩
    obtain ⟨hNames, hOne, hTwo⟩ := holds_netplan_iff.mp ⟨hFirst, hSecond⟩
    exact ⟨hExit, hNames, hOne, hTwo, holds_hosts_iff.mp hHosts⟩
  · rintro ⟨hExit, hNames, hOne, hTwo, hHosts⟩
    obtain ⟨hFirst, hSecond⟩ := holds_netplan_iff.mpr ⟨hNames, hOne, hTwo⟩
    exact ⟨⟨hFirst, hSecond, holds_hosts_iff.mpr hHosts⟩, hExit⟩

/-- The command fails, and the host answers `true`. -/
theorem applies_half :
    ¬ ∀ (settings : VMTDSettings) (outcome : HostOutcome) (params : QJsonObject)
        (configurator : VMTDConfigurator) (files : HostFiles),
        AllOrNothing settings outcome params configurator files := by
  intro hClaim
  have hFails := hClaim {} ⟨true, true, true, true, fun _ => 1⟩ [] {} fun _ => some ""
  exact absurd (allOrNothing_iff_holds [] |>.mp hFails).2 (by decide)

end VxlanMtd
