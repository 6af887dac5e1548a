import VxlanMtd.Lib.Run
import VxlanMtd.Model.Settings

/-!
# Starting and stopping the engine

The timers of `VMTDEngine`. `startEngine` puts the start off by a second with a
single shot, `stopEngine` stops the reconfiguration timer, and the settings may
change at any time.

**`stopped_silent_iff`**: from every `stopEngine` to the next `startEngine` no
timer is active and nothing is reconfigured, if and only if the alert timer is
not active at any `stopEngine`, and no start that was put off comes due in
between with a timer to start.
-/

namespace VxlanMtd

open EventRun

-- ---------------------------------------------------------------------------
-- The timers
-- ---------------------------------------------------------------------------

/-- The timers of `VMTDEngine`, with the settings it reads. `pendingStarts` is
the number of single shots that have not come due. -/
structure EngineTimers where
  settings : VMTDSettings
  pendingStarts : Nat := 0
  isReconfigTimerActive : Bool := false
  isAlertCollectTimerActive : Bool := false

/-- What the timers make the engine do. -/
inductive EngineCall where
  | generate
  | run
  deriving DecidableEq, Repr

namespace EngineTimers

/-- `startEngine`. -/
def startEngine (timers : EngineTimers) : EngineTimers :=
  { timers with pendingStarts := timers.pendingStarts + 1 }

/-- `stopEngine`. -/
def stopEngine (timers : EngineTimers) : EngineTimers :=
  { timers with isReconfigTimerActive := false }

/-- `resetEngine`: an active timer is stopped and started again. -/
def resetEngine (timers : EngineTimers) : EngineTimers :=
  if timers.isReconfigTimerActive then { timers with isReconfigTimerActive := true } else timers

/-- `reconfigTimerTickSlot`. -/
def reconfigTimerTickSlot : List EngineCall := [.generate, .run]

/-- `alertCollectTimerTickSlot`, whose body is commented out. -/
def alertCollectTimerTickSlot : List EngineCall := []

/-- The function `startEngine` puts off, when it comes due. -/
def delayedStart (timers : EngineTimers) : EngineTimers × List EngineCall :=
  ({ timers with
      pendingStarts := timers.pendingStarts - 1
      isReconfigTimerActive := timers.isReconfigTimerActive || timers.settings.shouldUseReconfigTimer
      isAlertCollectTimerActive :=
        timers.isAlertCollectTimerActive || timers.settings.shouldCollectAlert },
    if timers.settings.shouldUseReconfigTimer then reconfigTimerTickSlot else [])

end EngineTimers

/-- What happens to the engine. Single shots come due and timers fire only if
there are any. -/
inductive TimerEvent where
  | startEngine
  | stopEngine
  | resetEngine
  | delayedStart
  | reconfigTimerTick
  | alertCollectTimerTick
  | changeSettings (settings : VMTDSettings)

/-- The timers after an event, and what they made the engine do. -/
def EngineTimers.react (timers : EngineTimers) : TimerEvent → EngineTimers × List EngineCall
  | .startEngine => (timers.startEngine, [])
  | .stopEngine => (timers.stopEngine, [])
  | .resetEngine => (timers.resetEngine, [])
  | .delayedStart => if timers.pendingStarts = 0 then (timers, []) else timers.delayedStart
  | .reconfigTimerTick =>
    (timers, if timers.isReconfigTimerActive then EngineTimers.reconfigTimerTickSlot else [])
  | .alertCollectTimerTick =>
    (timers, if timers.isAlertCollectTimerActive then EngineTimers.alertCollectTimerTickSlot else [])
  | .changeSettings settings => ({ timers with settings := settings }, [])

/-- The timers, and whether `stopEngine` was called after the last
`startEngine`. -/
structure EngineRun where
  timers : EngineTimers
  isStopped : Bool := false

namespace EngineRun

/-- One event. -/
def step (engineRun : EngineRun) (event : TimerEvent) : EngineRun where
  timers := (engineRun.timers.react event).1
  isStopped :=
    match event with
    | .startEngine => false
    | .stopEngine => true
    | _ => engineRun.isStopped

/-- While the engine is stopped, its timers are inactive. -/
def Quiet (engineRun : EngineRun) : Prop :=
  engineRun.isStopped = true → engineRun.timers.isReconfigTimerActive = false ∧
    engineRun.timers.isAlertCollectTimerActive = false

/-- An event leaves a stopped engine quiet, and makes it do nothing. -/
def Silent (engineRun : EngineRun) (event : TimerEvent) : Prop :=
  (engineRun.step event).Quiet ∧
    (engineRun.isStopped = true → (engineRun.timers.react event).2 = [])

/-- The engine is stopped only while the alert timer is inactive, and a start
that comes due while it is stopped has no timer to start. -/
def StopsClean (engineRun : EngineRun) : TimerEvent → Prop
  | .stopEngine => engineRun.timers.isAlertCollectTimerActive = false
  | .delayedStart => engineRun.isStopped = true → engineRun.timers.pendingStarts ≠ 0 →
      engineRun.timers.settings.shouldUseReconfigTimer = false ∧
        engineRun.timers.settings.shouldCollectAlert = false
  | _ => True

variable {engineRun : EngineRun}

-- ---------------------------------------------------------------------------
-- One event
-- ---------------------------------------------------------------------------

/-- A start that comes due while the engine is stopped. -/
theorem silent_delayedStart_iff (hQuiet : engineRun.Quiet) :
    engineRun.Silent .delayedStart ↔ engineRun.StopsClean .delayedStart := by
  by_cases hNone : engineRun.timers.pendingStarts = 0
  · -- nothing was put off, so nothing happens
    have hReact : engineRun.timers.react .delayedStart = (engineRun.timers, []) := if_pos hNone
    refine iff_of_true ⟨?_, fun _ => congrArg Prod.snd hReact⟩ fun _ hSome => absurd hNone hSome
    unfold Quiet step
    rw [hReact]
    exact hQuiet
  · have hReact : engineRun.timers.react .delayedStart = engineRun.timers.delayedStart :=
      if_neg hNone
    unfold Silent Quiet step
    rw [hReact]
    show ((engineRun.isStopped = true →
        (engineRun.timers.isReconfigTimerActive ||
            engineRun.timers.settings.shouldUseReconfigTimer) = false ∧
          (engineRun.timers.isAlertCollectTimerActive ||
            engineRun.timers.settings.shouldCollectAlert) = false) ∧
      (engineRun.isStopped = true →
        (if engineRun.timers.settings.shouldUseReconfigTimer then
          EngineTimers.reconfigTimerTickSlot else []) = [])) ↔
      (engineRun.isStopped = true → engineRun.timers.pendingStarts ≠ 0 →
        engineRun.timers.settings.shouldUseReconfigTimer = false ∧
          engineRun.timers.settings.shouldCollectAlert = false)
    constructor
    · rintro ⟨hAfter, -⟩ hStopped -
      obtain ⟨hReconfig, hAlert⟩ := hAfter hStopped
      exact ⟨(Bool.or_eq_false_iff.mp hReconfig).2, (Bool.or_eq_false_iff.mp hAlert).2⟩
    · intro hClean
      constructor
      · intro hStopped
        obtain ⟨hReconfig, hAlert⟩ := hClean hStopped hNone
        obtain ⟨hReconfig', hAlert'⟩ := hQuiet hStopped
        exact ⟨Bool.or_eq_false_iff.mpr ⟨hReconfig', hReconfig⟩,
          Bool.or_eq_false_iff.mpr ⟨hAlert', hAlert⟩⟩
      · intro hStopped
        rw [(hClean hStopped hNone).1]
        rfl

theorem silent_iff (hQuiet : engineRun.Quiet) (event : TimerEvent) :
    engineRun.Silent event ↔ engineRun.StopsClean event := by
  cases event with
  | startEngine => exact iff_of_true ⟨fun hStopped => (nomatch hStopped), fun _ => rfl⟩ trivial
  | stopEngine =>
    -- the reconfiguration timer is stopped, the alert timer is left alone
    constructor
    · rintro ⟨hAfter, -⟩
      exact (hAfter rfl).2
    · exact fun hAlert => ⟨fun _ => ⟨rfl, hAlert⟩, fun _ => rfl⟩
  | resetEngine =>
    refine iff_of_true ⟨fun hStopped => ?_, fun _ => rfl⟩ trivial
    have hInactive := hQuiet hStopped
    show (engineRun.timers.resetEngine).isReconfigTimerActive = false ∧
      (engineRun.timers.resetEngine).isAlertCollectTimerActive = false
    unfold EngineTimers.resetEngine
    rw [hInactive.1, if_neg Bool.false_ne_true]
    exact hInactive
  | delayedStart => exact silent_delayedStart_iff hQuiet
  | reconfigTimerTick =>
    refine iff_of_true ⟨hQuiet, fun hStopped => ?_⟩ trivial
    show (if engineRun.timers.isReconfigTimerActive then EngineTimers.reconfigTimerTickSlot
      else []) = []
    rw [(hQuiet hStopped).1]
    rfl
  | alertCollectTimerTick =>
    refine iff_of_true ⟨hQuiet, fun _ => ?_⟩ trivial
    exact ite_self _
  | changeSettings settings => exact iff_of_true ⟨hQuiet, fun _ => rfl⟩ trivial

end EngineRun

/-- **A stopped engine is silent**, exactly: throughout a run no timer of a
stopped engine is active and none makes it generate or run, if and only if each
`stopEngine` finds the alert timer inactive, and no start that comes due while
the engine is stopped has a timer to start. -/
theorem stopped_silent_iff (settings : VMTDSettings) (events : List TimerEvent) :
    Along EngineRun.step EngineRun.Silent { timers := { settings := settings } } events ↔
      Along EngineRun.step EngineRun.StopsClean { timers := { settings := settings } } events :=
  along_iff_of_invariant (fun hStopped => nomatch hStopped)
    (fun _ event hQuiet => EngineRun.silent_iff hQuiet event)
    fun _ event hQuiet hClean => ((EngineRun.silent_iff hQuiet event).mpr hClean).1

/-- The engine is stopped within a second of its start, and then starts. -/
theorem delayed_start_after_stop :
    ¬ ∀ (settings : VMTDSettings) (events : List TimerEvent),
        Along EngineRun.step EngineRun.Silent { timers := { settings := settings } } events := by
  intro hClaim
  have hRun := hClaim { shouldUseReconfigTimer := true } [.startEngine, .stopEngine, .delayedStart]
  exact absurd (hRun.2.2.1.2 rfl) (by decide)

end VxlanMtd
