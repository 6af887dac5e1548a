import VxlanMtd.Model.Controller

/-!
# The servers of a controller

Which `VMTDServer` receives the lists of the engine, and whose handlers can
change what the device manager knows, over any order of starts, stops,
restarts and client connections.

## Results

* `wired_run`, `wired_finish` — a start connects one more server to the
  engine, and the end of a run disconnects none of them: `run` names
  `m_hostServer` where the server should be deleted.
* `wired_step` — so after any events the engine reaches the server of every
  run so far.
* `oneServer_iff` — the engine reaches one server, the latest, exactly as long
  as no second run is started.
-/

namespace VxlanMtd

open Signals EventRun

namespace VMTDController

-- ---------------------------------------------------------------------------
-- What is promised
-- ---------------------------------------------------------------------------

/-- The run whose server a protocol handler belongs to. -/
def handlerServer : VMTDObject → Option Nat
  | .nxApiHandler k _ => some k
  | .hostHandler k _ => some k
  | _ => none

/-- What an object signals reaches the manager's table of switches or of
hosts through a server. -/
def CanUpdate (c : VMTDController) (o : VMTDObject) : Prop :=
  ∃ server,
    ((server, .emits .updateUrlOnlineSignal) ∈ c.receivers o .updateUrlOnlineSignal ∧
      (.manager, .updateUrlOnlineSlot) ∈ c.receivers server .updateUrlOnlineSignal) ∨
    ((server, .emits .updateIpOnlineSignal) ∈ c.receivers o .updateIpOnlineSignal ∧
      (.manager, .updateIpOnlineSlot) ∈ c.receivers server .updateIpOnlineSignal)

/-- While the controller runs, the lists of the engine reach the server of the
latest run and no other, and only its handlers can update the tables. -/
def OneServer (c : VMTDController) : Prop :=
  c.isRunning = true →
    c.receivers .engine .appendRequestListSignal =
      [(.server (c.runs - 1), .appendRequestListSlot)] ∧
    c.receivers .engine .appendCommandListSignal =
      [(.server (c.runs - 1), .appendCommandListSlot)] ∧
    ∀ o, c.CanUpdate o → handlerServer o = some (c.runs - 1)

/-- The event does not start a second run. -/
def StartsOnce (c : VMTDController) : ControllerEvent → Prop
  | .startController _ => c.isRunning = true ∨ c.runs = 0
  | .restart _ => c.isRunning = false
  | _ => True

-- ---------------------------------------------------------------------------
-- The connections of the source
-- ---------------------------------------------------------------------------

/-- What holds of every connection: neither the engine nor a server is deleted
at the end of a run, a server that receives belongs to one of the runs, and
what a server passes on comes from one of its handlers. -/
structure Sound (runs : Nat) (x : VMTDConnection) : Prop where
  notDeleted : x.slot = .deleteLater → x.receiver ≠ .engine ∧ ∀ k, x.receiver ≠ .server k
  ofRun : ∀ k, x.receiver = .server k → k < runs
  ofHandler : ∀ signal, x.slot = .emits signal →
    ∃ k, x.receiver = .server k ∧ handlerServer x.sender = some k

/-- The servers of the first `n` runs, with a slot. -/
def servers (n : Nat) (slot : VMTDSlot) : List (VMTDObject × VMTDSlot) :=
  (List.range n).map fun k => (.server k, slot)

/-- The adapters of an NX-API server. -/
def IsAdapter (o : VMTDObject) : Prop := ∃ k i url, o = .nxApiAdapter k i url

/-- A controller after `runs` starts: its connections are sound, and the engine
reaches the servers of the first `m` runs with its command lists and of the
first `n` runs with its request lists. -/
structure Wired (running : Bool) (runs m n : Nat) (c : VMTDController) : Prop where
  isRunning_eq : c.isRunning = running
  runs_eq : c.runs = runs
  adapters : ∀ a ∈ c.adapters, IsAdapter a
  sound : ∀ x ∈ c.connections, Sound runs x
  commands : c.receivers .engine .appendCommandListSignal = servers m .appendCommandListSlot
  requests : c.receivers .engine .appendRequestListSignal = servers n .appendRequestListSlot

variable {running : Bool} {runs m n : Nat} {c : VMTDController}

-- ---------------------------------------------------------------------------
-- Single steps
-- ---------------------------------------------------------------------------

/-- A new object is connected to nothing. -/
theorem Wired.create (h : c.Wired running runs m n) (o : VMTDObject) :
    (c.create o).Wired running runs m n :=
  { h with }

theorem Wired.startListenSlot (h : c.Wired running runs m n) (k : Nat) (urls : List String) :
    (c.startListenSlot k urls).Wired running runs m n := by
  refine { h with adapters := fun a ha => ?_ }
  obtain ⟨url, -, rfl⟩ := List.mem_map.mp ha
  exact ⟨_, _, _, rfl⟩

/-- One connection more. -/
theorem receivers_connect (sender : VMTDObject) (signal : VMTDSignal) (receiver : VMTDObject)
    (slot : VMTDSlot) (o : VMTDObject) (signal' : VMTDSignal) :
    (c.connect sender signal receiver slot).receivers o signal' =
      c.receivers o signal' ++
        if sender = o ∧ signal = signal' then [(receiver, slot)] else [] := by
  rw [receivers, VMTDController.connect, receivers_append, receivers]
  congr 1
  by_cases h : sender = o ∧ signal = signal'
  · simp [Signals.receivers, h]
  · simp [Signals.receivers, h]

/-- A connection that does not start from the engine. -/
theorem Wired.connect (h : c.Wired running runs m n) {sender receiver : VMTDObject}
    {signal : VMTDSignal} {slot : VMTDSlot} (hSender : (sender == .engine) = false)
    (hSound : Sound runs ⟨sender, signal, receiver, slot⟩) :
    (c.connect sender signal receiver slot).Wired running runs m n := by
  have hNot : sender ≠ .engine := fun hEq => by simp [hEq] at hSender
  have hKeep : ∀ signal', (c.connect sender signal receiver slot).receivers .engine signal' =
      c.receivers .engine signal' := by
    intro signal'
    rw [receivers_connect, if_neg fun hMatch => hNot hMatch.1, List.append_nil]
  refine ⟨h.isRunning_eq, h.runs_eq, h.adapters, fun x hx => ?_, (hKeep _).trans h.commands,
    (hKeep _).trans h.requests⟩
  rcases List.mem_append.mp hx with hx | hx
  · exact h.sound x hx
  · rw [List.mem_singleton.mp hx]
    exact hSound

/-- Destroying neither the engine nor a server. -/
theorem Wired.destroy (h : c.Wired running runs m n) {gone : VMTDObject → Bool}
    (hEngine : gone .engine = false) (hServer : ∀ k, gone (.server k) = false) :
    (c.destroy gone).Wired running runs m n := by
  have hKeep : ∀ signal slot k, c.receivers .engine signal = servers k slot →
      (c.destroy gone).receivers .engine signal = servers k slot := by
    intro signal slot k hEq
    refine (receivers_cut hEngine fun r hr => ?_).trans hEq
    have hMem : r ∈ servers k slot := hEq ▸ hr
    obtain ⟨j, -, rfl⟩ := List.mem_map.mp hMem
    exact hServer j
  exact ⟨h.isRunning_eq, h.runs_eq, fun a ha => h.adapters a (List.mem_filter.mp ha).1,
    fun x hx => h.sound x (mem_of_mem_cut hx), hKeep _ _ _ h.commands, hKeep _ _ _ h.requests⟩

/-- A connection that ends at an object other than a server, and deletes no
engine. -/
def isPlain (receiver : VMTDObject) : VMTDSlot → Bool
  | .emits _ => false
  | .deleteLater => match receiver with
    | .engine | .server _ => false
    | _ => true
  | _ => match receiver with
    | .server _ => false
    | _ => true

/-- A connection to an object other than a server, which deletes no engine, keeps the
rules. -/
theorem sound_plain {sender receiver : VMTDObject} {signal : VMTDSignal} {slot : VMTDSlot}
    (h : isPlain receiver slot = true) : Sound runs ⟨sender, signal, receiver, slot⟩ := by
  refine ⟨?_, ?_, ?_⟩
  · rintro rfl
    refine ⟨?_, fun k => ?_⟩
    · rintro rfl
      exact absurd h Bool.false_ne_true
    · rintro rfl
      exact absurd h Bool.false_ne_true
  · rintro k rfl
    cases slot <;> exact absurd h Bool.false_ne_true
  · rintro signal' rfl
    exact absurd h Bool.false_ne_true

/-- A slot of a server that does not pass a signal on. -/
def isServerSlot : VMTDSlot → Bool
  | .emits _ | .deleteLater => false
  | _ => true

/-- A connection to the server of a run. -/
theorem sound_server {sender : VMTDObject} {signal : VMTDSignal} {k : Nat} {slot : VMTDSlot}
    (hk : k < runs) (h : isServerSlot slot = true) :
    Sound runs ⟨sender, signal, .server k, slot⟩ := by
  refine ⟨?_, fun _ hEq => VMTDObject.server.inj hEq ▸ hk, ?_⟩
  · rintro rfl
    exact absurd h Bool.false_ne_true
  · rintro signal' rfl
    exact absurd h Bool.false_ne_true

/-- A connection from a handler to its server. -/
theorem sound_handler {sender : VMTDObject} {signal signal' : VMTDSignal} {k : Nat}
    (hk : k < runs) (hSender : handlerServer sender = some k) :
    Sound runs ⟨sender, signal, .server k, .emits signal'⟩ :=
  ⟨fun h => VMTDSlot.noConfusion h, fun _ h => VMTDObject.server.inj h ▸ hk,
    fun _ _ => ⟨k, rfl, hSender⟩⟩

-- ---------------------------------------------------------------------------
-- Handlers come and go
-- ---------------------------------------------------------------------------

/-- A switch that appears gets its handler connected. -/
theorem Wired.adapterCreatedSlot (h : c.Wired running runs m n) {k : Nat} (hk : k < runs)
    (a i : Nat) (url url' : String) :
    (c.adapterCreatedSlot k (.nxApiAdapter a i url') url).Wired running runs m n := by
  rw [VMTDController.adapterCreatedSlot]
  split
  · exact h
  · refine Wired.connect ?_ rfl (sound_handler hk rfl)
    refine Wired.connect ?_ rfl (sound_plain rfl)
    refine Wired.connect ?_ rfl (sound_plain rfl)
    refine Wired.connect ?_ rfl (sound_plain rfl)
    exact h.create _

/-- So does a host. -/
theorem Wired.clientConnectedSlot (h : c.Wired running runs m n) {k : Nat} (hk : k < runs)
    (ip : String) : (c.clientConnectedSlot k ip).Wired running runs m n := by
  rw [VMTDController.clientConnectedSlot]
  split
  · exact h
  · refine Wired.connect ?_ rfl (sound_handler hk rfl)
    refine Wired.connect ?_ rfl (sound_handler hk rfl)
    refine Wired.connect ?_ rfl (sound_plain rfl)
    refine Wired.connect ?_ rfl (sound_plain rfl)
    exact h.create _

/-- What is deleted loses its connections. -/
theorem Wired.adapterRemovedSlot (h : c.Wired running runs m n) (k : Nat) (url : String) :
    (c.adapterRemovedSlot k url).Wired running runs m n :=
  h.destroy (decide_eq_false fun h => nomatch h) fun _ => decide_eq_false fun h => nomatch h

theorem Wired.clientDisconnectedSlot (h : c.Wired running runs m n) (k : Nat) (ip : String) :
    (c.clientDisconnectedSlot k ip).Wired running runs m n :=
  h.destroy (decide_eq_false fun h => nomatch h) fun _ => decide_eq_false fun h => nomatch h

/-- A slot of the servers that receive a signal of the host server. -/
theorem Wired.clientSignal (h : c.Wired running runs m n) (signal : VMTDSignal)
    {slot : Nat → String → VMTDController → VMTDController} (ip : String)
    (hSlot : ∀ k < runs, ∀ c : VMTDController, c.Wired running runs m n → (slot k ip c).Wired running runs m n) :
    (c.clientSignal signal slot ip).Wired running runs m n := by
  have hOfRun : ∀ r ∈ c.receivers (.hostServer (c.runs - 1)) signal, ∀ k, r.1 = .server k →
      k < runs := by
    intro r hr k hk
    exact (h.sound _ (mem_receivers.mp hr)).ofRun k hk
  rw [VMTDController.clientSignal]
  -- one receiver after the other
  generalize c.receivers (.hostServer (c.runs - 1)) signal = rs at hOfRun
  induction rs generalizing c with
  | nil => exact h
  | cons r rs ih =>
    refine ih ?_ fun r' hr' => hOfRun r' (List.mem_cons_of_mem _ hr')
    dsimp only
    split
    · next k hk => exact hSlot k (hOfRun r List.mem_cons_self k hk) _ h
    · exact h

-- ---------------------------------------------------------------------------
-- Runs
-- ---------------------------------------------------------------------------

theorem Sound.mono {x : VMTDConnection} (h : Sound runs x) {runs' : Nat} (hLe : runs ≤ runs') :
    Sound runs' x :=
  ⟨h.notDeleted, fun k hk => Nat.lt_of_lt_of_le (h.ofRun k hk) hLe, h.ofHandler⟩

/-- The server of a new run, before the engine is connected to it. -/
theorem Wired.newServer (h : c.Wired running runs m n) {k : Nat} (hk : k < runs) :
    (c.newServer k).Wired running runs m n := by
  have hFold : ∀ adapters : List VMTDObject, (∀ a ∈ adapters, IsAdapter a) →
      ∀ c : VMTDController, c.Wired running runs m n →
        (adapters.foldl (fun c adapter => c.adapterCreatedSlot k adapter (adapterUrl adapter))
          c).Wired running runs m n := by
    intro adapters
    induction adapters with
    | nil => exact fun _ c h => h
    | cons a adapters ih =>
      intro hAll c h
      obtain ⟨j, i, url, rfl⟩ := hAll a List.mem_cons_self
      exact ih (fun b hb => hAll b (List.mem_cons_of_mem _ hb)) _
        (h.adapterCreatedSlot hk j i _ url)
  unfold VMTDController.newServer
  refine Wired.connect ?_ rfl (sound_server hk rfl)
  refine Wired.connect ?_ rfl (sound_server hk rfl)
  refine hFold _ h.adapters _ ?_
  refine Wired.connect ?_ rfl (sound_server hk rfl)
  refine Wired.connect ?_ rfl (sound_server hk rfl)
  exact h.create _

/-- The engine's command lists reach one more server. -/
theorem Wired.connectCommands (h : c.Wired running runs m n) (hm : m < runs) :
    (c.connect .engine .appendCommandListSignal (.server m) .appendCommandListSlot).Wired running
      runs (m + 1) n := by
  refine ⟨h.isRunning_eq, h.runs_eq, h.adapters, fun x hx => ?_, ?_, ?_⟩
  · rcases List.mem_append.mp hx with hx | hx
    · exact h.sound x hx
    · rw [List.mem_singleton.mp hx]
      exact sound_server hm rfl
  · rw [receivers_connect, if_pos ⟨rfl, rfl⟩, h.commands, servers, servers, List.range_succ,
      List.map_append]
    rfl
  · rw [receivers_connect, if_neg (by decide), List.append_nil, h.requests]

/-- The connection a run adds to the engine. -/
theorem Wired.connectRequests (h : c.Wired running runs m n) (hn : n < runs) :
    (c.connect .engine .appendRequestListSignal (.server n) .appendRequestListSlot).Wired running
      runs m (n + 1) := by
  refine ⟨h.isRunning_eq, h.runs_eq, h.adapters, fun x hx => ?_, ?_, ?_⟩
  · rcases List.mem_append.mp hx with hx | hx
    · exact h.sound x hx
    · rw [List.mem_singleton.mp hx]
      exact sound_server hn rfl
  · rw [receivers_connect, if_neg (by decide), List.append_nil, h.commands]
  · rw [receivers_connect, if_pos ⟨rfl, rfl⟩, h.requests, servers, servers, List.range_succ,
      List.map_append]
    rfl

/-- **A start** in the server role connects one more server to the engine. -/
theorem wired_run (h : c.Wired running runs runs runs) (urls : List String) :
    (c.run .server urls).Wired true (runs + 1) (runs + 1) (runs + 1) := by
  obtain rfl := h.runs_eq
  have hGrow : ({ c with
      isRunning := true, nodeType := .server, runs := c.runs + 1, adapters := [] } :
      VMTDController).Wired true (c.runs + 1) c.runs c.runs :=
    ⟨rfl, rfl, fun _ ha => absurd ha List.not_mem_nil,
      fun x hx => (h.sound x hx).mono (Nat.le_succ _), h.commands, h.requests⟩
  have hk : c.runs < c.runs + 1 := Nat.lt_succ_self _
  unfold VMTDController.run
  rw [if_pos rfl]
  -- the connections, the last one first
  refine Wired.connect ?_ rfl (sound_plain rfl)
  refine Wired.connectRequests ?_ hk
  refine Wired.connectCommands ?_ hk
  refine Wired.connect ?_ rfl (sound_plain rfl)
  refine Wired.connect ?_ rfl (sound_plain rfl)
  refine Wired.connect ?_ rfl (sound_plain rfl)
  refine Wired.newServer ?_ hk
  refine Wired.connect ?_ rfl (sound_plain rfl)
  refine Wired.create (Wired.startListenSlot ?_ _ _) _
  refine Wired.connect ?_ rfl (sound_plain rfl)
  refine Wired.create ?_ _
  refine Wired.connect ?_ rfl (sound_plain rfl)
  refine Wired.connect ?_ rfl (sound_plain rfl)
  refine Wired.create ?_ _
  refine Wired.connect ?_ rfl (sound_plain rfl)
  refine Wired.create ?_ _
  refine Wired.connect ?_ rfl (sound_plain rfl)
  exact hGrow.create _

/-- The switches of a run go at its end. -/
theorem Wired.stopListenSlot (h : c.Wired running runs m n) (k : Nat) :
    (c.stopListenSlot k).Wired running runs m n := by
  have hOther : ∀ o, ¬ IsAdapter o → decide (o ∈ c.adapters) = false := fun o ho =>
    decide_eq_false fun hMem => ho (h.adapters o hMem)
  unfold VMTDController.stopListenSlot
  refine Wired.destroy ?_ (hOther _ fun ⟨_, _, _, hEq⟩ => nomatch hEq)
    fun _ => hOther _ fun ⟨_, _, _, hEq⟩ => nomatch hEq
  -- each server is told of each adapter, which changes no connection it needs
  refine List.foldlRecOn (motive := fun c : VMTDController => c.Wired running runs m n) _ _ h fun c₁ h₁ _ _ => ?_
  refine List.foldlRecOn (motive := fun c : VMTDController => c.Wired running runs m n) _ _ h₁ fun c₂ h₂ _ _ => ?_
  split
  · exact h₂.adapterRemovedSlot _ _
  · exact h₂

/-- **The end of a run** disconnects no server. -/
theorem wired_finish (h : c.Wired running runs m n) : c.finish.Wired false runs m n := by
  have hStop : (if c.nodeType = .server then c.stopListenSlot (c.runs - 1) else c).Wired
      running runs m n := by
    split
    · exact h.stopListenSlot _
    · exact h
  unfold VMTDController.finish
  dsimp only
  generalize (if c.nodeType = .server then c.stopListenSlot (c.runs - 1) else c) = c' at hStop
  have hNotDeleted : ∀ o, (∀ x ∈ c'.connections, x.slot = .deleteLater → x.receiver ≠ o) →
      c'.finishing o = false := by
    intro o ho
    refine decide_eq_false fun hMem => ?_
    exact ho _ (mem_receivers.mp hMem) rfl rfl
  have hLeft := hStop.destroy
    (hNotDeleted _ fun x hx hSlot => ((hStop.sound x hx).notDeleted hSlot).1)
    fun k => hNotDeleted _ fun x hx hSlot => ((hStop.sound x hx).notDeleted hSlot).2 k
  exact { hLeft with isRunning_eq := rfl }

-- ---------------------------------------------------------------------------
-- One event
-- ---------------------------------------------------------------------------

/-- Every server that was ever created is still connected; a running controller
has created one. -/
structure Settled (c : VMTDController) : Prop where
  wired : c.Wired c.isRunning c.runs c.runs c.runs
  started : c.isRunning = true → 0 < c.runs

/-- What the wiring says about the requests of the engine. -/
theorem settled_of_wired {running : Bool} (h : c.Wired running runs runs runs)
    (hStarted : running = true → 0 < runs) : c.Settled := by
  obtain rfl := h.isRunning_eq
  obtain rfl := h.runs_eq
  exact ⟨h, hStarted⟩

/-- **One event.** The servers stay connected; only an event that is no first
start brings one more, and then the controller runs. -/
theorem settled_step (h : c.Settled) (e : ControllerEvent) :
    (step .server c e).Settled ∧
    (c.StartsOnce e → (step .server c e).runs ≤ max 1 c.runs) ∧
    (¬ c.StartsOnce e → (step .server c e).isRunning = true ∧
      (step .server c e).runs = c.runs + 1 ∧ 0 < c.runs) := by
  have hSame : ∀ c' : VMTDController, c'.Wired c.isRunning c.runs c.runs c.runs →
      c'.Settled ∧ c'.runs ≤ max 1 c.runs := by
    intro c' h'
    refine ⟨settled_of_wired h' h.started, ?_⟩
    rw [h'.runs_eq]
    omega
  cases e with
  | startController urls =>
    rw [step, startController]
    by_cases hRunning : c.isRunning = true
    · rw [if_pos hRunning]
      exact ⟨h, fun _ => (hSame c h.wired).2, fun hNot => absurd (Or.inl hRunning) hNot⟩
    · rw [if_neg hRunning]
      have hRun := wired_run h.wired urls
      refine ⟨settled_of_wired hRun fun _ => Nat.succ_pos _, fun hOnce => ?_, fun hNot => ?_⟩
      · rw [hRun.runs_eq, hOnce.resolve_left hRunning]
        omega
      · exact ⟨hRun.isRunning_eq, hRun.runs_eq,
          Nat.pos_of_ne_zero fun hZero => hNot (Or.inr hZero)⟩
  | stopController =>
    rw [step, stopController]
    by_cases hRunning : c.isRunning = true
    · rw [if_pos hRunning]
      have hFinish := wired_finish h.wired
      refine ⟨settled_of_wired hFinish fun hEq => absurd hEq Bool.false_ne_true, fun _ => ?_,
        fun hNot => absurd trivial hNot⟩
      rw [hFinish.runs_eq]
      omega
    · rw [if_neg hRunning]
      exact ⟨h, fun _ => (hSame c h.wired).2, fun hNot => absurd trivial hNot⟩
  | restart urls =>
    rw [step, restartSlot]
    by_cases hRunning : c.isRunning = true
    · -- stopped and started again
      have hFinish := wired_finish h.wired
      have hStopped : c.stopController = c.finish := if_pos hRunning
      have hStart : c.finish.startController .server urls = c.finish.run .server urls :=
        if_neg (by rw [hFinish.isRunning_eq]; exact Bool.false_ne_true)
      have hRun := wired_run hFinish urls
      rw [if_pos hRunning, hStopped, hStart]
      refine ⟨settled_of_wired hRun fun _ => Nat.succ_pos _, fun hOnce => ?_, fun _ =>
        ⟨hRun.isRunning_eq, hRun.runs_eq, h.started hRunning⟩⟩
      exact absurd (hRunning.symm.trans hOnce) (Bool.noConfusion)
    · rw [if_neg hRunning]
      exact ⟨h, fun _ => (hSame c h.wired).2,
        fun hNot => absurd (Bool.eq_false_iff.mpr hRunning) hNot⟩
  | clientConnected ip =>
    rw [step]
    have hSlot := h.wired.clientSignal .clientConnectedSignal ip fun k hk c' h' =>
      h'.clientConnectedSlot hk ip
    split
    · exact ⟨(hSame _ hSlot).1, fun _ => (hSame _ hSlot).2, fun hNot => absurd trivial hNot⟩
    · exact ⟨h, fun _ => (hSame c h.wired).2, fun hNot => absurd trivial hNot⟩
  | clientDisconnected ip =>
    rw [step]
    have hSlot := h.wired.clientSignal .clientDisconnectedSignal ip fun k _ c' h' =>
      h'.clientDisconnectedSlot k ip
    split
    · exact ⟨(hSame _ hSlot).1, fun _ => (hSame _ hSlot).2, fun hNot => absurd trivial hNot⟩
    · exact ⟨h, fun _ => (hSame c h.wired).2, fun hNot => absurd trivial hNot⟩

-- ---------------------------------------------------------------------------
-- The server of the latest run
-- ---------------------------------------------------------------------------

/-- A running controller has one server exactly when it was started once. -/
theorem oneServer_iff_runs (h : c.Settled) :
    c.OneServer ↔ (c.isRunning = true → c.runs = 1) := by
  constructor
  · intro hOne hRunning
    have hLength := congrArg List.length (h.wired.requests.symm.trans (hOne hRunning).1)
    simpa [servers] using hLength
  · intro hRuns hRunning
    have hOnce := hRuns hRunning
    have hServers : ∀ slot, servers c.runs slot = [(.server (c.runs - 1), slot)] := by
      intro slot
      rw [hOnce]
      rfl
    refine ⟨h.wired.requests.trans (hServers _), h.wired.commands.trans (hServers _), ?_⟩
    -- a handler passes its signals to the server of its own run
    have hHandler : ∀ o server signal, (server, .emits signal) ∈ c.receivers o signal →
        handlerServer o = some (c.runs - 1) := by
      intro o server signal hMem
      have hSound := h.wired.sound _ (mem_receivers.mp hMem)
      obtain ⟨k, hServer, hOwner⟩ := hSound.ofHandler signal rfl
      have hk := hSound.ofRun k hServer
      rw [hOwner, show k = c.runs - 1 by omega]
    rintro o ⟨server, ⟨hMem, -⟩ | ⟨hMem, -⟩⟩
    · exact hHandler o server _ hMem
    · exact hHandler o server _ hMem

/-- **One server.** Over any events in the server role, the controller has the
promised connections after every event exactly as long as no event starts a
second run. -/
theorem oneServer_iff (es : List ControllerEvent) :
    Along (step .server) (fun c e => (step .server c e).OneServer) {} es ↔
      Along (step .server) StartsOnce {} es := by
  have hInit : ({} : VMTDController).Settled := by
    refine ⟨⟨rfl, rfl, fun _ ha => absurd ha List.not_mem_nil, ?_, rfl, rfl⟩,
      fun h => absurd h Bool.false_ne_true⟩
    intro x hx
    simp only [List.mem_cons, List.not_mem_nil, or_false] at hx
    rcases hx with rfl | rfl | rfl | rfl <;> exact sound_plain rfl
  refine @along_iff_of_invariant _ _ _ _ _ (fun c => c.Settled ∧ c.runs ≤ 1) _
    ⟨hInit, Nat.zero_le _⟩ (fun c e hInv => ?_) (fun c e hInv hOnce => ?_) es
  · obtain ⟨hNext, hFirst, hSecond⟩ := settled_step hInv.1 e
    rw [oneServer_iff_runs hNext]
    constructor
    · intro hRuns
      by_contra hNot
      obtain ⟨hRunning, hCount, hPos⟩ := hSecond hNot
      have := hRuns hRunning
      omega
    · intro hOnce hRunning
      have hPos := hNext.started hRunning
      have := hFirst hOnce
      omega
  · obtain ⟨hNext, hFirst, -⟩ := settled_step hInv.1 e
    have := hFirst hOnce
    exact ⟨hNext, by omega⟩

/-- After a stop and a second start the engine reaches two servers. -/
theorem restarted_controller_has_two_servers :
    ¬ ∀ es : List ControllerEvent, (EventRun.run (step .server) {} es).OneServer := by
  intro h
  have hTwo := (h [.startController [], .stopController, .startController []] (by decide)).1
  exact absurd hTwo (by decide)

end VMTDController

end VxlanMtd
