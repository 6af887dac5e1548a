import VxlanMtd.Node.Replies
import VxlanMtd.Node.Configuration

/-!
# The check of the parameters

What `checkParam` accepts against what the configurator reads and the engine
builds.

* `checkParam_eq_false_iff` — a value is rejected exactly when something of it
  is missing (`Lacking`): the value itself, a field of an object, an element of
  an array. Neither the kind of a value nor the fields of an array's elements
  are looked at;
* `checkParam_routeObj`, `checkParam_hostObj` — a route as the engine builds it
  is rejected, for its table of fields has `ip` in place of `network`; an entry
  of the hosts is accepted;
* **`validation_iff`** — when the check is exact.
-/

namespace VxlanMtd

-- ---------------------------------------------------------------------------
-- What the configurator reads
-- ---------------------------------------------------------------------------

/-- The fields the configurator reads from an element of a structured
parameter. -/
def readFields : EnParamName → List EnParamName
  | .routes => [.network, .mask, .gateway, .metric]
  | .hosts => [.ip, .domainName]
  | _ => []

/-- A parameter as the configurator needs it: there, and when it is structured
an array of objects with every field that is read. -/
def ValidParam (p : EnParamName) (v : QJsonValue) : Prop :=
  v.isUndefined = false ∧
    (p = .routes ∨ p = .hosts →
      ∃ a, v = .array a ∧
        ∀ w ∈ a, ∃ o, w = .object o ∧
          ∀ field ∈ readFields p, QJsonObject.contains o field.text = true)

/-- A request has all parameters of a method, each valid. -/
def ValidParams (request : QJsonObject) (name : EnName) : Prop :=
  ∀ methodParam ∈ methodParams name,
    ValidParam methodParam (QJsonObject.value (request.value "params").toObject methodParam.text)

/-- The check of a request is exact: only valid parameters reach the
configurator, and other parameters of a known method are an error that leaves
it as it is. -/
structure ValidatedExactly (request : QJsonObject) (configurator : VMTDConfigurator) : Prop where
  acts : requestError request = none → ∃ name, Calls request name ∧ ValidParams request name
  rejects : ∀ name, Calls request name → ¬ValidParams request name →
    handleClient request configurator =
      (buildError (request.value "id") EnError.invalidParams.code EnError.invalidParams.text,
        configurator, none)

-- ---------------------------------------------------------------------------
-- What the check finds
-- ---------------------------------------------------------------------------

/-- Something is missing: the value, a field the table lists for an object, or
an element of an array. -/
def Lacking (p : EnParamName) : QJsonValue → Prop
  | .undefined => True
  | .object o => ∃ q ∈ subParams p, (QJsonObject.value o q.text).isUndefined = true
  | .array a => subParams p ≠ [] ∧ ∃ w ∈ a, w.isUndefined = true
  | _ => False

theorem checkParam_object {p : EnParamName} (o : QJsonObject) :
    checkParam p (.object o) = false ↔
      ∃ q ∈ subParams p, (QJsonObject.value o q.text).isUndefined = true := by
  -- one field: it is contained and defined, or it is undefined
  have hField : ∀ q ∈ subParams p,
      (QJsonObject.contains o q.text && checkParam q (QJsonObject.value o q.text)) =
        !(QJsonObject.value o q.text).isUndefined := by
    intro q hq
    rw [checkParam_of_subParams_nil (subParams_subParams hq)]
    cases hValue : (QJsonObject.value o q.text).isUndefined with
    | true => exact Bool.and_false _
    | false => rw [QJsonObject.contains_of_value hValue]; rfl
  rw [checkParam_eq]
  cases hFields : subParams p with
  | nil => simp [QJsonValue.isUndefined]
  | cons q qs =>
    rw [hFields] at hField
    show ((q :: qs).all fun q =>
      QJsonObject.contains o q.text && checkParam q (QJsonObject.value o q.text)) = false ↔ _
    rw [List.all_eq_false]
    refine exists_congr fun r => and_congr_right fun hr => ?_
    rw [hField r hr, Bool.not_eq_true, Bool.not_eq_false']

theorem checkParam_array_iff {p : EnParamName} (a : QJsonArray) :
    checkParam p (.array a) = false ↔ subParams p ≠ [] ∧ ∃ w ∈ a, w.isUndefined = true := by
  rw [checkParam_eq]
  cases hFields : subParams p with
  | nil => simp [QJsonValue.isUndefined]
  | cons q qs =>
    have hElement : ∀ r ∈ q :: qs, ∀ w, checkParam r w = !w.isUndefined := fun r hr w =>
      checkParam_of_subParams_nil (subParams_subParams (hFields ▸ hr)) w
    show ((q :: qs).all fun r => a.all fun w => checkParam r w) = false ↔ _
    constructor
    · intro h
      obtain ⟨r, hr, hr'⟩ := List.all_eq_false.mp h
      obtain ⟨w, hw, hw'⟩ := List.all_eq_false.mp (Bool.eq_false_iff.mpr hr')
      rw [hElement r hr, Bool.not_eq_true, Bool.not_eq_false'] at hw'
      exact ⟨List.cons_ne_nil q qs, w, hw, hw'⟩
    · rintro ⟨-, w, hw, hw'⟩
      refine List.all_eq_false.mpr ⟨q, List.mem_cons_self, ?_⟩
      rw [Bool.not_eq_true]
      refine List.all_eq_false.mpr ⟨w, hw, ?_⟩
      rw [hElement q List.mem_cons_self, hw']
      exact Bool.false_ne_true

/-- The check finds what is missing, and nothing else. -/
theorem checkParam_eq_false_iff (p : EnParamName) (v : QJsonValue) :
    checkParam p v = false ↔ Lacking p v := by
  -- a value that is neither an object nor an array is not looked into
  have hScalar : v.isUndefined = false → v.isObject = false → v.isArray = false →
      (checkParam p v = false ↔ False) := by
    intro hDefined hObject hArray
    rw [checkParam_eq, hDefined, hObject, hArray, if_neg Bool.false_ne_true, if_pos (by simp)]
    simp
  cases v with
  | undefined => exact ⟨fun _ => trivial, fun _ => by rw [checkParam_eq]; rfl⟩
  | object o => exact checkParam_object o
  | array a => exact checkParam_array_iff a
  | null => exact hScalar rfl rfl rfl
  | bool b => exact hScalar rfl rfl rfl
  | double d => exact hScalar rfl rfl rfl
  | string s => exact hScalar rfl rfl rfl

/-- The parameters of a request pass when nothing is missing. -/
theorem passesChecks_iff (request : QJsonObject) (name : EnName) :
    PassesChecks request name ↔
      ∀ methodParam ∈ methodParams name, ¬Lacking methodParam
        (QJsonObject.value (request.value "params").toObject methodParam.text) := by
  refine forall₂_congr fun methodParam _ => ?_
  rw [← checkParam_eq_false_iff, Bool.not_eq_false]
  constructor
  · exact And.right
  · intro hCheck
    refine ⟨QJsonObject.contains_of_value ?_, hCheck⟩
    -- an undefined value does not pass
    cases hValue : (QJsonObject.value (request.value "params").toObject
        methodParam.text).isUndefined with
    | false => rfl
    | true =>
      rw [checkParam_eq, hValue] at hCheck
      exact absurd hCheck Bool.false_ne_true

-- ---------------------------------------------------------------------------
-- A request
-- ---------------------------------------------------------------------------

/-- When the check of a request is exact. -/
theorem validatedExactly_iff (request : QJsonObject) (configurator : VMTDConfigurator) :
    ValidatedExactly request configurator ↔
      ∀ name, Calls request name → ValidParams request name ∨
        ∃ methodParam ∈ methodParams name, Lacking methodParam
          (QJsonObject.value (request.value "params").toObject methodParam.text) := by
  constructor
  · intro h name hCalls
    by_cases hLacking : ∃ methodParam ∈ methodParams name, Lacking methodParam
        (QJsonObject.value (request.value "params").toObject methodParam.text)
    · exact Or.inr hLacking
    · left
      by_contra hValid
      -- the request is answered with a result, not with the error
      have hPasses : PassesChecks request name :=
        (passesChecks_iff request name).mpr fun p hp hl => hLacking ⟨p, hp, hl⟩
      have hRejected := congrArg Prod.fst (h.rejects name hCalls hValid)
      rw [handleClient_of_succeeds ⟨name, hCalls, hPasses⟩] at hRejected
      dsimp only at hRejected
      have hResult := (buildResponse_members (request.value "id") (isUndefined_result
        (request.value "method").toString (request.value "params").toObject configurator)).1
      have hError := (buildError_members (request.value "id") EnError.invalidParams.code
        EnError.invalidParams.text).2.1
      rw [← hRejected] at hError
      exact Bool.false_ne_true (hError.symm.trans hResult)
  · intro h
    have hNotPassing : ∀ name, Calls request name → ¬ValidParams request name →
        ¬PassesChecks request name := by
      intro name hCalls hValid hPasses
      rcases h name hCalls with hValid' | ⟨p, hp, hLacking⟩
      · exact hValid hValid'
      · exact (passesChecks_iff request name).mp hPasses p hp hLacking
    constructor
    · intro hNone
      rcases succeeds_or_fails request with ⟨name, hCalls, hPasses⟩ | ⟨error, hFails⟩
      · refine ⟨name, hCalls, ?_⟩
        by_contra hValid
        exact hNotPassing name hCalls hValid hPasses
      · rw [requestError_of_fails hFails] at hNone
        exact nomatch hNone
    · intro name hCalls hValid
      exact handleClient_of_fails
        (show Fails request .invalidParams from ⟨name, hCalls, hNotPassing name hCalls hValid⟩)
        configurator

-- ---------------------------------------------------------------------------
-- What the engine builds
-- ---------------------------------------------------------------------------

/-- Every element of a structured parameter the engine sends passes the check
of that parameter. -/
def ProducesChecked (engine : VMTDEngine) : Prop :=
  ∀ emitted ∈ engine.createRequests, ∀ request ∈ emitted.2,
    ∀ p, p = EnParamName.routes ∨ p = EnParamName.hosts →
      ∀ v ∈ (QJsonObject.value request.2 p.text).toArray, checkParam p v = true

/-- The interfaces a participant's host is told to set up. -/
def VMTDParticipant.setsUp (q : VMTDParticipant) : List VMTDInterface :=
  (if q.interface1.isExist then [q.interface1] else []) ++
    if q.role = .gateway ∧ q.interface2.isExist then [q.interface2] else []

/-- No route has the field `ip` that the check looks for. -/
theorem checkParam_routeObj (route : VMTDRoute) :
    checkParam .routes (.object (VMTDParticipant.routeObj route)) = false := by
  rw [checkParam_eq_false_iff]
  refine ⟨.ip, by decide, ?_⟩
  unfold VMTDParticipant.routeObj
  dsimp only
  rw [QJsonObject.value_insert_of_ne _ (by decide), QJsonObject.value_insert_of_ne _ (by decide),
    QJsonObject.value_insert_of_ne _ (by decide), QJsonObject.value_insert_of_ne _ (by decide)]
  rfl

/-- An entry of the hosts has both its fields. -/
theorem checkParam_hostObj (ip domainName : String) :
    checkParam .hosts (.object ((QJsonObject.insert [] EnParamName.ip.text (.string ip)).insert
      EnParamName.domainName.text (.string domainName))) = true := by
  have hString : ∀ s, (QJsonValue.string s).isUndefined = false := fun _ => rfl
  rw [← Bool.not_eq_false, checkParam_eq_false_iff]
  rintro ⟨q, hq, hUndefined⟩
  rcases List.mem_pair.mp hq with rfl | rfl
  · rw [QJsonObject.value_insert_of_ne _ (by decide), QJsonObject.value_insert _ _ (hString _)]
      at hUndefined
    exact Bool.false_ne_true hUndefined
  · rw [QJsonObject.value_insert _ _ (hString _)] at hUndefined
    exact Bool.false_ne_true hUndefined

/-- The elements of a structured parameter of a request that sets an interface
up: its routes. -/
theorem toArray_setupObj (q : VMTDParticipant) (i : VMTDInterface) {p : EnParamName}
    (hp : p = .routes ∨ p = .hosts) (v : QJsonValue) :
    v ∈ (QJsonObject.value (q.setupObj i) p.text).toArray ↔
      p = .routes ∧ ∃ route ∈ i.routes, v = .object (VMTDParticipant.routeObj route) := by
  rcases hp with rfl | rfl
  · obtain ⟨-, -, -, -, -, hRoutes⟩ := setupObj_members q i
    rw [hRoutes, QJsonValue.toArray_array, List.mem_map]
    constructor
    · rintro ⟨route, hRoute, rfl⟩
      exact ⟨rfl, route, hRoute, rfl⟩
    · rintro ⟨-, route, hRoute, rfl⟩
      exact ⟨route, hRoute, rfl⟩
  · have hNone : QJsonObject.value (q.setupObj i) EnParamName.hosts.text = .undefined := by
      unfold VMTDParticipant.setupObj
      dsimp only
      rw [QJsonObject.value_insert_of_ne _ (by decide), QJsonObject.value_insert_of_ne _ (by decide),
        QJsonObject.value_insert_of_ne _ (by decide), QJsonObject.value_insert_of_ne _ (by decide),
        QJsonObject.value_insert_of_ne _ (by decide), QJsonObject.value_insert_of_ne _ (by decide),
        QJsonObject.value_nil]
    rw [hNone]
    exact ⟨fun hMem => absurd hMem List.not_mem_nil, fun h => nomatch h.1⟩

/-- The elements of a structured parameter of a hosts request: one for each
participant. -/
theorem toArray_hosts (engine : VMTDEngine) {p : EnParamName} (hp : p = .routes ∨ p = .hosts)
    {v : QJsonValue} (hv : v ∈ (QJsonObject.value engine.hosts p.text).toArray) :
    checkParam p v = true := by
  rcases hp with rfl | rfl
  · have hNone : QJsonObject.value engine.hosts EnParamName.routes.text = .undefined := by
      unfold VMTDEngine.hosts
      rw [QJsonObject.value_insert_of_ne _ (by decide), QJsonObject.value_nil]
    rw [hNone] at hv
    exact absurd hv List.not_mem_nil
  · unfold VMTDEngine.hosts at hv
    rw [QJsonObject.value_insert _ _ rfl, QJsonValue.toArray_array] at hv
    obtain ⟨participant, -, rfl⟩ := List.mem_map.mp hv
    exact checkParam_hostObj _ _

/-- The parameters of a participant's calls. -/
theorem mem_calls (engine : VMTDEngine) (q : VMTDParticipant) :
    (∀ call ∈ q.calls engine.hosts,
      call.2 = [] ∨ call.2 = engine.hosts ∨ ∃ i ∈ q.setsUp, call.2 = q.setupObj i) ∧
    ∀ i ∈ q.setsUp, ∃ call ∈ q.calls engine.hosts, call.2 = q.setupObj i := by
  -- the two interfaces are set up or cleared independently
  unfold VMTDParticipant.calls VMTDParticipant.setsUp
  by_cases h₁ : q.interface1.isExist = true <;>
    by_cases h₂ : q.role = .gateway ∧ q.interface2.isExist = true <;> simp [h₁, h₂]

/-- The calls of a participant carry nothing that is rejected, unless one sets
an interface with a route up. -/
theorem calls_checked_iff (engine : VMTDEngine) (q : VMTDParticipant) :
    (∀ call ∈ q.calls engine.hosts, ∀ p, p = EnParamName.routes ∨ p = EnParamName.hosts →
      ∀ v ∈ (QJsonObject.value call.2 p.text).toArray, checkParam p v = true) ↔
      ∀ i ∈ q.setsUp, i.routes = [] := by
  obtain ⟨hParams, hSetup⟩ := mem_calls engine q
  constructor
  · intro h i hi
    obtain ⟨call, hCall, hCall'⟩ := hSetup i hi
    by_contra hRoutes
    obtain ⟨route, hRoute⟩ := List.exists_mem_of_ne_nil _ hRoutes
    have hMem := (toArray_setupObj q i (Or.inl rfl) _).mpr ⟨rfl, route, hRoute, rfl⟩
    rw [← hCall'] at hMem
    have hChecked := h call hCall .routes (Or.inl rfl) _ hMem
    rw [checkParam_routeObj route] at hChecked
    exact Bool.false_ne_true hChecked
  · intro h call hCall p hp v hv
    rcases hParams call hCall with hNone | hHosts | ⟨i, hi, hCall'⟩
    · rw [hNone] at hv
      exact absurd hv List.not_mem_nil
    · rw [hHosts] at hv
      exact toArray_hosts engine hp hv
    · rw [hCall'] at hv
      obtain ⟨-, route, hRoute, -⟩ := (toArray_setupObj q i hp v).mp hv
      rw [h i hi] at hRoute
      exact absurd hRoute List.not_mem_nil

/-- The engine sends only what passes the check as long as it sends no
route. -/
theorem producesChecked_iff (engine : VMTDEngine) :
    ProducesChecked engine ↔
      ∀ q ∈ engine.participants, ∀ i ∈ q.setsUp, i.routes = [] := by
  unfold ProducesChecked VMTDEngine.createRequests
  constructor
  · intro h q hq
    refine (calls_checked_iff engine q).mp fun call hCall => ?_
    have hRequests := h _ (List.mem_map_of_mem hq)
    dsimp only at hRequests
    rw [buildRequests_eq_calls] at hRequests
    exact hRequests _ (List.mem_map_of_mem hCall)
  · intro h emitted hEmitted request hRequest
    obtain ⟨q, hq, rfl⟩ := List.mem_map.mp hEmitted
    dsimp only at hRequest
    rw [buildRequests_eq_calls] at hRequest
    obtain ⟨call, hCall, rfl⟩ := List.mem_map.mp hRequest
    exact (calls_checked_iff engine q).mpr (h q hq) call hCall

/-- **When the check of the parameters is exact**: for a request that is not a
call of a known method, lacks something the tables list, or is valid; and for an
engine that sends no route. -/
theorem validation_iff (request : QJsonObject) (configurator : VMTDConfigurator)
    (engine : VMTDEngine) :
    (ValidatedExactly request configurator ↔
      ∀ name, Calls request name → ValidParams request name ∨
        ∃ methodParam ∈ methodParams name, Lacking methodParam
          (QJsonObject.value (request.value "params").toObject methodParam.text)) ∧
    (ProducesChecked engine ↔ ∀ q ∈ engine.participants, ∀ i ∈ q.setsUp, i.routes = []) :=
  ⟨validatedExactly_iff request configurator, producesChecked_iff engine⟩

/-- A text in place of the hosts is accepted and clears the hosts file. -/
theorem scalar_hosts_accepted :
    ¬ValidatedExactly (buildRequest 0 "setupHosts" [("hosts", .string "100.100.1.2")])
      { hosts := "100.100.1.2 alpha\n" } ∧
    (handleClient (buildRequest 0 "setupHosts" [("hosts", .string "100.100.1.2")])
      { hosts := "100.100.1.2 alpha\n" }).2.1.hosts = "" := by
  constructor
  · intro h
    obtain ⟨name, hCalls, hValid⟩ := h.acts rfl
    obtain rfl : name = .setupHosts := by
      rw [← methodKey_text name, ← hCalls.2]
      rfl
    obtain ⟨-, hArray⟩ := hValid .hosts List.mem_cons_self
    obtain ⟨a, ha, -⟩ := hArray (Or.inr rfl)
    exact nomatch ha
  · rfl

end VxlanMtd
