import VxlanMtd.Model.HostHandler
import Mathlib.Data.List.Perm.Subperm

/-!
# Responses a server accepts

`isResponse` collects its checks in one flag. The branch for a response with a
`result` and no error object assigns the flag anew, and with it drops the check
of `jsonrpc` and lets through an `error` that is no object.

* `IsResponse`, `HandsOn` — the grammar, and the result a response hands on,
  from the members alone;
* `isResponse_errorObject`, `isResponse_result` — what the code accepts, branch
  by branch;
* **`responses_iff`** — exactly when the code and the grammar agree.
-/

namespace VxlanMtd

open VMTDHostProtocolHandler

-- ---------------------------------------------------------------------------
-- The grammar
-- ---------------------------------------------------------------------------

/-- The object has that member, and its value meets `P`. -/
def QJsonObject.Has (o : QJsonObject) (key : String) (P : QJsonValue → Prop) : Prop :=
  o.contains key = true ∧ P (o.value key)

/-- An error: its code is not null and its message a string. -/
def IsErrorObject (errorObj : QJsonObject) : Prop :=
  errorObj.Has "code" (·.isNull = false) ∧ errorObj.Has "message" (·.isString = true)

/-- A response of version 2.0: an error, or a result and no error. -/
def IsResponse (response : QJsonObject) : Prop :=
  response.Has "jsonrpc" (· = .string "2.0") ∧
    (response.Has "error" (fun error => ∃ o, error = .object o ∧ IsErrorObject o) ∨
      (response.contains "error" = false ∧ response.contains "result" = true))

/-- The result a response hands on: it is not the plain outcome of a request. -/
def HandsOn (response : QJsonObject) (result : QJsonValue) : Prop :=
  IsResponse response ∧ response.contains "error" = false ∧
    response.Has "result" (fun value => value = result ∧ value.isBool = false)

-- ---------------------------------------------------------------------------
-- The branches of the check
-- ---------------------------------------------------------------------------

theorem QJsonValue.toString_eq_iff {v : QJsonValue} {s : String} (hs : s ≠ "") :
    v.toString = s ↔ v = .string s := by
  cases v with
  | string t => exact ⟨congrArg _, fun h => QJsonValue.string.inj h⟩
  | _ => exact ⟨fun h => absurd h.symm hs, fun h => nomatch h⟩

theorem QJsonValue.isObject_iff {v : QJsonValue} : v.isObject = true ↔ ∃ o, v = .object o := by
  cases v with
  | object o => exact ⟨fun _ => ⟨o, rfl⟩, fun _ => rfl⟩
  | _ => exact ⟨fun h => absurd h Bool.false_ne_true, fun ⟨_, h⟩ => nomatch h⟩

/-- Two members are two. -/
theorem QJsonObject.two_le_size {o : QJsonObject} {a b : String} (hne : a ≠ b)
    (ha : o.contains a = true) (hb : o.contains b = true) : 2 ≤ o.size := by
  have hMem : ∀ {k : String}, o.contains k = true → k ∈ (o.map Prod.fst).dedup := by
    intro k hk
    obtain ⟨e, he, hKey⟩ := List.any_eq_true.mp hk
    exact List.mem_dedup.mpr (List.mem_map.mpr ⟨e, he, beq_iff_eq.mp hKey⟩)
  have hSub : [a, b] ⊆ (o.map Prod.fst).dedup := by
    intro k hk
    rcases List.mem_pair.mp hk with rfl | rfl
    · exact hMem ha
    · exact hMem hb
  have hNodup : [a, b].Nodup := by simpa using hne
  exact (List.subperm_of_subset hNodup hSub).length_le

variable {response : QJsonObject}

/-- With an error object all the checks count. -/
theorem isResponse_errorObject (hError : (response.value "error").isObject = true) :
    isResponse response = true ↔ IsResponse response := by
  obtain ⟨errorObj, hErrorObj⟩ := QJsonValue.isObject_iff.mp hError
  have hContains : response.contains "error" = true :=
    QJsonObject.contains_of_value (by rw [hErrorObj]; rfl)
  unfold isResponse
  dsimp only
  rw [hContains, hError, hErrorObj, Bool.true_and, if_pos rfl]
  simp only [QJsonValue.toObject_object, Bool.and_eq_true, decide_eq_true_eq, beq_iff_eq,
    Bool.not_eq_true']
  constructor
  · rintro ⟨⟨⟨⟨⟨-, hVersion, hTwo⟩, hCode⟩, hNull⟩, hMessage⟩, hString⟩
    refine ⟨⟨hVersion, (QJsonValue.toString_eq_iff (by decide)).mp hTwo⟩, Or.inl ⟨hContains, ?_⟩⟩
    exact ⟨errorObj, hErrorObj, ⟨hCode, hNull⟩, hMessage, hString⟩
  · rintro ⟨⟨hVersion, hTwo⟩, ⟨-, o, hEq, ⟨hCode, hNull⟩, hMessage, hString⟩ | ⟨hNone, -⟩⟩
    · obtain rfl := QJsonValue.object.inj (hErrorObj.symm.trans hEq)
      have hSize := QJsonObject.two_le_size (by decide) hVersion hContains
      exact ⟨⟨⟨⟨⟨hSize, hVersion, (QJsonValue.toString_eq_iff (by decide)).mpr hTwo⟩, hCode⟩,
        hNull⟩, hMessage⟩, hString⟩
    · exact absurd (hContains.symm.trans hNone) (by decide)

/-- Without one, only the `result` counts. -/
theorem isResponse_result (hError : (response.value "error").isObject = false) :
    isResponse response = response.contains "result" := by
  unfold isResponse
  dsimp only
  rw [hError, Bool.and_false, if_neg Bool.false_ne_true]

/-- The code and the grammar agree on a response without an error object when
it has no result, or is of version 2.0 and has no error at all. -/
theorem isResponse_iff (hError : (response.value "error").isObject = false) :
    (isResponse response = true ↔ IsResponse response) ↔
      response.contains "result" = false ∨
        (response.Has "jsonrpc" (· = .string "2.0") ∧ response.contains "error" = false) := by
  have hNoObject :
      ¬ response.Has "error" (fun error => ∃ o, error = .object o ∧ IsErrorObject o) := by
    rintro ⟨-, o, hEq, -⟩
    rw [hEq] at hError
    exact Bool.false_ne_true hError.symm
  rw [isResponse_result hError, IsResponse, or_iff_right hNoObject]
  cases hResult : response.contains "result" with
  | false => simp
  | true => simp

/-- The results that are handed on. -/
theorem handleResult_mem_iff {handler : VMTDHostProtocolHandler} {result : QJsonValue} :
    HostSignal.handleResult result ∈ (handler.handleServer response).2 ↔
      isResponse response = true ∧ response.contains "error" = false ∧
        response.Has "result" (fun value => value = result ∧ value.isBool = false) := by
  unfold handleServer QJsonObject.Has
  dsimp only
  rw [List.mem_cons, or_iff_right (by simp)]
  split
  · next hCheck =>
    simp only [Bool.and_eq_true, Bool.not_eq_true'] at hCheck
    obtain ⟨⟨⟨hResponse, hError⟩, hResult⟩, hBool⟩ := hCheck
    rw [List.mem_singleton]
    exact ⟨fun h => ⟨hResponse, hError, hResult, (HostSignal.handleResult.inj h).symm, hBool⟩,
      fun h => h.2.2.2.1 ▸ rfl⟩
  · next hCheck =>
    simp only [Bool.and_eq_true, Bool.not_eq_true'] at hCheck
    exact iff_of_false List.not_mem_nil
      fun h => hCheck ⟨⟨⟨h.1, h.2.1⟩, h.2.2.1⟩, h.2.2.2.2⟩

/-- **The response grammar.** The check accepts a response, and its result is
handed on, exactly as the grammar says if and only if the response has an
error object, or no result, or is of version 2.0 without an error. -/
theorem responses_iff (response : QJsonObject) (handler : VMTDHostProtocolHandler) :
    ((isResponse response = true ↔ IsResponse response) ∧
      ∀ result, HostSignal.handleResult result ∈ (handler.handleServer response).2 ↔
        HandsOn response result) ↔
      (response.value "error").isObject = true ∨ response.contains "result" = false ∨
        (response.Has "jsonrpc" (· = .string "2.0") ∧ response.contains "error" = false) := by
  have hHandedOn : (isResponse response = true ↔ IsResponse response) →
      ∀ result, HostSignal.handleResult result ∈ (handler.handleServer response).2 ↔
        HandsOn response result := by
    intro hAgree result
    rw [handleResult_mem_iff, HandsOn, hAgree]
  rw [and_iff_left_of_imp hHandedOn]
  cases hError : (response.value "error").isObject with
  | true => exact iff_of_true (isResponse_errorObject hError) (Or.inl rfl)
  | false => rw [isResponse_iff hError, or_iff_right Bool.false_ne_true]

/-- A result without a version is accepted and handed on. -/
theorem accepts_without_version :
    ¬ ∀ (response : QJsonObject) (handler : VMTDHostProtocolHandler),
      (isResponse response = true ↔ IsResponse response) ∧
        ∀ result, HostSignal.handleResult result ∈ (handler.handleServer response).2 ↔
          HandsOn response result := by
  intro hClaim
  have hAccepted : isResponse [("result", .string "x")] = true := by decide
  obtain ⟨⟨hVersion, -⟩, -⟩ :=
    (hClaim _ { hostIp := "10.0.0.1", hostPort := 30001 }).1.mp hAccepted
  exact absurd hVersion (by decide)

end VxlanMtd
