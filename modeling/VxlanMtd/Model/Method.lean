import VxlanMtd.Qt.Json
import VxlanMtd.Lib.Template

/-!
# Methods, parameters and text templates

`VMTDMethod`: the names of the remote methods and of their parameters, which
parameters each method takes, which fields a structured parameter has, and the
check of a received parameter against them — with the text templates of
`VMTDMethod.h`.

`metric` has no entry in the table of parameter names, so its name is the
empty string on both sides of the protocol.
-/

namespace VxlanMtd

-- ---------------------------------------------------------------------------
-- Text templates
-- ---------------------------------------------------------------------------

def vlanHeaderTemplate : String := "network:\n  vlans:\n"

def vlanTemplate : String :=
  "    vlan.%1:\n      id: %1\n      link: %2\n      addresses: [ \"%3/%4\" ]\n      macaddress: %5\n"

def routeHeaderTemplate : String := "      routes:\n"

def routeTemplate : String :=
  "        - to: %1/%2\n          via: %3\n          metric: %4\n"

def networkTemplate : String := "100.100.%1.%2"

def macTemplate : String := "aa:bb:cc:dd:%1:%2"

-- ---------------------------------------------------------------------------
-- Names
-- ---------------------------------------------------------------------------

/-- `VMTDMethod::EnName`. -/
inductive EnName where
  | setupInterface1
  | setupInterface2
  | setupHosts
  | clearInterface1
  | clearInterface2
  | clearHosts
  | getScanners
  | applyNetplan
  | checkConnection
  deriving DecidableEq, Repr

/-- `VMTDMethod::EnParamName`. -/
inductive EnParamName where
  | interface
  | mac
  | ip
  | mask
  | gateway
  | vlanId
  | network
  | domainName
  | metric
  | routes
  | hosts
  | scanners
  deriving DecidableEq, Repr

/-- The table of `VMTDMethod::methods`, in key order. -/
def methods : List (EnName × String) :=
  [ (.setupInterface1, "setupInterface1"),
    (.setupInterface2, "setupInterface2"),
    (.setupHosts, "setupHosts"),
    (.clearInterface1, "clearInterface1"),
    (.clearInterface2, "clearInterface2"),
    (.clearHosts, "clearHosts"),
    (.getScanners, "getScanners"),
    (.applyNetplan, "applyNetplan"),
    (.checkConnection, "checkConnection") ]

/-- The table of `VMTDMethod::params`, in key order. `metric` is missing. -/
def params : List (EnParamName × String) :=
  [ (.interface, "interface"),
    (.mac, "mac"),
    (.ip, "ip"),
    (.mask, "mask"),
    (.gateway, "gateway"),
    (.vlanId, "vlanId"),
    (.network, "network"),
    (.domainName, "domainName"),
    (.routes, "routes"),
    (.hosts, "hosts"),
    (.scanners, "scanners") ]

/-- `methods().value(name)`, the `MTH_` macros. -/
def EnName.text (name : EnName) : String := (methods.lookup name).getD ""

/-- `params().value(name)`, the `PRM_` macros. -/
def EnParamName.text (name : EnParamName) : String := (params.lookup name).getD ""

/-- `methods().key(text)`; the first method when there is none of that name. -/
def methodKey (text : String) : EnName :=
  ((methods.find? fun m => m.2 == text).map Prod.fst).getD .setupInterface1

/-- `VMTDMethod::methodParams`. -/
def methodParams : EnName → List EnParamName
  | .setupInterface1 | .setupInterface2 => [.interface, .mac, .ip, .mask, .vlanId, .routes]
  | .setupHosts => [.hosts]
  | _ => []

/-- `VMTDMethod::subParams`. -/
def subParams : EnParamName → List EnParamName
  | .routes => [.ip, .mask, .gateway, .metric]
  | .hosts => [.ip, .domainName]
  | _ => []

/-- `VMTDMethod::checkParam`, to the given depth of nested parameters. -/
def checkParamTo : Nat → EnParamName → QJsonValue → Bool
  | 0, _, _ => true
  | depth + 1, paramName, jsonVal =>
    if jsonVal.isUndefined then false
    else if (subParams paramName).isEmpty || (!jsonVal.isObject && !jsonVal.isArray) then true
    else
      (subParams paramName).all fun subParamName =>
        if jsonVal.isObject then
          QJsonObject.contains jsonVal.toObject subParamName.text
            && checkParamTo depth subParamName
              (QJsonObject.value jsonVal.toObject subParamName.text)
        else
          jsonVal.toArray.all fun jsonArrVal => checkParamTo depth subParamName jsonArrVal

/-- `VMTDMethod::checkParam`. No field of a structured parameter has fields of
its own, so the source's recursion is at most two calls deep
(`checkParam_eq`). -/
def checkParam (paramName : EnParamName) (jsonVal : QJsonValue) : Bool :=
  checkParamTo 2 paramName jsonVal

-- ---------------------------------------------------------------------------
-- What the tables say
-- ---------------------------------------------------------------------------

/-- The tables give different names to different parameters, and to different
methods. -/
theorem paramText_injective : Function.Injective EnParamName.text := by
  intro p q h
  cases p <;> cases q <;> first | rfl | exact absurd h (by decide)

theorem methodKey_text (name : EnName) : methodKey name.text = name := by
  cases name <;> decide

theorem text_mem_methods (name : EnName) : name.text ∈ methods.map Prod.snd := by
  cases name <;> decide

theorem subParams_subParams {p q : EnParamName} (h : q ∈ subParams p) : subParams q = [] := by
  cases p <;> simp only [subParams, List.mem_cons, List.not_mem_nil, or_false] at h <;>
    first | contradiction | (rcases h with rfl | rfl | rfl | rfl <;> rfl)

/-- A parameter without fields passes unless it is missing. -/
theorem checkParam_of_subParams_nil {p : EnParamName} (h : subParams p = []) (v : QJsonValue) :
    checkParam p v = !v.isUndefined := by
  cases hv : v.isUndefined <;> simp [checkParam, checkParamTo, h, hv]

/-- `checkParam` satisfies the recursive equation of its source. -/
theorem checkParam_eq (p : EnParamName) (v : QJsonValue) :
    checkParam p v =
      if v.isUndefined then false
      else if (subParams p).isEmpty || (!v.isObject && !v.isArray) then true
      else
        (subParams p).all fun q =>
          if v.isObject then
            QJsonObject.contains v.toObject q.text
              && checkParam q (QJsonObject.value v.toObject q.text)
          else v.toArray.all fun w => checkParam q w := by
  -- on a field of a parameter, one call and two calls deep agree
  have hDepth : ∀ q ∈ subParams p, ∀ w, checkParamTo 1 q w = checkParam q w := by
    intro q hq w
    rw [checkParam_of_subParams_nil (subParams_subParams hq)]
    cases hw : w.isUndefined <;> simp [checkParamTo, subParams_subParams hq, hw]
  rw [checkParam, checkParamTo]
  congr 2
  rw [Bool.eq_iff_iff, List.all_eq_true, List.all_eq_true]
  refine forall₂_congr fun q hq => ?_
  split
  · rw [hDepth q hq]
  · simp only [List.all_eq_true, hDepth q hq]

/-- An array of objects passes for a structured parameter whatever its
elements hold, as long as they are there. -/
theorem checkParam_array {p : EnParamName} {a : QJsonArray}
    (h : ∀ v ∈ a, v.isUndefined = false) : checkParam p (.array a) = true := by
  rw [checkParam_eq]
  simp only [QJsonValue.isUndefined, QJsonValue.isObject, QJsonValue.isArray,
    QJsonValue.toArray_array, Bool.false_eq_true, if_false]
  split
  · rfl
  · rw [List.all_eq_true]
    intro q hq
    rw [List.all_eq_true]
    intro v hv
    rw [checkParam_of_subParams_nil (subParams_subParams hq), h v hv]
    rfl

end VxlanMtd
