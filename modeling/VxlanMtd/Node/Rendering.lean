import VxlanMtd.Lib.Refill
import VxlanMtd.Node.Netplan

/-!
# Netplan texts, exactly

What `handleSetupInterface1` and `handleSetupInterface2` make of a request
with any texts and any integers in it.

* `VlanSetup`, `Asks` — what a request asks for;
* `document` — the templates with given texts in the places of their markers,
  and `readSetup`, which reads such a text line by line;
* **`netplanText_faithful`** — the text says what was asked for if the integers
  fit an `int` and no value has a place marker a later `arg` call looks for.
  Such a marker in a value is filled in with what belongs elsewhere.
-/

namespace VxlanMtd

open PlaceMarker Text

-- ---------------------------------------------------------------------------
-- Requests
-- ---------------------------------------------------------------------------

/-- A route a request asks for. -/
structure RouteSetup where
  network : String
  mask : Int
  gateway : String
  metric : Int
  deriving DecidableEq, Repr

/-- An interface a request asks for. -/
structure VlanSetup where
  vlanId : Int
  link : String
  ip : String
  mask : Int
  mac : String
  routes : List RouteSetup
  deriving DecidableEq, Repr

/-- An item of the array of routes asks for this one. -/
structure AsksRoute (routeVal : QJsonValue) (route : RouteSetup) : Prop where
  network : routeVal.toObject.value EnParamName.network.text = .string route.network
  mask : routeVal.toObject.value EnParamName.mask.text = .ofInt route.mask
  gateway : routeVal.toObject.value EnParamName.gateway.text = .string route.gateway
  metric : routeVal.toObject.value EnParamName.metric.text = .ofInt route.metric

/-- The parameters of a request ask for this interface. -/
structure Asks (params : QJsonObject) (v : VlanSetup) : Prop where
  vlanId : params.value EnParamName.vlanId.text = .ofInt v.vlanId
  link : params.value EnParamName.interface.text = .string v.link
  ip : params.value EnParamName.ip.text = .string v.ip
  mask : params.value EnParamName.mask.text = .ofInt v.mask
  mac : params.value EnParamName.mac.text = .string v.mac
  routes : List.Forall₂ AsksRoute (params.value EnParamName.routes.text).toArray v.routes

namespace RouteSetup

/-- The values of a route's `arg` calls. -/
def values (route : RouteSetup) : List String :=
  [route.network, toString route.mask, route.gateway, toString route.metric]

/-- The route with its numbers read as `int`. -/
def seen (route : RouteSetup) : RouteSetup :=
  { route with
    mask := (QJsonValue.ofInt route.mask).toInt
    metric := (QJsonValue.ofInt route.metric).toInt }

end RouteSetup

namespace VlanSetup

/-- The values of the interface's `arg` calls. -/
def values (v : VlanSetup) : List String :=
  [toString v.vlanId, v.link, v.ip, toString v.mask, v.mac]

/-- The interface with its numbers read as `int`. -/
def seen (v : VlanSetup) : VlanSetup :=
  { v with
    vlanId := (QJsonValue.ofInt v.vlanId).toInt
    mask := (QJsonValue.ofInt v.mask).toInt
    routes := v.routes.map RouteSetup.seen }

/-- The numbers fit an `int`. -/
def Fits (v : VlanSetup) : Prop :=
  IsInt v.vlanId ∧ IsInt v.mask ∧ ∀ route ∈ v.routes, IsInt route.mask ∧ IsInt route.metric

/-- None of the texts contains that character. -/
def Free (c : Char) (v : VlanSetup) : Prop :=
  (∀ text ∈ [v.link, v.ip, v.mac], c ∉ text.toList) ∧
    ∀ route ∈ v.routes, ∀ text ∈ [route.network, route.gateway], c ∉ text.toList

/-- No value, but for the last of each template, has a place marker up to the
last of its template. -/
def MarkersHigh (v : VlanSetup) : Prop :=
  Template.MarkersHigh v.values ∧ ∀ route ∈ v.routes, Template.MarkersHigh route.values

/-- That for the values which only values without `%` follow. -/
def LastMarkersHigh (v : VlanSetup) : Prop :=
  Template.LastMarkersHigh v.values ∧ ∀ route ∈ v.routes, Template.LastMarkersHigh route.values

end VlanSetup

/-- Parameters that ask for a route. -/
def RouteSetup.routeObj (route : RouteSetup) : QJsonObject :=
  [ (EnParamName.network.text, .string route.network),
    (EnParamName.mask.text, .ofInt route.mask),
    (EnParamName.gateway.text, .string route.gateway),
    (EnParamName.metric.text, .ofInt route.metric) ]

/-- Parameters that ask for an interface. -/
def VlanSetup.params (v : VlanSetup) : QJsonObject :=
  [ (EnParamName.interface.text, .string v.link),
    (EnParamName.mac.text, .string v.mac),
    (EnParamName.ip.text, .string v.ip),
    (EnParamName.mask.text, .ofInt v.mask),
    (EnParamName.vlanId.text, .ofInt v.vlanId),
    (EnParamName.routes.text, .array (v.routes.map fun route => .object route.routeObj)) ]

/-- The parameters made for a route ask for it. -/
theorem asksRoute_routeObj (route : RouteSetup) : AsksRoute (.object route.routeObj) route := by
  constructor <;>
    simp [RouteSetup.routeObj, QJsonValue.toObject, QJsonObject.value, paramText_injective.eq_iff]

/-- Every interface can be asked for. -/
theorem asks_params (v : VlanSetup) : Asks v.params v where
  vlanId := by simp [VlanSetup.params, QJsonObject.value, paramText_injective.eq_iff]
  link := by simp [VlanSetup.params, QJsonObject.value]
  ip := by simp [VlanSetup.params, QJsonObject.value, paramText_injective.eq_iff]
  mask := by simp [VlanSetup.params, QJsonObject.value, paramText_injective.eq_iff]
  mac := by simp [VlanSetup.params, QJsonObject.value, paramText_injective.eq_iff]
  routes := by
    have hRoutes : (v.params.value EnParamName.routes.text).toArray =
        v.routes.map fun route => .object route.routeObj := by
      simp [VlanSetup.params, QJsonObject.value, paramText_injective.eq_iff]
    rw [hRoutes, List.forall₂_map_left_iff, List.forall₂_same]
    exact fun route _ => asksRoute_routeObj route

-- ---------------------------------------------------------------------------
-- Documents
-- ---------------------------------------------------------------------------

/-- The templates with these texts in the places of their markers. -/
def document (vlan : Nat → List Char) (routes : List (Nat → List Char)) : List Char :=
  vlanHeaderTemplate.toList ++ (vlanParts.render vlan).toList ++
    if routes.isEmpty then []
    else routeHeaderTemplate.toList ++ routes.flatMap fun route => (routeParts.render route).toList

/-- What a request asks for, in the places of the markers. -/
def VlanSetup.document (v : VlanSetup) : List Char :=
  VxlanMtd.document (Template.valueAt v.values)
    (v.routes.map fun route => Template.valueAt route.values)

/-- The lines of the interface. -/
def vlanLines (f : Nat → List Char) : List (List Char) :=
  [ nameStart ++ (f 1 ++ nameEnd),
    idStart ++ f 1,
    linkStart ++ f 2,
    addressesStart ++ ((f 3 ++ '/' :: f 4) ++ addressesEnd),
    macStart ++ f 5 ]

/-- The lines of a route. -/
def hopLines (f : Nat → List Char) : List (List Char) :=
  [toStart ++ (f 1 ++ '/' :: f 2), viaStart ++ f 3, metricStart ++ f 4]

/-- The lines of a document. -/
def documentLines (vlan : Nat → List Char) (routes : List (Nat → List Char)) :
    List (List Char) :=
  [networkLine, vlansLine] ++ vlanLines vlan ++
    if routes.isEmpty then [] else routesLine :: routes.flatMap hopLines

/-- The text of an interface, line by line. -/
theorem document_eq (vlan : Nat → List Char) (routes : List (Nat → List Char)) :
    document vlan routes = unlines (documentLines vlan routes) := by
  have hHeader : vlanHeaderTemplate.toList = unlines [networkLine, vlansLine] := by decide
  have hRouteHeader : routeHeaderTemplate.toList = unlines [routesLine] := by decide
  have hHops : routes.flatMap (fun route => (routeParts.render route).toList) =
      unlines (routes.flatMap hopLines) := by
    rw [unlines, List.flatMap_assoc]
    exact List.flatMap_congr fun route _ => routeParts_render route
  have hVlan : (vlanParts.render vlan).toList = unlines (vlanLines vlan) := vlanParts_render vlan
  unfold document documentLines
  rw [hHeader, hVlan, ← unlines_append, unlines_append]
  by_cases hNone : routes.isEmpty = true
  · rw [if_pos hNone, if_pos hNone, unlines_append]
    rfl
  · rw [if_neg hNone, if_neg hNone, hRouteHeader, hHops, ← unlines_append, unlines_append,
      unlines_append]
    rfl

-- ---------------------------------------------------------------------------
-- Reading
-- ---------------------------------------------------------------------------

/-- An address with its prefix length. -/
def readPrefix (cs : List Char) : Option (String × Int) := do
  let (address, mask) ← splitLast '/' cs
  some (String.ofList address, ← readInt mask)

/-- The three lines of a route. -/
def readHop (network gateway metric : List Char) : Option RouteSetup := do
  let (network, mask) ← (strip toStart network).bind readPrefix
  let gateway ← strip viaStart gateway
  let metric ← (strip metricStart metric).bind readInt
  some ⟨network, mask, String.ofList gateway, metric⟩

/-- Routes up to the empty line that ends the text. -/
def readHops : List (List Char) → Option (List RouteSetup)
  | network :: gateway :: metric :: rest => do
    let route ← readHop network gateway metric
    some (route :: (← readHops rest))
  | rest => if rest = [[]] then some [] else none

/-- The lines of a netplan text; the name of the interface and its `id` have to
agree. -/
def readSetupLines : List (List Char) → Option VlanSetup
  | network :: vlans :: name :: id :: link :: addresses :: mac :: rest => do
    guard (network = networkLine ∧ vlans = vlansLine)
    let vlanId ← (between nameStart nameEnd name).bind readInt
    guard ((strip idStart id).bind readInt = some vlanId)
    let link ← strip linkStart link
    let (ip, mask) ← (between addressesStart addressesEnd addresses).bind readPrefix
    let mac ← strip macStart mac
    let routes ←
      if rest = [[]] then some []
      else if rest.head? = some routesLine then readHops rest.tail
      else none
    some ⟨vlanId, String.ofList link, ip, mask, String.ofList mac, routes⟩
  | _ => none

/-- What a netplan text sets up. -/
def readSetup (netplan : String) : Option VlanSetup :=
  readSetupLines (splitOnChar '\n' netplan.toList)

/-- An address with any prefix length is read back. -/
@[simp] theorem readPrefix_append (address : String) (mask : Int) :
    readPrefix (address.toList ++ '/' :: mask.repr.toList) = some (address, mask) := by
  have hSlash : '/' ∉ mask.repr.toList := notMem_repr (by decide) (by decide)
  rw [readPrefix, splitLast_append _ hSlash]
  simp

/-- Routes with any values are read back from their lines. -/
theorem readHops_lines (routes : List RouteSetup) :
    readHops (routes.flatMap (fun route => hopLines (Template.valueAt route.values)) ++ [[]]) =
      some routes := by
  induction routes with
  | nil => rfl
  | cons route routes ih =>
    have hHop : readHop (toStart ++ (route.network.toList ++ '/' :: route.mask.repr.toList))
        (viaStart ++ route.gateway.toList) (metricStart ++ route.metric.repr.toList) =
          some route := by
      simp [readHop]
    have hLines : hopLines (Template.valueAt route.values) =
        [toStart ++ (route.network.toList ++ '/' :: route.mask.repr.toList),
          viaStart ++ route.gateway.toList, metricStart ++ route.metric.repr.toList] := rfl
    rw [List.flatMap_cons, List.append_assoc, hLines, List.cons_append, List.cons_append,
      List.cons_append, List.nil_append, readHops, hHop, ih]
    rfl

/-- The lines of what a request asks for. -/
def VlanSetup.lines (v : VlanSetup) : List (List Char) :=
  documentLines (Template.valueAt v.values)
    (v.routes.map fun route => Template.valueAt route.values)

/-- And so is an interface. -/
theorem readSetupLines_lines (v : VlanSetup) : readSetupLines (v.lines ++ [[]]) = some v := by
  have hVlan : vlanLines (Template.valueAt v.values) =
      [ nameStart ++ (v.vlanId.repr.toList ++ nameEnd), idStart ++ v.vlanId.repr.toList,
        linkStart ++ v.link.toList,
        addressesStart ++ ((v.ip.toList ++ '/' :: v.mask.repr.toList) ++ addressesEnd),
        macStart ++ v.mac.toList ] := rfl
  have hHeader : routesLine ≠ [] := by decide
  have hAddress : between addressesStart addressesEnd (addressesStart ++ (v.ip.toList ++
      '/' :: (v.mask.repr.toList ++ addressesEnd))) =
        some (v.ip.toList ++ '/' :: v.mask.repr.toList) := by
    rw [← List.cons_append, ← List.append_assoc v.ip.toList, between_append]
  unfold VlanSetup.lines documentLines
  rw [hVlan, List.isEmpty_map, List.flatMap_map]
  by_cases hNone : v.routes = []
  · rw [if_pos (List.isEmpty_iff.mpr hNone)]
    simp [readSetupLines, hAddress, ← hNone]
  · rw [if_neg fun hEmpty => hNone (List.isEmpty_iff.mp hEmpty)]
    simp [readSetupLines, hAddress, readHops_lines, hHeader]

/-- No line of a document is broken. -/
theorem documentLines_free {vlan : Nat → List Char} {routes : List (Nat → List Char)}
    (hVlan : ∀ n, 0 < n → n ≤ 5 → '\n' ∉ vlan n)
    (hRoutes : ∀ f ∈ routes, ∀ n, 0 < n → n ≤ 4 → '\n' ∉ f n) :
    ∀ l ∈ documentLines vlan routes, '\n' ∉ l := by
  have hOwn : ∀ l ∈ vlanLines vlan, '\n' ∉ l := by
    have hStarts : '\n' ∉ nameStart ∧ '\n' ∉ nameEnd ∧ '\n' ∉ idStart ∧ '\n' ∉ linkStart ∧
        '\n' ∉ addressesStart ∧ '\n' ∉ addressesEnd ∧ '\n' ∉ macStart := by decide
    simp [vlanLines, hStarts, hVlan]
  have hHop : ∀ f ∈ routes, ∀ l ∈ hopLines f, '\n' ∉ l := by
    intro f hf
    have hStarts : '\n' ∉ toStart ∧ '\n' ∉ viaStart ∧ '\n' ∉ metricStart := by decide
    simp [hopLines, hStarts, hRoutes f hf]
  intro l hl
  unfold documentLines at hl
  rcases List.mem_append.mp hl with hl | hl
  · rcases List.mem_append.mp hl with hl | hl
    · exact (by decide : ∀ l ∈ [networkLine, vlansLine], '\n' ∉ l) l hl
    · exact hOwn l hl
  · split at hl
    · exact absurd hl List.not_mem_nil
    · rcases List.mem_cons.mp hl with rfl | hl
      · decide
      · obtain ⟨f, hf, hl⟩ := List.mem_flatMap.mp hl
        exact hHop f hf l hl

/-- The lines of a document can be read off it. -/
theorem splitOnChar_document {vlan : Nat → List Char} {routes : List (Nat → List Char)}
    (hVlan : ∀ n, 0 < n → n ≤ 5 → '\n' ∉ vlan n)
    (hRoutes : ∀ f ∈ routes, ∀ n, 0 < n → n ≤ 4 → '\n' ∉ f n) :
    splitOnChar '\n' (document vlan routes) = documentLines vlan routes ++ [[]] := by
  have hLines := splitOnChar_lines (documentLines_free hVlan hRoutes) []
  rw [List.append_nil] at hLines
  rw [document_eq]
  exact hLines

-- ---------------------------------------------------------------------------
-- What is written
-- ---------------------------------------------------------------------------

theorem numbered_vlanParts (v : VlanSetup) : vlanParts.NumberedFrom 0 v.values.length :=
  (by decide +kernel : vlanParts.NumberedFrom 0 5)

theorem numbered_routeParts (route : RouteSetup) :
    routeParts.NumberedFrom 0 route.values.length :=
  (by decide +kernel : routeParts.NumberedFrom 0 4)

theorem vlanParts_ok : vlanParts.Ok ∧ vlanParts.Stopped := by decide +kernel

theorem routeParts_ok : routeParts.Ok ∧ routeParts.Stopped := by decide +kernel

/-- An array is a member that is there. -/
theorem contains_of_isArray {o : QJsonObject} {key : String}
    (h : (o.value key).isArray = true) : o.contains key = true := by
  refine QJsonObject.contains_of_value ?_
  cases hValue : o.value key with
  | undefined =>
    rw [hValue] at h
    cases h
  | _ => rfl

/-- The text of a route the request asks for. -/
theorem routeText_asks {routeVal : QJsonValue} {route : RouteSetup}
    (h : AsksRoute routeVal route) :
    routeText routeVal.toObject = routeParts.render (routeParts.filled route.seen.values) := by
  unfold routeText args
  rw [h.network, h.mask, h.gateway, h.metric, routeTemplate_eq,
    ← Template.foldl_arg_filled routeParts_ok.1 routeParts_ok.2]
  rfl

/-- The texts of the routes, one after the other. -/
theorem foldl_routeText_asks {routesArr : QJsonArray} {routes : List RouteSetup}
    (h : List.Forall₂ AsksRoute routesArr routes) (netplan : String) :
    (routesArr.foldl (fun netplan routeVal => netplan ++ routeText routeVal.toObject)
        netplan).toList = netplan.toList ++ routes.flatMap fun route =>
          (routeParts.render (routeParts.filled route.seen.values)).toList := by
  induction h generalizing netplan with
  | nil => simp
  | cons hRoute _ ih =>
    rw [List.foldl_cons, ih, routeText_asks hRoute, String.toList_append, List.flatMap_cons,
      List.append_assoc]

/-- **What is written**: the templates with what the chains of calls leave in
the places of their markers. -/
theorem netplanText_asks {params : QJsonObject} {v : VlanSetup} (h : Asks params v) :
    (netplanText params).toList = document (vlanParts.filled v.seen.values)
      (v.routes.map fun route => routeParts.filled route.seen.values) := by
  have hVlan : args vlanTemplate v.seen.values =
      vlanParts.render (vlanParts.filled v.seen.values) := by
    rw [args, vlanTemplate_eq, Template.foldl_arg_filled vlanParts_ok.1 vlanParts_ok.2]
  have hLength := h.routes.length_eq
  have hAbsent : ∀ value : QJsonValue, value.isArray = false → value.toArray = [] := by
    intro value hOther
    cases value <;> first | rfl | cases hOther
  have hStart : [toString (params.value EnParamName.vlanId.text).toInt,
      (params.value EnParamName.interface.text).toString,
      (params.value EnParamName.ip.text).toString,
      toString (params.value EnParamName.mask.text).toInt,
      (params.value EnParamName.mac.text).toString] = v.seen.values := by
    rw [h.vlanId, h.link, h.ip, h.mask, h.mac]
    rfl
  unfold netplanText document
  dsimp only
  rw [hStart, hVlan, List.isEmpty_map, List.flatMap_map]
  by_cases hNone : v.routes = []
  · have hEmpty : (params.value EnParamName.routes.text).toArray = [] :=
      List.length_eq_zero_iff.mp (by rw [hLength, hNone, List.length_nil])
    rw [hEmpty, if_pos (List.isEmpty_iff.mpr hNone), List.append_nil]
    split
    · rw [List.isEmpty_nil, if_pos rfl, String.toList_append]
    · rw [String.toList_append]
  · have hSome : (params.value EnParamName.routes.text).toArray ≠ [] := by
      intro hEmpty
      rw [hEmpty, List.length_nil] at hLength
      exact hNone (List.length_eq_zero_iff.mp hLength.symm)
    have hIsArray : (params.value EnParamName.routes.text).isArray = true := by
      by_contra hOther
      exact hSome (hAbsent _ (Bool.not_eq_true _ ▸ hOther))
    have hContains := contains_of_isArray hIsArray
    rw [hContains, hIsArray, if_pos (by decide), if_neg fun hE => hSome (List.isEmpty_iff.mp hE),
      if_neg fun hE => hNone (List.isEmpty_iff.mp hE), foldl_routeText_asks h.routes,
      String.toList_append, String.toList_append, List.append_assoc]


-- ---------------------------------------------------------------------------
-- The name of the interface
-- ---------------------------------------------------------------------------

/-- What stands before the VLAN id is no VLAN name. -/
theorem search_vlanHeader (cs : List Char) :
    Pattern.search vlanPattern ("network:\n  vlans:\n    vlan.".toList ++ cs) =
      Pattern.search vlanPattern ("vlan.".toList ++ cs) := rfl

/-- The pattern finds the name of the interface, with all its digits. -/
theorem search_vlanName {digits rest : List Char} (hSome : digits ≠ [])
    (hDigits : ∀ c ∈ digits, c.isDigit = true) :
    Pattern.search vlanPattern ("vlan.".toList ++ (digits ++ ':' :: rest)) =
      some ([['v'], ['l'], ['a'], ['n'], ['.'], digits], ':' :: rest) := by
  have hStop : ∀ c ∈ (':' :: rest).head?, c.isDigit = false := by
    intro c hc
    obtain rfl : ':' = c := Option.some_inj.mp hc
    rfl
  have hPlus : Pattern.matchHere [.plus Char.isDigit] (digits ++ ':' :: rest) =
      some ([digits], ':' :: rest) := by
    rw [Pattern.matchHere, Pattern.greedyPlus_end hSome hDigits hStop]
    rfl
  refine Pattern.search_here ?_
  have hVlan : "vlan.".toList ++ (digits ++ ':' :: rest) =
      "vlan".toList ++ '.' :: (digits ++ ':' :: rest) := rfl
  have hDot : (fun c : Char => c != '\n') '.' = true := rfl
  rw [hVlan, vlanPattern, Pattern.matchHere_literal, Pattern.dot, Pattern.matchHere, if_pos hDot,
    hPlus]
  rfl

/-- **The name read off a text later** is the one it was written with. -/
theorem capturedVlan_document {vlan : Nat → List Char} {routes : List (Nat → List Char)} {n : Nat}
    (hId : vlan 1 = n.repr.toList) {netplan : String}
    (hText : netplan.toList = document vlan routes) :
    capturedVlan netplan = "vlan." ++ n.repr := by
  have hCons : ∀ l ls, unlines (l :: ls) = l ++ '\n' :: unlines ls := by
    intro l ls
    rw [unlines, List.flatMap_cons, List.append_assoc]
    rfl
  have hStart : ∃ rest, document vlan routes =
      "network:\n  vlans:\n    vlan.".toList ++ (vlan 1 ++ ':' :: rest) := by
    have hHeader : "network:\n  vlans:\n    vlan.".toList =
        networkLine ++ '\n' :: (vlansLine ++ '\n' :: nameStart) := by decide
    have hEnd : nameEnd = [':'] := rfl
    rw [document_eq, documentLines, vlanLines, List.append_assoc, List.cons_append,
      List.cons_append, List.nil_append, List.cons_append, hCons, hCons, hCons, hHeader, hEnd]
    exact ⟨_, by simp only [List.append_assoc, List.cons_append, List.nil_append]; rfl⟩
  obtain ⟨rest, hStart⟩ := hStart
  have hSome : n.repr.toList ≠ [] := by
    rw [Nat.toList_repr]
    exact Nat.toDigits_ne_nil
  rw [capturedVlan, hText, hStart, hId, search_vlanHeader,
    search_vlanName hSome fun c hc => isDigit_of_mem_repr hc]
  refine String.toList_injective ?_
  rw [String.toList_append]
  simp

-- ---------------------------------------------------------------------------
-- Faithful texts
-- ---------------------------------------------------------------------------

/-- The text built from a request is the template with each value in its own
place; reading it gives back what was asked for, and so does the name the next
setup takes from it. -/
structure RendersFaithfully (params : QJsonObject) (v : VlanSetup) : Prop where
  text : (netplanText params).toList = v.document
  read : readSetup (netplanText params) = some v
  name1 : 0 ≤ v.vlanId → ∀ (configurator : VMTDConfigurator) (later : String),
    ((configurator.handleSetupInterface1 params).configurator.setNetplan1 later).vlanInterface1 =
      "vlan." ++ toString v.vlanId
  name2 : 0 ≤ v.vlanId → ∀ (configurator : VMTDConfigurator) (later : String),
    ((configurator.handleSetupInterface2 params).configurator.setNetplan2 later).vlanInterface2 =
      "vlan." ++ toString v.vlanId

/-- Exactly an `int` survives being a JSON number. -/
theorem toInt_ofInt_iff {n : Int} : (QJsonValue.ofInt n).toInt = n ↔ IsInt n := by
  constructor
  · intro h
    by_contra hOut
    have hZero : (QJsonValue.ofInt n).toInt = 0 := by
      simp [QJsonValue.ofInt, QJsonValue.toInt, hOut]
    rw [hZero] at h
    exact hOut (h ▸ by decide)
  · exact QJsonValue.toInt_ofInt

theorem RouteSetup.seen_eq {route : RouteSetup} (h : IsInt route.mask ∧ IsInt route.metric) :
    route.seen = route := by
  rw [RouteSetup.seen, toInt_ofInt_iff.mpr h.1, toInt_ofInt_iff.mpr h.2]

namespace VlanSetup

variable {v : VlanSetup} {c : Char}

/-- A setup whose numbers are `int`s is seen as it was meant. -/
theorem Fits.seen_eq (h : v.Fits) : v.seen = v := by
  have hRoutes : v.routes.map RouteSetup.seen = v.routes.map id :=
    List.map_congr_left fun route hRoute => RouteSetup.seen_eq (h.2.2 route hRoute)
  rw [seen, toInt_ofInt_iff.mpr h.1, toInt_ofInt_iff.mpr h.2.1, hRoutes, List.map_id]

/-- What is in no text is in no value, numbers included. -/
theorem Free.values (h : v.Free c) (hDigit : c.isDigit = false) (hMinus : c ≠ '-') :
    ∀ text ∈ v.values, c ∉ text.toList := by
  have hNumber : ∀ n : Int, c ∉ (toString n).toList := fun n => notMem_repr hDigit hMinus
  have hTexts := h.1
  simp only [List.forall_mem_cons, VlanSetup.values] at hTexts ⊢
  exact ⟨hNumber _, hTexts.1, hTexts.2.1, hNumber _, hTexts.2.2.1, hTexts.2.2.2⟩

/-- A character that is in no value is in no value of a route. -/
theorem Free.route (h : v.Free c) (hDigit : c.isDigit = false) (hMinus : c ≠ '-')
    {route : RouteSetup} (hRoute : route ∈ v.routes) : ∀ text ∈ route.values, c ∉ text.toList := by
  have hNumber : ∀ n : Int, c ∉ (toString n).toList := fun n => notMem_repr hDigit hMinus
  have hTexts := h.2 route hRoute
  simp only [List.forall_mem_cons, RouteSetup.values] at hTexts ⊢
  exact ⟨hTexts.1, hNumber _, hTexts.2.1, hNumber _, hTexts.2.2⟩

theorem Free.seen (h : v.Free c) : v.seen.Free c := by
  refine ⟨h.1, fun route hRoute => ?_⟩
  obtain ⟨route, hMem, rfl⟩ := List.mem_map.mp hRoute
  exact h.2 route hMem

end VlanSetup

theorem valueAt_free {values : List String} {c : Char} (h : ∀ text ∈ values, c ∉ text.toList)
    (n : Nat) : c ∉ Template.valueAt values n := by
  rw [Template.valueAt]
  cases hValue : values[n - 1]? with
  | none => simp
  | some text => exact h text (List.mem_of_getElem? hValue)

theorem markerText_free : ∀ n < 10, '\n' ∉ markerText n := by decide

/-- The lines of what was asked for can be read off its document. -/
theorem splitOnChar_asked {v : VlanSetup} (hFree : v.Free '\n') :
    splitOnChar '\n' v.document = v.lines ++ [[]] := by
  refine splitOnChar_document (fun n _ _ => ?_) fun f hf n _ _ => ?_
  · exact valueAt_free (hFree.values (by decide) (by decide)) n
  · obtain ⟨route, hRoute, rfl⟩ := List.mem_map.mp hf
    exact valueAt_free (hFree.route (by decide) (by decide) hRoute) n

/-- The lines of what is written can be read off it. -/
theorem splitOnChar_written {v : VlanSetup} (hFree : v.Free '\n') :
    splitOnChar '\n' (document (vlanParts.filled v.seen.values)
        (v.routes.map fun route => routeParts.filled route.seen.values)) =
      documentLines (vlanParts.filled v.seen.values)
        (v.routes.map fun route => routeParts.filled route.seen.values) ++ [[]] := by
  refine splitOnChar_document (fun n _ hn => ?_) fun f hf n _ hn => ?_
  · exact Template.filled_free (hFree.seen.values (by decide) (by decide))
      (markerText_free n (by omega))
  · obtain ⟨route, hRoute, rfl⟩ := List.mem_map.mp hf
    have hSeen : route.seen ∈ v.seen.routes := List.mem_map_of_mem hRoute
    exact Template.filled_free (hFree.seen.route (by decide) (by decide) hSeen)
      (markerText_free n (by omega))

/-- The text decides. -/
theorem rendersFaithfully_iff_text {params : QJsonObject} {v : VlanSetup} (hFree : v.Free '\n') :
    RendersFaithfully params v ↔ (netplanText params).toList = v.document := by
  constructor
  · exact fun h => h.text
  · intro hText
    have hName : 0 ≤ v.vlanId →
        capturedVlan (netplanText params) = "vlan." ++ toString v.vlanId := by
      intro hPos
      obtain ⟨n, hn⟩ := Int.eq_ofNat_of_zero_le hPos
      have hRepr : toString v.vlanId = n.repr := by
        rw [hn]
        rfl
      have hId : Template.valueAt v.values 1 = n.repr.toList := by
        rw [← hRepr]
        rfl
      rw [capturedVlan_document hId hText, hRepr]
    refine ⟨hText, ?_, fun hPos _ _ => hName hPos, fun hPos _ _ => hName hPos⟩
    rw [readSetup, hText, splitOnChar_asked hFree]
    exact readSetupLines_lines v

-- ---------------------------------------------------------------------------
-- When they are
-- ---------------------------------------------------------------------------

/-- High markers are enough. -/
theorem document_filled {v : VlanSetup} (hFits : v.Fits) (hHigh : v.MarkersHigh) :
    document (vlanParts.filled v.seen.values)
      (v.routes.map fun route => routeParts.filled route.seen.values) = v.document := by
  have hVlan := Template.render_filled vlanParts_ok.1 vlanParts_ok.2 (numbered_vlanParts v) hHigh.1
  have hHops : v.routes.flatMap (fun route =>
      (routeParts.render (routeParts.filled route.seen.values)).toList) =
        v.routes.flatMap fun route =>
          (routeParts.render (Template.valueAt route.values)).toList := by
    refine List.flatMap_congr fun route hRoute => ?_
    rw [RouteSetup.seen_eq (hFits.2.2 route hRoute), Template.render_filled routeParts_ok.1
      routeParts_ok.2 (numbered_routeParts route) (hHigh.2 route hRoute)]
  unfold VlanSetup.document document
  rw [hFits.seen_eq, hVlan, List.flatMap_map, List.flatMap_map, hHops, List.isEmpty_map,
    List.isEmpty_map]

/-- Different lines, different pieces. -/
theorem documentLines_inj {vlan vlan' : Nat → List Char} {routes : List RouteSetup}
    {hop hop' : RouteSetup → Nat → List Char}
    (h : documentLines vlan (routes.map hop) = documentLines vlan' (routes.map hop')) :
    vlanLines vlan = vlanLines vlan' ∧
      ∀ route ∈ routes, hopLines (hop route) = hopLines (hop' route) := by
  unfold documentLines at h
  rw [List.append_assoc, List.append_assoc, List.append_cancel_left_eq, List.isEmpty_map,
    List.isEmpty_map, List.flatMap_map, List.flatMap_map] at h
  obtain ⟨hVlan, hRest⟩ := List.append_inj h rfl
  refine ⟨hVlan, ?_⟩
  by_cases hNone : routes.isEmpty = true
  · rw [List.isEmpty_iff.mp hNone]
    exact fun _ hRoute => absurd hRoute List.not_mem_nil
  · rw [if_neg hNone, if_neg hNone, List.cons.injEq] at hRest
    have hAll : ∀ routes : List RouteSetup, routes.flatMap (fun route => hopLines (hop route)) =
        routes.flatMap (fun route => hopLines (hop' route)) →
          ∀ route ∈ routes, hopLines (hop route) = hopLines (hop' route) := by
      intro routes
      induction routes with
      | nil => exact fun _ _ hRoute => absurd hRoute List.not_mem_nil
      | cons first routes ih =>
        intro hEq
        rw [List.flatMap_cons, List.flatMap_cons] at hEq
        obtain ⟨hFirst, hEq⟩ := List.append_inj hEq rfl
        exact List.forall_mem_cons.mpr ⟨hFirst, ih hEq⟩
    exact hAll routes hRest.2

/-- A text that is the document has, line by line, the values asked for in their
places. -/
theorem lines_of_text {params : QJsonObject} {v : VlanSetup} (h : Asks params v)
    (hFree : v.Free '\n') (hText : (netplanText params).toList = v.document) :
    vlanLines (vlanParts.filled v.seen.values) = vlanLines (Template.valueAt v.values) ∧
      ∀ route ∈ v.routes, hopLines (routeParts.filled route.seen.values) =
        hopLines (Template.valueAt route.values) := by
  rw [netplanText_asks h] at hText
  have hLines := congrArg (splitOnChar '\n') hText
  rw [splitOnChar_written hFree, splitOnChar_asked hFree, List.append_cancel_right_eq] at hLines
  exact documentLines_inj hLines

/-- An address and a prefix length without `/` are told apart. -/
theorem addressed_inj {address address' mask mask' : List Char} (hMask : '/' ∉ mask)
    (hMask' : '/' ∉ mask') (h : address ++ '/' :: mask = address' ++ '/' :: mask') :
    address = address' ∧ mask = mask' := by
  have hSplit := congrArg (splitLast '/') h
  rw [splitLast_append _ hMask, splitLast_append _ hMask', Option.some_inj] at hSplit
  exact ⟨congrArg Prod.fst hSplit, congrArg Prod.snd hSplit⟩

theorem toString_free {c : Char} (hDigit : c.isDigit = false) (hMinus : c ≠ '-') (n : Int) :
    c ∉ (toString n).toList := notMem_repr hDigit hMinus

/-- The lines of a route as asked for: the numbers fit, and the markers are
high. -/
theorem fits_of_hopLines {route : RouteSetup}
    (h : hopLines (routeParts.filled route.seen.values) =
      hopLines (Template.valueAt route.values)) :
    (IsInt route.mask ∧ IsInt route.metric) ∧ Template.LastMarkersHigh route.values := by
  have hLines : routeParts.filled route.seen.values 1 ++
        '/' :: routeParts.filled route.seen.values 2 =
          route.network.toList ++ '/' :: (toString route.mask).toList ∧
      routeParts.filled route.seen.values 3 = route.gateway.toList ∧
      routeParts.filled route.seen.values 4 = (toString route.metric).toList := by
    simpa [hopLines, Template.valueAt, RouteSetup.values] using h
  obtain ⟨hNetwork, hGateway, hMetric⟩ := hLines
  have hLast : routeParts.filled route.seen.values 4 ≠ markerText 4 := by
    intro hMarker
    have hPercent := toString_free (by decide : ('%' : Char).isDigit = false) (by decide)
      route.metric
    rw [← hMetric, hMarker] at hPercent
    exact hPercent (by decide)
  have hPlace : ∀ {j : Nat} {n : Int}, route.seen.values[j]? = some (toString n) →
      routeParts.filled route.seen.values (j + 1) = (toString n).toList := fun hValue =>
    Template.filled_of_plain routeParts_ok.1 (numbered_routeParts route.seen) hLast hValue
      (toString_free (by decide) (by decide) _)
  have hSeenMask : routeParts.filled route.seen.values 2 = (toString route.seen.mask).toList :=
    hPlace rfl
  have hSeenMetric : routeParts.filled route.seen.values 4 =
      (toString route.seen.metric).toList := hPlace rfl
  rw [hSeenMask] at hNetwork
  obtain ⟨hNetwork, hMask⟩ := addressed_inj (toString_free (by decide) (by decide) _)
    (toString_free (by decide) (by decide) _) hNetwork
  have hFits : IsInt route.mask ∧ IsInt route.metric :=
    ⟨toInt_ofInt_iff.mp (repr_inj hMask), toInt_ofInt_iff.mp (repr_inj (hSeenMetric ▸ hMetric))⟩
  rw [RouteSetup.seen_eq hFits] at hNetwork hGateway hSeenMask hSeenMetric hLast
  refine ⟨hFits, Template.lastMarkersHigh_of_filled routeParts_ok.1 (numbered_routeParts route)
    hLast ?_⟩
  intro j hj
  have hCases : j = 0 ∨ j = 1 ∨ j = 2 ∨ j = 3 := by
    change j < 4 at hj
    omega
  rcases hCases with rfl | rfl | rfl | rfl
  · exact hNetwork
  · exact hSeenMask
  · exact hGateway
  · exact hSeenMetric

/-- The same for the lines of the interface, whose last value may be any
text. -/
theorem fits_of_vlanLines {v : VlanSetup} (hMac : v.mac ≠ "%5")
    (h : vlanLines (vlanParts.filled v.seen.values) = vlanLines (Template.valueAt v.values)) :
    (IsInt v.vlanId ∧ IsInt v.mask) ∧
      ∀ j < 5, vlanParts.filled v.seen.values (j + 1) = Template.valueAt v.values (j + 1) := by
  have hLines : vlanParts.filled v.seen.values 1 = (toString v.vlanId).toList ∧
      vlanParts.filled v.seen.values 2 = v.link.toList ∧
      vlanParts.filled v.seen.values 3 ++ '/' :: vlanParts.filled v.seen.values 4 =
        v.ip.toList ++ '/' :: (toString v.mask).toList ∧
      vlanParts.filled v.seen.values 5 = v.mac.toList := by
    unfold vlanLines at h
    simp only [List.cons.injEq, List.append_cancel_left_eq, List.append_cancel_right_eq] at h
    exact ⟨h.1, h.2.2.1, h.2.2.2.1, h.2.2.2.2.1⟩
  obtain ⟨hId, hLink, hAddress, hMacText⟩ := hLines
  have hLast : vlanParts.filled v.seen.values 5 ≠ markerText 5 := by
    intro hMarker
    rw [hMacText] at hMarker
    exact hMac (String.toList_injective hMarker)
  have hPlace : ∀ {j : Nat} {n : Int}, v.seen.values[j]? = some (toString n) →
      vlanParts.filled v.seen.values (j + 1) = (toString n).toList := fun hValue =>
    Template.filled_of_plain vlanParts_ok.1 (numbered_vlanParts v.seen) hLast hValue
      (toString_free (by decide) (by decide) _)
  have hSeenId : vlanParts.filled v.seen.values 1 = (toString v.seen.vlanId).toList := hPlace rfl
  have hSeenMask : vlanParts.filled v.seen.values 4 = (toString v.seen.mask).toList := hPlace rfl
  rw [hSeenMask] at hAddress
  obtain ⟨hIp, hMask⟩ := addressed_inj (toString_free (by decide) (by decide) _)
    (toString_free (by decide) (by decide) _) hAddress
  refine ⟨⟨toInt_ofInt_iff.mp (repr_inj (hSeenId ▸ hId)), toInt_ofInt_iff.mp (repr_inj hMask)⟩, ?_⟩
  intro j hj
  have hCases : j = 0 ∨ j = 1 ∨ j = 2 ∨ j = 3 ∨ j = 4 := by omega
  rcases hCases with rfl | rfl | rfl | rfl | rfl
  · exact hId
  · exact hLink
  · exact hIp
  · exact hSeenMask.trans hMask
  · exact hMacText

/-- **When the text says what was asked for**: if the numbers fit an `int` and
no value has a marker a later call looks for. Unless the last value is itself
the last marker, the text also shows that the numbers fit, and that a value
followed by values without `%` has no such marker. -/
theorem netplanText_faithful {params : QJsonObject} {v : VlanSetup} (h : Asks params v)
    (hFree : v.Free '\n') :
    (v.Fits ∧ v.MarkersHigh → RendersFaithfully params v) ∧
      (v.mac ≠ "%5" → RendersFaithfully params v → v.Fits ∧ v.LastMarkersHigh) := by
  rw [rendersFaithfully_iff_text hFree]
  refine ⟨fun hGood => ?_, fun hMac hText => ?_⟩
  · rw [netplanText_asks h]
    exact document_filled hGood.1 hGood.2
  obtain ⟨hVlan, hRoutes⟩ := lines_of_text h hFree hText
  obtain ⟨hOwn, hKept⟩ := fits_of_vlanLines hMac hVlan
  have hFits : v.Fits :=
    ⟨hOwn.1, hOwn.2, fun route hRoute => (fits_of_hopLines (hRoutes route hRoute)).1⟩
  refine ⟨hFits, ?_, fun route hRoute => (fits_of_hopLines (hRoutes route hRoute)).2⟩
  rw [hFits.seen_eq] at hKept
  have hLast : vlanParts.filled v.values 5 ≠ markerText 5 := by
    rw [hKept 4 (by omega)]
    exact fun hMarker => hMac (String.toList_injective hMarker)
  exact Template.lastMarkersHigh_of_filled vlanParts_ok.1 (numbered_vlanParts v) hLast hKept

/-- A request whose values keep clear of the markers, though one has a `%`. -/
def vlanSetup30 : VlanSetup where
  vlanId := 30
  link := "eth%9"
  ip := "100.100.30.1"
  mask := 24
  mac := "aa:bb:cc:dd:1e:01"
  routes := [⟨"100.100.31.0", 24, "100.100.30.2", 100⟩]

/-- An interface with a route, rendered and read back. -/
theorem netplanText_faithful_vlan30 : RendersFaithfully vlanSetup30.params vlanSetup30 := by
  refine (netplanText_faithful (asks_params vlanSetup30) ?_).1 ⟨?_, ?_⟩
  · unfold VlanSetup.Free
    decide
  · unfold VlanSetup.Fits
    decide
  · unfold VlanSetup.MarkersHigh Template.MarkersHigh
    decide +kernel

/-- A link name with the marker of the address: the address is written into
both. -/
theorem netplan_marker_in_link :
    ¬ ∀ (params : QJsonObject) (v : VlanSetup), Asks params v → v.Free '\n' →
        RendersFaithfully params v := by
  intro hClaim
  let v : VlanSetup := ⟨30, "eth%3", "100.100.30.1", 24, "aa:bb:cc:dd:1e:01", []⟩
  have hFree : v.Free '\n' := by
    unfold VlanSetup.Free
    decide
  obtain ⟨hVlan, -⟩ := lines_of_text (asks_params v) hFree
    (hClaim v.params v (asks_params v) hFree).text
  simp only [vlanLines, List.cons.injEq, List.append_cancel_left_eq] at hVlan
  exact absurd hVlan.2.2.1 (by decide +kernel)

end VxlanMtd
