import VxlanMtd.Model.Configurator
import VxlanMtd.Model.Participant
import VxlanMtd.Lib.Text

/-!
# Netplan texts

What a netplan text of the configurator says: `NetplanVlan`, and `readNetplan`,
which reads the text line by line and accepts nothing else.

* `netplanText_eq` — the text built from a request, as lines;
* **`readNetplan_netplanText`** — reading it gives back what the request says,
  for values without `%` and line breaks.
-/

namespace VxlanMtd

open PlaceMarker Text

/-- A VLAN interface as a netplan text describes it. -/
structure NetplanVlan where
  vlanId : Int
  link : String
  ip : String
  mask : Nat
  mac : String
  routes : List VMTDRoute
  deriving DecidableEq, Repr

-- ---------------------------------------------------------------------------
-- Lines
-- ---------------------------------------------------------------------------

/-! The fixed parts of the lines. -/

def networkLine : List Char := "network:".toList
def vlansLine : List Char := "  vlans:".toList
def nameStart : List Char := "    vlan.".toList
def nameEnd : List Char := ":".toList
def idStart : List Char := "      id: ".toList
def linkStart : List Char := "      link: ".toList
def addressesStart : List Char := "      addresses: [ \"".toList
def addressesEnd : List Char := "\" ]".toList
def macStart : List Char := "      macaddress: ".toList
def routesLine : List Char := "      routes:".toList
def toStart : List Char := "        - to: ".toList
def viaStart : List Char := "          via: ".toList
def metricStart : List Char := "          metric: ".toList

/-- A network with its prefix length, `a/m`. -/
def prefixed (address : String) (mask : Nat) : List Char :=
  address.toList ++ '/' :: (mask : Int).repr.toList

/-- The lines of a route. -/
def routeLines (route : VMTDRoute) : List (List Char) :=
  [ toStart ++ prefixed route.network route.mask,
    viaStart ++ route.gateway.toList,
    metricStart ++ route.metric.repr.toList ]

namespace NetplanVlan

/-- The lines of the interface itself. -/
def ownLines (v : NetplanVlan) : List (List Char) :=
  [ nameStart ++ (v.vlanId.repr.toList ++ nameEnd),
    idStart ++ v.vlanId.repr.toList,
    linkStart ++ v.link.toList,
    addressesStart ++ (prefixed v.ip v.mask ++ addressesEnd),
    macStart ++ v.mac.toList ]

/-- The lines of a netplan text. -/
def lines (v : NetplanVlan) : List (List Char) :=
  [networkLine, vlansLine] ++ v.ownLines ++
    if v.routes = [] then [] else routesLine :: v.routes.flatMap routeLines

/-- The texts in it. -/
def texts (v : NetplanVlan) : List String :=
  v.link :: v.ip :: v.mac :: v.routes.flatMap fun route => [route.network, route.gateway]

/-- None of the texts contains that character. -/
def Free (c : Char) (v : NetplanVlan) : Prop := ∀ text ∈ v.texts, c ∉ text.toList

end NetplanVlan

-- ---------------------------------------------------------------------------
-- Reading
-- ---------------------------------------------------------------------------

def readPrefixed (cs : List Char) : Option (String × Nat) := do
  let (address, mask) ← splitLast '/' cs
  some (String.ofList address, ← readNat mask)

/-- The three lines of a route. -/
def readRoute (network gateway metric : List Char) : Option VMTDRoute := do
  let (network, mask) ← (strip toStart network).bind readPrefixed
  let gateway ← strip viaStart gateway
  let metric ← (strip metricStart metric).bind readInt
  some ⟨network, mask, String.ofList gateway, metric⟩

/-- Routes up to the empty line that ends the text. -/
def readRoutes : List (List Char) → Option (List VMTDRoute)
  | network :: gateway :: metric :: rest => do
    let route ← readRoute network gateway metric
    some (route :: (← readRoutes rest))
  | rest => if rest = [[]] then some [] else none

/-- The lines of a netplan text; the name of the interface and its `id` have to
agree. -/
def readNetplanLines : List (List Char) → Option NetplanVlan
  | network :: vlans :: name :: id :: link :: addresses :: mac :: rest => do
    guard (network = networkLine ∧ vlans = vlansLine)
    let vlanId ← (between nameStart nameEnd name).bind readInt
    guard ((strip idStart id).bind readInt = some vlanId)
    let link ← strip linkStart link
    let (ip, mask) ← (between addressesStart addressesEnd addresses).bind readPrefixed
    let mac ← strip macStart mac
    let routes ←
      if rest = [[]] then some []
      else if rest.head? = some routesLine then readRoutes rest.tail
      else none
    some ⟨vlanId, String.ofList link, ip, mask, String.ofList mac, routes⟩
  | _ => none

/-- What a netplan text says. -/
def readNetplan (netplan : String) : Option NetplanVlan :=
  readNetplanLines (splitOnChar '\n' netplan.toList)

/-- An address with its prefix length is read back. -/
@[simp] theorem readPrefixed_prefixed (address : String) (mask : Nat) :
    readPrefixed (prefixed address mask) = some (address, mask) := by
  have hSlash : '/' ∉ (mask : Int).repr.toList := notMem_repr (by decide) (by decide)
  rw [readPrefixed, prefixed, splitLast_append _ hSlash]
  simp [readNat_repr_natCast]

/-- Routes are read back from their lines, up to an empty line. -/
theorem readRoutes_lines (routes : List VMTDRoute) :
    readRoutes (routes.flatMap routeLines ++ [[]]) = some routes := by
  induction routes with
  | nil => rfl
  | cons route routes ih =>
    have hRoute : readRoute (toStart ++ prefixed route.network route.mask)
        (viaStart ++ route.gateway.toList) (metricStart ++ route.metric.repr.toList) =
          some route := by
      simp [readRoute]
    rw [List.flatMap_cons, List.append_assoc, routeLines, List.cons_append, List.cons_append,
      List.cons_append, List.nil_append, readRoutes, hRoute, ih]
    rfl

/-- Reading the lines gives back what they were written from. -/
theorem readNetplanLines_lines (v : NetplanVlan) : readNetplanLines (v.lines ++ [[]]) = some v := by
  have hRoutes : (if v.routes = [] then [] else routesLine :: v.routes.flatMap routeLines) ++ [[]] =
      if v.routes = [] then [[]] else routesLine :: (v.routes.flatMap routeLines ++ [[]]) := by
    split <;> rfl
  unfold NetplanVlan.lines NetplanVlan.ownLines
  rw [List.append_assoc, hRoutes]
  by_cases hNone : v.routes = []
  · rw [if_pos hNone]
    simp [readNetplanLines, ← hNone]
  · rw [if_neg hNone]
    have hHeader : routesLine ≠ [] := by decide
    simp [readNetplanLines, readRoutes_lines, hHeader]

-- ---------------------------------------------------------------------------
-- Writing
-- ---------------------------------------------------------------------------

/-- The template of an interface, cut at its markers. -/
def vlanParts : Template :=
  ⟨"    vlan.".toList,
    [(1, ":\n      id: ".toList), (1, "\n      link: ".toList), (2, "\n      addresses: [ \"".toList),
      (3, "/".toList), (4, "\" ]\n      macaddress: ".toList), (5, "\n".toList)]⟩

/-- The template of a route, cut at its markers. -/
def routeParts : Template :=
  ⟨"        - to: ".toList,
    [(1, "/".toList), (2, "\n          via: ".toList), (3, "\n          metric: ".toList),
      (4, "\n".toList)]⟩

theorem vlanTemplate_eq : vlanTemplate = vlanParts.text := by decide +kernel

theorem routeTemplate_eq : routeTemplate = routeParts.text := by decide +kernel

/-- Lines, each closed by a line break. -/
def unlines (lines : List (List Char)) : List Char := lines.flatMap (· ++ ['\n'])

/-- The template of a route has three lines. -/
theorem routeParts_render (value : Nat → List Char) :
    (routeParts.render value).toList = unlines
      [toStart ++ (value 1 ++ '/' :: value 2), viaStart ++ value 3, metricStart ++ value 4] := by
  have hVia : "\n          via: ".toList = '\n' :: viaStart := rfl
  have hMetric : "\n          metric: ".toList = '\n' :: metricStart := rfl
  have hTo : "        - to: ".toList = toStart := rfl
  have hSlash : "/".toList = ['/'] := rfl
  have hBreak : "\n".toList = ['\n'] := rfl
  unfold routeParts Template.render unlines
  rw [String.toList_ofList, hVia, hMetric, hTo, hSlash, hBreak]
  simp only [List.flatMap_cons, List.flatMap_nil, List.append_nil, List.append_assoc,
    List.cons_append, List.nil_append]

/-- The template of an interface has five lines. -/
theorem vlanParts_render (value : Nat → List Char) :
    (vlanParts.render value).toList = unlines
      [nameStart ++ (value 1 ++ nameEnd), idStart ++ value 1, linkStart ++ value 2,
        addressesStart ++ ((value 3 ++ '/' :: value 4) ++ addressesEnd), macStart ++ value 5] := by
  have hName : "    vlan.".toList = nameStart := rfl
  have hId : ":\n      id: ".toList = ':' :: '\n' :: idStart := rfl
  have hLink : "\n      link: ".toList = '\n' :: linkStart := rfl
  have hAddresses : "\n      addresses: [ \"".toList = '\n' :: addressesStart := rfl
  have hMac : "\" ]\n      macaddress: ".toList = addressesEnd ++ '\n' :: macStart := rfl
  have hSlash : "/".toList = ['/'] := rfl
  have hBreak : "\n".toList = ['\n'] := rfl
  have hColon : nameEnd = [':'] := rfl
  unfold vlanParts Template.render unlines
  rw [String.toList_ofList, hName, hId, hLink, hAddresses, hMac, hSlash, hBreak, hColon]
  simp only [List.flatMap_cons, List.flatMap_nil, List.append_nil, List.append_assoc,
    List.cons_append, List.nil_append]

-- ---------------------------------------------------------------------------
-- Texts built from requests
-- ---------------------------------------------------------------------------

theorem unlines_append (lines lines' : List (List Char)) :
    unlines (lines ++ lines') = unlines lines ++ unlines lines' := List.flatMap_append

/-- The numbers of a route fit an `int`. -/
def VMTDRoute.Fits (route : VMTDRoute) : Prop := IsInt route.mask ∧ IsInt route.metric

/-- What a request says about the interface to set up. -/
structure Describes (params : QJsonObject) (v : NetplanVlan) : Prop where
  vlanId : (params.value EnParamName.vlanId.text).toInt = v.vlanId
  link : (params.value EnParamName.interface.text).toString = v.link
  ip : (params.value EnParamName.ip.text).toString = v.ip
  mask : (params.value EnParamName.mask.text).toInt = v.mask
  mac : (params.value EnParamName.mac.text).toString = v.mac
  hasRoutes : params.contains EnParamName.routes.text = true
  routes : params.value EnParamName.routes.text =
    .array (v.routes.map fun route => .object (VMTDParticipant.routeObj route))

/-- The members of a route object. -/
theorem routeObj_members {route : VMTDRoute} (hFits : route.Fits) :
    (QJsonObject.value (VMTDParticipant.routeObj route) EnParamName.network.text).toString =
      route.network ∧
    (QJsonObject.value (VMTDParticipant.routeObj route) EnParamName.mask.text).toInt =
      route.mask ∧
    (QJsonObject.value (VMTDParticipant.routeObj route) EnParamName.gateway.text).toString =
      route.gateway ∧
    (QJsonObject.value (VMTDParticipant.routeObj route) EnParamName.metric.text).toInt =
      route.metric := by
  have hString : ∀ s, (QJsonValue.string s).isUndefined = false := fun _ => rfl
  have hInt : ∀ n, (QJsonValue.ofInt n).isUndefined = false := fun _ => rfl
  unfold VMTDParticipant.routeObj
  dsimp only
  refine ⟨?_, ?_, ?_, ?_⟩
  · rw [QJsonObject.value_insert_of_ne _ (by decide), QJsonObject.value_insert_of_ne _ (by decide),
      QJsonObject.value_insert_of_ne _ (by decide), QJsonObject.value_insert _ _ (hString _),
      QJsonValue.toString_string]
  · rw [QJsonObject.value_insert_of_ne _ (by decide), QJsonObject.value_insert_of_ne _ (by decide),
      QJsonObject.value_insert _ _ (hInt _), QJsonValue.toInt_ofInt hFits.1]
  · rw [QJsonObject.value_insert_of_ne _ (by decide), QJsonObject.value_insert _ _ (hString _),
      QJsonValue.toString_string]
  · rw [QJsonObject.value_insert _ _ (hInt _), QJsonValue.toInt_ofInt hFits.2]

/-- The text of a route, where no address has a `%`. -/
theorem routeText_routeObj {route : VMTDRoute} (hFits : route.Fits)
    (hNetwork : '%' ∉ route.network.toList) (hGateway : '%' ∉ route.gateway.toList) :
    (routeText (VMTDParticipant.routeObj route)).toList = unlines (routeLines route) := by
  obtain ⟨h₁, h₂, h₃, h₄⟩ := routeObj_members hFits
  have hNum : routeParts.NumberedFrom 0 4 := by decide +kernel
  have hPercent : ∀ value ∈ [route.network, toString (route.mask : Int), route.gateway,
      toString route.metric], '%' ∉ value.toList := by
    intro value hValue
    simp only [List.mem_cons, List.not_mem_nil, or_false] at hValue
    rcases hValue with rfl | rfl | rfl | rfl
    · exact hNetwork
    · exact notMem_repr (by decide) (by decide)
    · exact hGateway
    · exact notMem_repr (by decide) (by decide)
  unfold routeText args
  rw [h₁, h₂, h₃, h₄, routeTemplate_eq, foldl_arg_text (by decide +kernel) hNum hPercent,
    routeParts_render]
  rfl

/-- The text of an interface, where no value has a `%`. -/
theorem args_vlanTemplate {v : NetplanVlan} (hPercent : v.Free '%') :
    (args vlanTemplate [toString v.vlanId, v.link, v.ip, toString (v.mask : Int), v.mac]).toList =
      unlines v.ownLines := by
  have hNum : vlanParts.NumberedFrom 0 5 := by decide +kernel
  have hValues : ∀ value ∈ [toString v.vlanId, v.link, v.ip, toString (v.mask : Int), v.mac],
      '%' ∉ value.toList := by
    intro value hValue
    simp only [List.mem_cons, List.not_mem_nil, or_false] at hValue
    rcases hValue with rfl | rfl | rfl | rfl | rfl
    · exact notMem_repr (by decide) (by decide)
    · exact hPercent _ (by simp [NetplanVlan.texts])
    · exact hPercent _ (by simp [NetplanVlan.texts])
    · exact notMem_repr (by decide) (by decide)
    · exact hPercent _ (by simp [NetplanVlan.texts])
  unfold args
  rw [vlanTemplate_eq, foldl_arg_text (by decide +kernel) hNum hValues, vlanParts_render]
  rfl

/-- The texts of the routes, one after the other. -/
theorem foldl_routeText {routes : List VMTDRoute}
    (hRoutes : ∀ route ∈ routes, route.Fits ∧ '%' ∉ route.network.toList ∧
      '%' ∉ route.gateway.toList) (netplan : String) :
    ((routes.map fun route => QJsonValue.object (VMTDParticipant.routeObj route)).foldl
      (fun netplan routeVal => netplan ++ routeText routeVal.toObject) netplan).toList =
        netplan.toList ++ unlines (routes.flatMap routeLines) := by
  induction routes generalizing netplan with
  | nil => simp [unlines]
  | cons route routes ih =>
    obtain ⟨hFits, hNetwork, hGateway⟩ := hRoutes route List.mem_cons_self
    rw [List.map_cons, List.foldl_cons, ih fun r hr => hRoutes r (List.mem_cons_of_mem _ hr),
      QJsonValue.toObject_object, String.toList_append,
      routeText_routeObj hFits hNetwork hGateway, List.flatMap_cons, unlines_append,
      List.append_assoc]

theorem NetplanVlan.Free.route {v : NetplanVlan} {c : Char} (h : v.Free c) {route : VMTDRoute}
    (hRoute : route ∈ v.routes) : c ∉ route.network.toList ∧ c ∉ route.gateway.toList := by
  have hTexts : ∀ text ∈ [route.network, route.gateway], text ∈ v.texts := by
    intro text hText
    refine List.mem_cons_of_mem _ (List.mem_cons_of_mem _ (List.mem_cons_of_mem _ ?_))
    exact List.mem_flatMap.mpr ⟨route, hRoute, hText⟩
  exact ⟨h _ (hTexts _ (by simp)), h _ (hTexts _ (by simp))⟩

/-- **The text built from a request**, as lines. -/
theorem netplanText_eq {params : QJsonObject} {v : NetplanVlan} (h : Describes params v)
    (hFits : ∀ route ∈ v.routes, route.Fits) (hPercent : v.Free '%') :
    (netplanText params).toList = unlines v.lines := by
  have hHeader : vlanHeaderTemplate.toList = unlines [networkLine, vlansLine] := by decide
  have hRouteHeader : routeHeaderTemplate.toList = unlines [routesLine] := by decide
  have hStart : (vlanHeaderTemplate ++ args vlanTemplate
      [toString v.vlanId, v.link, v.ip, toString (v.mask : Int), v.mac]).toList =
      unlines ([networkLine, vlansLine] ++ v.ownLines) := by
    rw [String.toList_append, hHeader, args_vlanTemplate hPercent, ← unlines_append]
  unfold netplanText
  dsimp only
  have hIsArray : (params.value EnParamName.routes.text).isArray = true := by
    rw [h.routes]
    rfl
  have hArray : (params.value EnParamName.routes.text).toArray =
      v.routes.map fun route => .object (VMTDParticipant.routeObj route) := by
    rw [h.routes]
    rfl
  rw [h.vlanId, h.link, h.ip, h.mask, h.mac, h.hasRoutes, hIsArray, hArray,
    if_pos (by decide)]
  by_cases hNone : v.routes = []
  · rw [if_pos (by simp [hNone]), hStart, NetplanVlan.lines, if_pos hNone, List.append_nil]
  · have hRoutes := foldl_routeText fun route hRoute =>
      And.intro (hFits route hRoute) (hPercent.route hRoute)
    rw [if_neg (by simpa using hNone), hRoutes, String.toList_append, hStart, hRouteHeader,
      NetplanVlan.lines, if_neg hNone, ← unlines_append, ← unlines_append, List.append_assoc,
      List.singleton_append]

/-- No line of the text is broken. -/
theorem NetplanVlan.lines_free {v : NetplanVlan} (h : v.Free '\n') : ∀ l ∈ v.lines, '\n' ∉ l := by
  have hNumber : ∀ x : Int, '\n' ∉ x.repr.toList := fun x => notMem_repr (by decide) (by decide)
  have hPrefixed : ∀ (address : String) mask, '\n' ∉ address.toList →
      '\n' ∉ prefixed address mask := by
    intro address mask hAddress
    simp [prefixed, hAddress, hNumber]
  have hRoute : ∀ route ∈ v.routes, ∀ l ∈ routeLines route, '\n' ∉ l := by
    intro route hRoute
    obtain ⟨hNetwork, hGateway⟩ := h.route hRoute
    have hStarts : '\n' ∉ toStart ∧ '\n' ∉ viaStart ∧ '\n' ∉ metricStart := by decide
    simp [routeLines, hStarts, hPrefixed _ _ hNetwork, hGateway, hNumber]
  have hOwn : ∀ l ∈ v.ownLines, '\n' ∉ l := by
    have hLink := h v.link (by simp [texts])
    have hIp := h v.ip (by simp [texts])
    have hMac := h v.mac (by simp [texts])
    have hStarts : '\n' ∉ nameStart ∧ '\n' ∉ nameEnd ∧ '\n' ∉ idStart ∧ '\n' ∉ linkStart ∧
        '\n' ∉ addressesStart ∧ '\n' ∉ addressesEnd ∧ '\n' ∉ macStart := by decide
    simp [ownLines, hStarts, hLink, hMac, hNumber, hPrefixed _ _ hIp]
  intro l hl
  unfold lines at hl
  rcases List.mem_append.mp hl with hl | hl
  · rcases List.mem_append.mp hl with hl | hl
    · exact (by decide : ∀ l ∈ [networkLine, vlansLine], '\n' ∉ l) l hl
    · exact hOwn l hl
  · split at hl
    · exact absurd hl List.not_mem_nil
    · rcases List.mem_cons.mp hl with rfl | hl
      · decide
      · obtain ⟨route, hMem, hl⟩ := List.mem_flatMap.mp hl
        exact hRoute route hMem l hl

/-- **Reading a netplan text gives back the request** it was built from. -/
theorem readNetplan_netplanText {params : QJsonObject} {v : NetplanVlan} (h : Describes params v)
    (hFits : ∀ route ∈ v.routes, route.Fits) (hPercent : v.Free '%') (hBreak : v.Free '\n') :
    readNetplan (netplanText params) = some v := by
  have hLines := splitOnChar_lines (NetplanVlan.lines_free hBreak) []
  rw [List.append_nil] at hLines
  rw [readNetplan, netplanText_eq h hFits hPercent, unlines, hLines]
  exact readNetplanLines_lines v

end VxlanMtd
