import VxlanMtd.Model.Group
import VxlanMtd.Lib.Text

/-!
# The texts of addresses

`networkText` and `macText` as plain concatenations, and what follows from
that: different octets give different texts (`networkText_inj`,
`macText_inj`).

The third octet is never checked against a range, so nothing here assumes that
it fits a byte.
-/

namespace VxlanMtd

open PlaceMarker

/-- No numeral contains a place marker. -/
theorem percent_notMem_repr (x : Int) : '%' ∉ x.repr.toList :=
  Text.notMem_repr (by decide) (by decide)

-- ---------------------------------------------------------------------------
-- IP addresses
-- ---------------------------------------------------------------------------

/-- The template of an IP address, cut at its markers. -/
def networkParts : Template := ⟨"100.100.".toList, [(1, ['.']), (2, [])]⟩

/-- The template filled in: two fixed octets and two given ones. -/
theorem networkParts_render (value : Nat → List Char) :
    networkParts.render value = String.ofList ("100.100.".toList ++ value 1 ++ '.' :: value 2) := by
  unfold networkParts Template.render
  simp only [List.flatMap_cons, List.flatMap_nil, List.append_nil, List.append_assoc,
    List.singleton_append]

/-- The text of an address, for any octets. -/
theorem networkText_eq (octet3 octet4 : Int) :
    networkText octet3 octet4 =
      String.ofList ("100.100.".toList ++ octet3.repr.toList ++ '.' :: octet4.repr.toList) := by
  have hText : networkTemplate = networkParts.text := by decide +kernel
  have hNum : networkParts.NumberedFrom 0 2 := by decide +kernel
  have hPercent : ∀ v ∈ [toString octet3, toString octet4], '%' ∉ v.toList := by
    intro v hv
    simp only [List.mem_cons, List.not_mem_nil, or_false] at hv
    rcases hv with rfl | rfl <;> exact percent_notMem_repr _
  have hFill := foldl_arg_text (by decide +kernel) hNum hPercent
  rw [← hText, List.foldl_cons, List.foldl_cons, List.foldl_nil] at hFill
  unfold networkText
  rw [hFill]
  exact networkParts_render _

/-- **Addresses differ as their octets do**, also beyond 255. -/
theorem networkText_inj {a b c d : Int} (h : networkText a b = networkText c d) :
    a = c ∧ b = d := by
  rw [networkText_eq, networkText_eq, String.ofList_inj, List.append_assoc,
    List.append_assoc] at h
  have hOctets := List.append_cancel_left h
  have hDot : ∀ x : Int, '.' ∉ x.repr.toList := fun x => Text.notMem_repr (by decide) (by decide)
  obtain ⟨h₃, -, h₄⟩ := (List.append_cons_inj_of_notMem (hDot a) (hDot b)).mp hOctets
  exact ⟨Text.repr_inj h₃, Text.repr_inj h₄⟩

-- ---------------------------------------------------------------------------
-- MAC addresses
-- ---------------------------------------------------------------------------

/-- The hexadecimal digits of an octet. -/
def hexDigits (octet : Int) : List Char :=
  (Nat.toDigits 16 (octet % 2 ^ 64).toNat).leftpad 2 '0'

/-- The digits read back: the octet as an unsigned number of 64 bits. -/
theorem hexValue_hexDigits (octet : Int) :
    Text.hexValue (hexDigits octet) = (octet % 2 ^ 64).toNat := by
  rw [hexDigits, Text.hexValue_leftpad, Text.hexValue_toDigits]

/-- The digits are hexadecimal, in lower case. -/
theorem mem_hexDigits {octet : Int} {c : Char} (h : c ∈ hexDigits octet) :
    ∃ d < 16, c = d.digitChar := by
  rw [hexDigits, List.leftpad, List.mem_append] at h
  rcases h with h | h
  · exact ⟨0, by decide, List.eq_of_mem_replicate h⟩
  · exact Text.mem_toDigits h

/-- Nothing else is among the digits. -/
theorem notMem_hexDigits {c : Char} (hc : ∀ d < 16, c ≠ d.digitChar) (octet : Int) :
    c ∉ hexDigits octet := by
  intro h
  obtain ⟨d, hd, hEq⟩ := mem_hexDigits h
  exact hc d hd hEq

/-- An octet that is filled in: its digits, at least two. -/
theorem hexText_eq (octet : Int) : hexText octet = String.ofList (hexDigits octet) := by
  have hOk : (⟨[], [(1, [])]⟩ : Template).Ok := by decide +kernel
  have hText : "%1" = (⟨[], [(1, [])]⟩ : Template).text := by decide +kernel
  unfold hexText
  rw [hText, @arg_text _ hOk 1 rfl]
  simp [Template.subst, substTail, Template.text, tailChars, hexDigits]

/-- The template of a MAC address, cut at its markers. -/
def macParts : Template := ⟨"aa:bb:cc:dd:".toList, [(1, [':']), (2, [])]⟩

/-- The template filled in: four fixed octets and two given ones. -/
theorem macParts_render (value : Nat → List Char) :
    macParts.render value = String.ofList ("aa:bb:cc:dd:".toList ++ value 1 ++ ':' :: value 2) := by
  unfold macParts Template.render
  simp only [List.flatMap_cons, List.flatMap_nil, List.append_nil, List.append_assoc,
    List.singleton_append]

/-- The text of a MAC address, for any octets. -/
theorem macText_eq (octet3 octet4 : Int) :
    macText octet3 octet4 =
      String.ofList ("aa:bb:cc:dd:".toList ++ hexDigits octet3 ++ ':' :: hexDigits octet4) := by
  have hText : macTemplate = macParts.text := by decide +kernel
  have hNum : macParts.NumberedFrom 0 2 := by decide +kernel
  have hPercent : ∀ v ∈ [hexText octet3, hexText octet4], '%' ∉ v.toList := by
    have hDigits : ∀ octet, '%' ∉ (hexText octet).toList := by
      intro octet
      rw [hexText_eq, String.toList_ofList]
      exact notMem_hexDigits (by decide) octet
    intro v hv
    simp only [List.mem_cons, List.not_mem_nil, or_false] at hv
    rcases hv with rfl | rfl <;> exact hDigits _
  have hFill := foldl_arg_text (by decide +kernel) hNum hPercent
  rw [← hText, List.foldl_cons, List.foldl_cons, List.foldl_nil] at hFill
  unfold macText
  rw [hFill, macParts_render]
  have hToList : ∀ octet, (hexText octet).toList = hexDigits octet := fun octet => by
    rw [hexText_eq, String.toList_ofList]
  rw [← hToList octet3, ← hToList octet4]
  rfl

/-- Within the range of an `int`, an octet can be read off its digits. -/
theorem hexDigits_inj {a b : Int} (ha : IsInt a) (hb : IsInt b)
    (h : hexDigits a = hexDigits b) : a = b := by
  have hValue := congrArg Text.hexValue h
  rw [hexValue_hexDigits, hexValue_hexDigits] at hValue
  unfold IsInt at ha hb
  omega

/-- **MAC addresses differ as their octets do**, for octets that are `int`s. -/
theorem macText_inj {a b c d : Int} (ha : IsInt a) (hb : IsInt b) (hc : IsInt c) (hd : IsInt d)
    (h : macText a b = macText c d) : a = c ∧ b = d := by
  rw [macText_eq, macText_eq, String.ofList_inj, List.append_assoc, List.append_assoc] at h
  have hOctets := List.append_cancel_left h
  have hColon : ∀ x : Int, ':' ∉ hexDigits x := notMem_hexDigits (by decide)
  obtain ⟨h₃, -, h₄⟩ := (List.append_cons_inj_of_notMem (hColon a) (hColon b)).mp hOctets
  exact ⟨hexDigits_inj ha hc h₃, hexDigits_inj hb hd h₄⟩

end VxlanMtd
