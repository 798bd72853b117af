import Mathlib.Data.List.DropRight
import Mathlib.Tactic

/-!
# Blanks and capitals

Two functions of the language on texts. A text that has been trimmed and put into capitals is left
alone by both.

## Main definitions

* `isWhitespace`: the blanks, with those beyond ASCII
* `trim`, `trimBlanks`: a text without blanks at its ends
* `toUpperCase`: the letters of ASCII in capitals

## Main results

* `toUpperCase_trim_idem`
-/

namespace Deliivo

/-- `\s`, and what `trim` removes. -/
def isWhitespace (c : Char) : Bool :=
  (9 ≤ c.toNat && c.toNat ≤ 13) || (0x2000 ≤ c.toNat && c.toNat ≤ 0x200a) ||
    [0x20, 0xa0, 0x1680, 0x2028, 0x2029, 0x202f, 0x205f, 0x3000, 0xfeff].contains c.toNat

/-- `trim`, on the characters of a text. -/
def trimBlanks (text : List Char) : List Char :=
  ((text.dropWhile isWhitespace).reverse.dropWhile isWhitespace).reverse

/-- `trim`. -/
def trim (s : String) : String := .ofList (trimBlanks s.toList)

/-- `toUpperCase`, of the letters of ASCII: the language has capitals for other letters too, which are
left as they are here. -/
def toUpperCase (s : String) : String := .ofList (s.toList.map Char.toUpper)

/-! ## Capitals -/

/-- What a lower case letter becomes is a capital. -/
theorem toNat_toUpper (c : Char) : c.toUpper = c ∨
    (97 ≤ c.toNat ∧ c.toNat ≤ 122) ∧ 65 ≤ c.toUpper.toNat ∧ c.toUpper.toNat < 97 := by
  unfold Char.toUpper
  split_ifs with h
  · refine Or.inr ?_
    rw [UInt32.le_iff_toNat_le, UInt32.le_iff_toNat_le] at h
    have hval : (c.val + ('A'.val - 'a'.val)).toNat = c.toNat - 32 := by
      rw [UInt32.toNat_add]
      simp at h ⊢
      grind
    have hbounds : 97 ≤ c.toNat ∧ c.toNat ≤ 122 := by simpa using h
    refine ⟨hbounds, ?_, ?_⟩
    · change 65 ≤ (c.val + ('A'.val - 'a'.val)).toNat
      omega
    · change (c.val + ('A'.val - 'a'.val)).toNat < 97
      omega
  · exact Or.inl rfl

theorem toUpper_toUpper (c : Char) : c.toUpper.toUpper = c.toUpper := by
  rcases toNat_toUpper c.toUpper with h | ⟨⟨hlow, -⟩, -⟩
  · exact h
  · rcases toNat_toUpper c with h | ⟨-, -, hup⟩
    · rw [h, h]
    · omega

/-- A text in capitals is left alone. -/
theorem toUpperCase_toUpperCase (s : String) : toUpperCase (toUpperCase s) = toUpperCase s := by
  rw [toUpperCase, toUpperCase, String.toList_ofList, List.map_map]
  exact congrArg _ <| List.map_congr_left fun c _ => toUpper_toUpper c

/-! ## Blanks -/

/-- Letters of ASCII are no blanks. -/
theorem isWhitespace_eq_false {c : Char} (hlow : 65 ≤ c.toNat) (hup : c.toNat ≤ 122) :
    isWhitespace c = false := by
  simp only [isWhitespace, Bool.or_eq_false_iff, Bool.and_eq_false_iff, decide_eq_false_iff_not,
    List.contains_eq_mem, List.mem_cons, List.not_mem_nil, or_false]
  omega

theorem isWhitespace_toUpper (c : Char) : isWhitespace c.toUpper = isWhitespace c := by
  rcases toNat_toUpper c with h | ⟨⟨hlow, hhigh⟩, hup, hcapital⟩
  · rw [h]
  · rw [isWhitespace_eq_false hup (by omega), isWhitespace_eq_false (by omega) hhigh]

theorem trimBlanks_eq (text : List Char) :
    trimBlanks text = (text.dropWhile isWhitespace).rdropWhile isWhitespace := rfl

/-- A text that starts and ends with no blank is left alone. -/
theorem trimBlanks_eq_self {text : List Char} (hfirst : text.dropWhile isWhitespace = text)
    (hlast : text.rdropWhile isWhitespace = text) : trimBlanks text = text := by
  rw [trimBlanks_eq, hfirst, hlast]

/-- What has been trimmed does, also once it is in capitals. -/
theorem trimBlanks_map_toUpper (text : List Char) :
    trimBlanks ((trimBlanks text).map Char.toUpper) = (trimBlanks text).map Char.toUpper := by
  set l := text.dropWhile isWhitespace with hl
  have hprefix : l.rdropWhile isWhitespace <+: l := List.rdropWhile_prefix isWhitespace _
  apply trimBlanks_eq_self
  · rw [List.dropWhile_eq_self_iff]
    intro hlen
    have hlen' : 0 < (l.rdropWhile isWhitespace).length := by
      rwa [List.length_map, trimBlanks_eq] at hlen
    have hpos : 0 < l.length := hlen'.trans_le hprefix.length_le
    have hhead : (l.rdropWhile isWhitespace)[0] = l[0] := hprefix.getElem hlen'
    simp only [List.getElem_map, isWhitespace_toUpper, trimBlanks_eq, ← hl, hhead]
    exact List.dropWhile_get_zero_not isWhitespace text hpos
  · rw [List.rdropWhile_eq_self_iff]
    intro hne
    have hne' : l.rdropWhile isWhitespace ≠ [] := fun h => hne (by rw [trimBlanks_eq, ← hl, h]; rfl)
    simp only [List.getLast_map, isWhitespace_toUpper]
    exact List.rdropWhile_last_not isWhitespace l hne'

/-- **A text that has been trimmed and put into capitals** is left alone by both. -/
theorem toUpperCase_trim_idem (s : String) :
    toUpperCase (trim (toUpperCase (trim s))) = toUpperCase (trim s) := by
  have hval : toUpperCase (trim s) = .ofList ((trimBlanks s.toList).map Char.toUpper) := by
    rw [toUpperCase, trim, String.toList_ofList]
  have htrim : trim (toUpperCase (trim s)) = toUpperCase (trim s) := by
    rw [hval, trim, String.toList_ofList, trimBlanks_map_toUpper]
  rw [htrim, toUpperCase_toUpperCase]

end Deliivo
