import Mathlib.Data.List.Forall2

/-!
# Names up to the case of their letters

Two names are the same name if they differ only in the case of ASCII letters; other letters have no
case here. `SameName` says so position by position, and `LowerCaseOf` singles out the spelling
without capitals. Neither of them lowers anything: that lowering every character decides both of
them is what is proved (`sameName_iff`, `lowerCaseOf_iff`).
-/

namespace TemplateServer.Text

/-- The capitals of ASCII. -/
def IsCapital (c : Char) : Prop := 0x41 ≤ c.toNat ∧ c.toNat ≤ 0x5A

/-- The same character, up to the case of an ASCII letter. -/
inductive Alike : Char → Char → Prop
  | same (c : Char) : Alike c c
  | lowered {c d : Char} (hc : IsCapital c) (h : d.toNat = c.toNat + 32) : Alike c d
  | raised {c d : Char} (hd : IsCapital d) (h : c.toNat = d.toNat + 32) : Alike c d

/-- The same name, up to the case of ASCII letters. -/
def SameName (name other : String) : Prop := List.Forall₂ Alike name.toList other.toList

/-- `key` is the name in small letters. -/
def LowerCaseOf (name key : String) : Prop :=
  SameName name key ∧ ∀ c ∈ key.toList, ¬ IsCapital c

variable {c d : Char} {name other key : String}

/-! ## Characters -/

theorem toNat_toLower (hc : IsCapital c) : c.toLower.toNat = c.toNat + 32 := by
  have hcapital : c.val ≥ 'A'.val ∧ c.val ≤ 'Z'.val := by
    rw [ge_iff_le, UInt32.le_iff_toNat_le, UInt32.le_iff_toNat_le]
    exact hc
  have hhigh : c.val.toNat ≤ 0x5A := hc.2
  unfold Char.toLower
  rw [dif_pos hcapital]
  show (c.val.toNat + 32) % 2 ^ 32 = c.val.toNat + 32
  omega

theorem toLower_of_not_isCapital (hc : ¬ IsCapital c) : c.toLower = c := by
  unfold Char.toLower
  refine dif_neg fun hcapital => hc ?_
  rw [ge_iff_le, UInt32.le_iff_toNat_le, UInt32.le_iff_toNat_le] at hcapital
  exact hcapital

theorem not_isCapital_toLower (c : Char) : ¬ IsCapital c.toLower := by
  by_cases hc : IsCapital c
  · have hnat := toNat_toLower hc
    obtain ⟨hlow, -⟩ := hc
    rintro ⟨-, hhigh⟩
    omega
  · rw [toLower_of_not_isCapital hc]
    exact hc

/-- A capital is lowered to its small letter, and the small letter stays. -/
theorem toLower_eq_of_lowered (hc : IsCapital c) (h : d.toNat = c.toNat + 32) :
    c.toLower = d.toLower := by
  have hd : ¬ IsCapital d := by
    obtain ⟨hlow, -⟩ := hc
    rintro ⟨-, hhigh⟩
    omega
  rw [toLower_of_not_isCapital hd, ← Char.toNat_inj, toNat_toLower hc, h]

/-- Characters are alike that are lowered to the same character. -/
theorem alike_iff : Alike c d ↔ c.toLower = d.toLower := by
  constructor
  · intro h
    cases h with
    | same => rfl
    | lowered hc h => exact toLower_eq_of_lowered hc h
    | raised hd h => exact (toLower_eq_of_lowered hd h).symm
  · intro h
    by_cases hc : IsCapital c
    · by_cases hd : IsCapital d
      · have hnat : c.toNat + 32 = d.toNat + 32 := by
          rw [← toNat_toLower hc, ← toNat_toLower hd, h]
        obtain rfl : c = d := Char.toNat_inj.mp (Nat.add_right_cancel hnat)
        exact .same c
      · rw [toLower_of_not_isCapital hd] at h
        exact .lowered hc (by rw [← h, toNat_toLower hc])
    · rw [toLower_of_not_isCapital hc] at h
      by_cases hd : IsCapital d
      · exact .raised hd (by rw [h, toNat_toLower hd])
      · rw [toLower_of_not_isCapital hd] at h
        exact h ▸ .same c

/-! ## Names -/

theorem sameName_iff_toList :
    SameName name other ↔ name.toList.map Char.toLower = other.toList.map Char.toLower := by
  have halike : Alike = fun c d => c.toLower = d.toLower :=
    funext fun c => funext fun d => propext alike_iff
  unfold SameName
  rw [halike, ← List.forall₂_eq_eq_eq, List.forall₂_map_left_iff, List.forall₂_map_right_iff]

/-- Names are the same that are lowered to the same name. -/
theorem sameName_iff : SameName name other ↔ name.map Char.toLower = other.map Char.toLower := by
  rw [sameName_iff_toList, ← String.toList_map, ← String.toList_map, String.toList_inj]

/-- A name without capitals stays as it is. -/
theorem map_toLower_of_not_isCapital (h : ∀ c ∈ name.toList, ¬ IsCapital c) :
    name.map Char.toLower = name := by
  rw [← String.toList_inj, String.toList_map]
  exact (List.map_congr_left fun c hc => toLower_of_not_isCapital (h c hc)).trans (List.map_id' _)

/-- The name in small letters is the lowered name. -/
theorem lowerCaseOf_iff : LowerCaseOf name key ↔ key = name.map Char.toLower := by
  have hsmall : ∀ c ∈ (name.map Char.toLower).toList, ¬ IsCapital c := by
    intro c hc
    rw [String.toList_map] at hc
    obtain ⟨d, -, rfl⟩ := List.mem_map.mp hc
    exact not_isCapital_toLower d
  constructor
  · rintro ⟨hsame, hkey⟩
    rw [sameName_iff.mp hsame, map_toLower_of_not_isCapital hkey]
  · rintro rfl
    exact ⟨sameName_iff.mpr (map_toLower_of_not_isCapital hsmall).symm, hsmall⟩

instance : Decidable (SameName name other) := decidable_of_iff _ sameName_iff_toList.symm

instance : Decidable (LowerCaseOf name key) := decidable_of_iff _ lowerCaseOf_iff.symm

end TemplateServer.Text
