import ContentVault.Proofs.Text.Blank
import ContentVault.Text.Lowercase
import Mathlib.Data.List.Forall2

/-!
# Letters in either case

* two characters have one lowercase form if one of them stands for the other: an ASCII letter
  does so in either case, and every other character only for itself;
* a text spells a word if it is the word between blanks, in letters of either case;
* that is what the lowercase form of the trimmed text tells.
-/

namespace ContentVault

/-- Whether a character of a name may be read for one of a filter: an ASCII letter in
either case, and every other character only for itself. -/
def StandsFor (wanted found : Char) : Prop :=
  found = wanted ∨ wanted.isAlpha = true ∧ (found = wanted.toLower ∨ found = wanted.toUpper)

instance (wanted found : Char) : Decidable (StandsFor wanted found) :=
  inferInstanceAs (Decidable (_ ∨ _))

theorem toNat_toLower (character : Char) :
    character.toLower.toNat =
      if 65 ≤ character.toNat ∧ character.toNat ≤ 90 then character.toNat + 32
      else character.toNat := by
  unfold Char.toLower
  split
  · rename_i capital
    have bounds : 65 ≤ character.toNat ∧ character.toNat ≤ 90 := capital
    rw [if_pos bounds]
    change (character.val + 32).toNat = character.val.toNat + 32
    have small : character.val.toNat ≤ 90 := bounds.2
    rw [UInt32.toNat_add]
    change (character.val.toNat + 32) % 2 ^ 32 = _
    omega
  · rename_i other
    exact (if_neg other).symm

theorem toNat_toUpper (character : Char) :
    character.toUpper.toNat =
      if 97 ≤ character.toNat ∧ character.toNat ≤ 122 then character.toNat - 32
      else character.toNat := by
  unfold Char.toUpper
  split
  · rename_i small
    have bounds : 97 ≤ character.toNat ∧ character.toNat ≤ 122 := small
    rw [if_pos bounds]
    change (character.val + (65 - 97)).toNat = character.val.toNat - 32
    have bounds' : 97 ≤ character.val.toNat ∧ character.val.toNat ≤ 122 := bounds
    rw [UInt32.toNat_add]
    change (character.val.toNat + 4294967264) % 2 ^ 32 = _
    omega
  · rename_i other
    exact (if_neg other).symm

theorem isAlpha_iff {character : Char} :
    character.isAlpha = true ↔
      (65 ≤ character.toNat ∧ character.toNat ≤ 90) ∨
        (97 ≤ character.toNat ∧ character.toNat ≤ 122) := by
  delta Char.isAlpha Char.isUpper Char.isLower
  rw [Bool.or_eq_true, Bool.and_eq_true, decide_eq_true_eq, decide_eq_true_eq, decide_eq_true_eq]
  exact Iff.rfl

theorem toLower_eq_toLower_iff {wanted found : Char} :
    wanted.toLower = found.toLower ↔ StandsFor wanted found := by
  have numbers : ∀ first second : Char, first = second ↔ first.toNat = second.toNat :=
    fun first second => Char.toNat_inj.symm
  rw [StandsFor, isAlpha_iff, numbers, numbers, numbers, numbers, toNat_toLower, toNat_toLower,
    toNat_toUpper]
  split_ifs <;> omega

theorem forall₂_standsFor_iff {wanted found : List Char} :
    List.Forall₂ StandsFor wanted found ↔ wanted.map Char.toLower = found.map Char.toLower := by
  rw [← List.forall₂_eq_eq_eq, List.forall₂_map_left_iff, List.forall₂_map_right_iff]
  simp only [toLower_eq_toLower_iff]

/-! ## Words -/

theorem isBlank_toLower (character : Char) : isBlank character.toLower = isBlank character := by
  unfold isBlank
  rw [toNat_toLower]
  split <;> grind

theorem trimChars_map_toLower (characters : List Char) :
    trimChars (characters.map Char.toLower) = (trimChars characters).map Char.toLower := by
  have sameBlank : isBlank ∘ Char.toLower = isBlank := funext isBlank_toLower
  simp only [trimChars, trimEndChars, trimStartChars, ← List.map_reverse, List.dropWhile_map,
    sameBlank]

/-- A text spells a word: its letters, in either case, stand between blanks. -/
def Spells (text word : String) : Prop :=
  ∃ written, IsPadded written text ∧ List.Forall₂ StandsFor word.toList written.toList

/-- A text spells a tidy word in lowercase if nothing else is left of it after trimming. -/
theorem asciiLowercase_trim_eq_iff {text word : String} (tidy : IsTidy word)
    (lowercase : asciiLowercase word = word) :
    asciiLowercase (trim text) = word ↔ Spells text word := by
  have small : word.toList.map Char.toLower = word.toList := by
    simpa [asciiLowercase] using congrArg String.toList lowercase
  constructor
  · intro same
    refine ⟨trim text, isPadded_trim text, forall₂_standsFor_iff.2 ?_⟩
    rw [small, ← same, asciiLowercase, String.toList_ofList]
  · rintro ⟨written, isPadded, stands⟩
    have sameLetters := forall₂_standsFor_iff.1 stands
    rw [small] at sameLetters
    have trimmed : trimChars written.toList = written.toList := by
      -- Lowercase leaves blanks alone, so one at an end would be one of the word.
      have sameRest : (trimChars written.toList).map Char.toLower =
          written.toList.map Char.toLower := by
        rw [← trimChars_map_toLower, ← sameLetters]
        simpa [trim] using congrArg String.toList tidy.2
      have sameLength := congrArg List.length sameRest
      rw [List.length_map, List.length_map] at sameLength
      exact (trimChars_sublist written.toList).eq_of_length sameLength
    have notEmpty : written ≠ "" := by
      rintro rfl
      exact tidy.1 (String.toList_inj.1 sameLetters)
    have isTidy : IsTidy written := ⟨notEmpty, by rw [trim, trimmed, String.ofList_toList]⟩
    rw [trim_of_isPadded isTidy isPadded, asciiLowercase, ← sameLetters, String.ofList_toList]

end ContentVault
