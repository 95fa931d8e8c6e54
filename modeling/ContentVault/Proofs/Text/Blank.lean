import ContentVault.Text.Blank
import Mathlib.Data.List.DropRight

/-!
# Trimmed texts

* trimming leaves no blank at either end, so trimming again changes nothing;
* a text is what is left of it after trimming, between blanks, and trimming gives a trimmed
  text back that has got blanks around it;
* a text is tidy if it is not empty and trimming leaves it as it is; what is left of a
  text after trimming is tidy or empty.
-/

namespace ContentVault

theorem trimEndChars_eq_rdropWhile (characters : List Char) :
    trimEndChars characters = characters.rdropWhile isBlank :=
  rfl

theorem trimChars_sublist (characters : List Char) :
    List.Sublist (trimChars characters) characters := by
  rw [trimChars, trimEndChars_eq_rdropWhile]
  exact (List.rdropWhile_prefix isBlank _).sublist.trans
    (List.dropWhile_suffix isBlank).sublist

/-- No blank comes to the front when blanks are dropped from the end. -/
theorem trimStartChars_trimChars (characters : List Char) :
    trimStartChars (trimChars characters) = trimChars characters := by
  rw [trimChars, trimEndChars_eq_rdropWhile, trimStartChars, trimStartChars,
    List.dropWhile_eq_self_iff]
  intro nonempty
  have isPrefix := List.rdropWhile_prefix isBlank (l := characters.dropWhile isBlank)
  have started : 0 < (characters.dropWhile isBlank).length :=
    Nat.lt_of_lt_of_le nonempty isPrefix.length_le
  rw [isPrefix.getElem nonempty]
  exact List.dropWhile_get_zero_not isBlank characters started

theorem trimChars_trimChars (characters : List Char) :
    trimChars (trimChars characters) = trimChars characters := by
  have again :
      trimEndChars (trimEndChars (trimStartChars characters)) =
        trimEndChars (trimStartChars characters) :=
    List.rdropWhile_idempotent isBlank _
  calc trimChars (trimChars characters)
    _ = trimEndChars (trimStartChars (trimChars characters)) := rfl
    _ = trimEndChars (trimChars characters) := by rw [trimStartChars_trimChars]
    _ = trimChars characters := again

theorem trim_ofList_trimChars (characters : List Char) :
    trim (String.ofList (trimChars characters)) = String.ofList (trimChars characters) := by
  rw [trim, String.toList_ofList, trimChars_trimChars]

theorem trim_trim (text : String) : trim (trim text) = trim text :=
  trim_ofList_trimChars text.toList

section Padding
variable {before after characters : List Char}

theorem trimStartChars_append (blank : ∀ character ∈ before, isBlank character = true) :
    trimStartChars (before ++ characters) = trimStartChars characters := by
  rw [trimStartChars, trimStartChars, List.dropWhile_append_of_pos blank]

theorem trimEndChars_append (blank : ∀ character ∈ after, isBlank character = true) :
    trimEndChars (characters ++ after) = trimEndChars characters := by
  rw [trimEndChars, List.reverse_append, trimStartChars_append (by simpa using blank),
    trimEndChars]

/-- What starts without a blank is left alone, whatever follows. -/
theorem trimStartChars_append_of_trimmed (nonempty : characters ≠ [])
    (trimmed : trimStartChars characters = characters) :
    trimStartChars (characters ++ after) = characters ++ after := by
  cases characters with
  | nil => exact absurd rfl nonempty
  | cons first rest =>
      have unblank : ¬ isBlank first = true := by
        intro blank
        have shorter := List.length_dropWhile_le isBlank rest
        rw [trimStartChars, List.dropWhile_cons_of_pos blank] at trimmed
        rw [trimmed, List.length_cons] at shorter
        omega
      rw [trimStartChars, List.cons_append, List.dropWhile_cons_of_neg unblank]

/-- Trimming takes the blanks around a trimmed text away, and no more. -/
theorem trimChars_padded (blankBefore : ∀ character ∈ before, isBlank character = true)
    (blankAfter : ∀ character ∈ after, isBlank character = true) (nonempty : characters ≠ [])
    (trimmed : trimChars characters = characters) :
    trimChars (before ++ characters ++ after) = characters := by
  have started : trimStartChars characters = characters := by
    rw [← trimmed, trimStartChars_trimChars]
  calc trimChars (before ++ characters ++ after)
    _ = trimEndChars (trimStartChars (characters ++ after)) := by
      rw [trimChars, List.append_assoc, trimStartChars_append blankBefore]
    _ = trimEndChars characters := by
      rw [trimStartChars_append_of_trimmed nonempty started, trimEndChars_append blankAfter]
    _ = trimChars characters := by rw [trimChars, started]
    _ = characters := trimmed

end Padding

/-- A text that is not empty and has no blank at either end. -/
def IsTidy (text : String) : Prop := text ≠ "" ∧ trim text = text

instance (text : String) : Decidable (IsTidy text) :=
  inferInstanceAs (Decidable (text ≠ "" ∧ trim text = text))

theorem nonBlank?_eq_some {text given : String} :
    nonBlank? text = some given ↔ trim text = given ∧ given ≠ "" := by
  unfold nonBlank?
  dsimp only
  by_cases blank : trim text = ""
  · rw [if_pos blank, blank]
    constructor
    · intro same
      cases same
    · rintro ⟨rfl, notEmpty⟩
      exact absurd rfl notEmpty
  · rw [if_neg blank, Option.some.injEq]
    constructor
    · rintro rfl
      exact ⟨rfl, blank⟩
    · exact And.left

/-- A text names what is left of it after trimming, if anything is. -/
theorem forall_nonBlank? (text : String) (holds : String → Prop) :
    (∀ given, nonBlank? text = some given → holds given) ↔
      (trim text ≠ "" → holds (trim text)) := by
  simp only [nonBlank?_eq_some]
  constructor
  · exact fun named notBlank => named (trim text) ⟨rfl, notBlank⟩
  · rintro named given ⟨rfl, notBlank⟩
    exact named notBlank

/-- What a text names is tidy. -/
theorem isTidy_of_nonBlank? {text given : String} (named : nonBlank? text = some given) :
    IsTidy given := by
  obtain ⟨rfl, notEmpty⟩ := nonBlank?_eq_some.1 named
  exact ⟨notEmpty, trim_trim text⟩

/-- A text is another one between blanks. -/
def IsPadded (core padded : String) : Prop :=
  ∃ before after, (∀ character ∈ before ++ after, isBlank character = true) ∧
    padded.toList = before ++ core.toList ++ after

theorem trim_of_isPadded {core padded : String} (tidy : IsTidy core)
    (isPadded : IsPadded core padded) :
    trim padded = core := by
  obtain ⟨before, after, blank, spelled⟩ := isPadded
  have nonempty : core.toList ≠ [] := by simpa using tidy.1
  have trimmed : trimChars core.toList = core.toList := by
    simpa [trim] using congrArg String.toList tidy.2
  rw [trim, spelled, trimChars_padded (fun _ member => blank _ (List.mem_append_left _ member))
    (fun _ member => blank _ (List.mem_append_right _ member)) nonempty trimmed,
    String.ofList_toList]

theorem isPadded_trim (text : String) : IsPadded (trim text) text := by
  refine ⟨text.toList.takeWhile isBlank,
    (text.toList.dropWhile isBlank).rtakeWhile isBlank, ?_, ?_⟩
  · intro character member
    rcases List.mem_append.1 member with atStart | atEnd
    · exact List.mem_takeWhile_imp atStart
    · exact List.mem_rtakeWhile_imp atEnd
  · rw [trim, String.toList_ofList, trimChars, trimEndChars_eq_rdropWhile, trimStartChars,
      List.append_assoc, List.rdropWhile_append_rtakeWhile, List.takeWhile_append_dropWhile]

end ContentVault
