import ContentVault.Proofs.BlobKey
import ContentVault.Proofs.Catalog.Tagging

/-!
# Names between commas

* the names that a text lists are tidy and hold no comma;
* they are the trimmed pieces between the commas, in the order of first mention;
* such names, joined with commas and blanks, are listed again as they are.
-/

namespace ContentVault

/-- A text that can be the name of a tag: a tidy one without a comma. -/
def IsTagName (name : String) : Prop := IsTidy name ∧ ',' ∉ name.toList

instance (name : String) : Decidable (IsTagName name) :=
  inferInstanceAs (Decidable (IsTidy name ∧ ',' ∉ name.toList))

/-- The names that a text lists can be names of tags. -/
theorem isTagName_of_mem_parseTags {text name : String} (listed : name ∈ parseTags text) :
    IsTagName name := by
  refine ⟨isTidy_of_mem_parseTags listed, ?_⟩
  rcases mem_firstMentions.1 listed with isKept | isNamed
  · cases isKept
  obtain ⟨characters, named, rfl⟩ := List.mem_map.1 isNamed
  obtain ⟨piece, isPiece, rfl⟩ := List.mem_map.1 (List.mem_of_mem_filter named)
  rw [String.toList_ofList]
  exact fun comma =>
    separator_not_mem_pieces ',' text.toList piece isPiece ((trimChars_sublist piece).subset comma)

theorem intercalate_eq_joinPieces {α : Type} (separator : α) (cut : List (List α)) :
    [separator].intercalate cut = joinPieces separator cut := by
  induction cut with
  | nil =>
      rfl
  | cons first rest inductionHypothesis =>
      cases rest with
      | nil =>
          rw [List.intercalate_singleton]
          exact (List.append_nil first).symm
      | cons second others =>
          rw [List.intercalate_cons_cons, inductionHypothesis]
          simp [joinPieces]

/-! ## Pieces between commas -/

/-- A text is cut at its commas. -/
def IsCutAtCommas (cut : List String) (text : String) : Prop :=
  cut ≠ [] ∧ (∀ piece ∈ cut, ',' ∉ piece.toList) ∧ ",".intercalate cut = text

theorem pieces_intercalate {cut : List String} (nonempty : cut ≠ [])
    (unbroken : ∀ piece ∈ cut, ',' ∉ piece.toList) :
    pieces ',' (",".intercalate cut).toList = cut.map String.toList := by
  rw [String.toList_intercalate]
  change pieces ',' ([','].intercalate _) = _
  rw [intercalate_eq_joinPieces]
  refine pieces_joinPieces (by simpa using nonempty) fun piece isPiece => ?_
  obtain ⟨part, isPart, rfl⟩ := List.mem_map.1 isPiece
  exact unbroken part isPart

/-- There is one way to cut a text at its commas. -/
theorem isCutAtCommas_iff {cut : List String} {text : String} :
    IsCutAtCommas cut text ↔ cut = (pieces ',' text.toList).map String.ofList := by
  constructor
  · rintro ⟨nonempty, unbroken, rfl⟩
    rw [pieces_intercalate nonempty unbroken, List.map_map]
    simp
  · rintro rfl
    refine ⟨by simpa using pieces_ne_nil ',' text.toList, ?_, ?_⟩
    · intro piece isPiece
      obtain ⟨characters, isCharacters, rfl⟩ := List.mem_map.1 isPiece
      rw [String.toList_ofList]
      exact separator_not_mem_pieces ',' text.toList characters isCharacters
    · rw [← String.toList_inj, String.toList_intercalate, List.map_map]
      change [','].intercalate _ = _
      rw [intercalate_eq_joinPieces]
      simp [Function.comp_def, joinPieces_pieces]

/-- The names are the first mentions among the trimmed pieces that are not empty. -/
theorem parseTags_of_cut {cut : List String} {text : String} (isCut : IsCutAtCommas cut text) :
    parseTags text = firstMentions [] ((cut.map trim).filter fun name => decide (name ≠ "")) := by
  have trimmed : trim ∘ String.ofList = String.ofList ∘ trimChars := by
    funext characters
    rw [Function.comp_apply, Function.comp_apply, trim, String.toList_ofList]
  have nonempty : (fun name => decide (name ≠ "")) ∘ String.ofList =
      fun name : List Char => !name.isEmpty := by
    funext characters
    cases characters <;> simp
  rw [isCutAtCommas_iff.1 isCut, parseTags, ← nonempty, ← List.filter_map, List.map_map,
    List.map_map, trimmed]

theorem mem_parseTags_iff {cut : List String} {text name : String}
    (isCut : IsCutAtCommas cut text) :
    name ∈ parseTags text ↔ name ≠ "" ∧ ∃ piece ∈ cut, trim piece = name := by
  rw [parseTags_of_cut isCut, mem_firstMentions, List.mem_filter, List.mem_map,
    decide_eq_true_iff, and_comm]
  simp

theorem pairwise_idxOf_parseTags {cut : List String} {text : String}
    (isCut : IsCutAtCommas cut text) :
    (parseTags text).Pairwise fun first second =>
      (cut.map trim).idxOf first < (cut.map trim).idxOf second := by
  rw [parseTags_of_cut isCut, ← List.nil_append (cut.map trim)]
  exact pairwise_idxOf_firstMentions (by simp) List.Pairwise.nil

/-! ## Names with blanks around them -/

theorem not_mem_of_isPadded {name padded : String} (named : IsTagName name)
    (isPadded : IsPadded name padded) :
    ',' ∉ padded.toList := by
  obtain ⟨before, after, blank, spelled⟩ := isPadded
  have unblank : ¬ isBlank ',' = true := by decide
  rw [spelled, List.mem_append, List.mem_append]
  rintro ((inBefore | inName) | inAfter)
  · exact unblank (blank _ (List.mem_append_left _ inBefore))
  · exact named.2 inName
  · exact unblank (blank _ (List.mem_append_right _ inAfter))

theorem map_trim_of_padded {names padded : List String}
    (named : ∀ name ∈ names, IsTagName name) (arePadded : List.Forall₂ IsPadded names padded) :
    padded.map trim = names := by
  induction arePadded with
  | nil => rfl
  | cons isFirst _ inductionHypothesis =>
      rw [List.map_cons, trim_of_isPadded (named _ List.mem_cons_self).1 isFirst,
        inductionHypothesis fun name member => named name (List.mem_cons_of_mem _ member)]

/-- What a text of joined names lists is the names, each where it is mentioned first, whatever
blanks stand around the commas. -/
theorem parseTags_of_padded {names padded : List String} (named : ∀ name ∈ names, IsTagName name)
    (arePadded : List.Forall₂ IsPadded names padded) :
    parseTags (",".intercalate padded) = firstMentions [] names := by
  by_cases blank : padded = []
  · subst blank
    cases arePadded
    decide
  · have isCut : IsCutAtCommas padded (",".intercalate padded) := by
      refine ⟨blank, fun piece isPiece => ?_, rfl⟩
      obtain ⟨name, isName, isPadded⟩ := (mem_of_forall₂ arePadded).2 piece isPiece
      exact not_mem_of_isPadded (named name isName) isPadded
    have noneBlank : names.filter (fun name => decide (name ≠ "")) = names :=
      List.filter_eq_self.2 fun name isName => decide_eq_true (named name isName).1.1
    rw [parseTags_of_cut isCut, map_trim_of_padded named arePadded, noneBlank]

theorem parseTags_intercalate {names : List String} (named : ∀ name ∈ names, IsTagName name) :
    parseTags (",".intercalate names) = firstMentions [] names :=
  parseTags_of_padded named (List.forall₂_same.2 fun name _ => ⟨[], [], nofun, by simp⟩)

/-- The names that a text lists are distinct names of tags, and they are what is left of the
pieces between its commas after trimming, if anything is, in the order in which they are
mentioned first. Joined with commas again, with or without blanks around them, they are listed
as they are. -/
theorem parsed_tags_are_normal (text : String) :
    (parseTags text).Nodup ∧
      (∀ name ∈ parseTags text, name ≠ "" ∧ ',' ∉ name.toList ∧ trim name = name) ∧
      (∃! cut, IsCutAtCommas cut text) ∧
      (∀ cut, IsCutAtCommas cut text →
        (∀ name, name ∈ parseTags text ↔ name ≠ "" ∧ ∃ piece ∈ cut, trim piece = name) ∧
          (parseTags text).Pairwise fun first second =>
            (cut.map trim).idxOf first < (cut.map trim).idxOf second) ∧
      ∀ padded, List.Forall₂ IsPadded (parseTags text) padded →
        parseTags (",".intercalate padded) = parseTags text := by
  refine ⟨nodup_parseTags text, fun name listed => ?_, ?_, fun cut isCut => ?_,
    fun padded arePadded => ?_⟩
  · obtain ⟨⟨nonempty, trimmed⟩, unbroken⟩ := isTagName_of_mem_parseTags listed
    exact ⟨nonempty, unbroken, trimmed⟩
  · exact ⟨_, isCutAtCommas_iff.2 rfl, fun cut isCut => isCutAtCommas_iff.1 isCut⟩
  · exact ⟨fun name => mem_parseTags_iff isCut, pairwise_idxOf_parseTags isCut⟩
  · rw [parseTags_of_padded (fun _ => isTagName_of_mem_parseTags) arePadded,
      firstMentions_of_nodup (nodup_parseTags text)]

example : parseTags " rust lang,, rust ,rust lang" = ["rust lang", "rust"] := by
  decide +kernel

end ContentVault
