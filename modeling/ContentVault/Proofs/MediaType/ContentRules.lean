import ContentVault.MediaType.Signature
import Mathlib.Data.List.Forall2

/-!
# Rules that tell the media type of bytes

The order in which the rules are tried matters only for payloads with `ustar` or `ftyp` in their
places.

* a signature wants bytes in fixed places, HTML opens at the first byte that is not blank;
* any two of the other rules name the same type, or want different bytes in one place;
* a rule that bytes satisfy stays satisfied when bytes are added behind them.
-/

namespace ContentVault.MediaType

/-! ## Rules -/

/-- A byte that may be written for one of an opening: the same byte, or the capital if that is
a small letter. -/
def ByteStandsFor (wanted written : UInt8) : Prop :=
  written = wanted ∨
    ∃ place < 26, wanted = 'a'.toUInt8 + place ∧ written = 'A'.toUInt8 + place

/-- Bytes start with an opening, its letters in either case. -/
def OpensWith (opening bytes : List UInt8) : Prop :=
  ∃ written, written <+: bytes ∧ List.Forall₂ ByteStandsFor opening written

/-- A rule by which bytes tell a media type. -/
inductive ContentRule where
  | marked (signature : Signature)
  | html
  deriving DecidableEq

namespace ContentRule

def mediaType : ContentRule → String
  | marked signature => signature.mediaType
  | html => "text/html"

/-- All parts of a signature stand in their places, or HTML opens behind blanks. -/
def Matches (bytes : List UInt8) : ContentRule → Prop
  | marked signature => ∀ part ∈ signature.parts, part.magic <+: bytes.drop part.offset
  | html =>
      ∃ blanks body, bytes = blanks ++ body ∧ (∀ byte ∈ blanks, isAsciiBlank byte = true) ∧
        ∃ opening ∈ htmlOpenings, OpensWith opening body

/-- Whether the bytes of a payload satisfy a rule, as it is tried. -/
def holds (payload : ByteArray) : ContentRule → Bool
  | marked signature => signature.holds payload
  | html => startsLikeHtml payload

end ContentRule

/-- The rules in the order in which they are tried. -/
def contentRules : List ContentRule :=
  signatures.map .marked ++ [.html]

/-- The first of the rules that bytes satisfy names a media type. -/
def NamesFirst (rules : List ContentRule) (bytes : List UInt8) (mediaType : String) : Prop :=
  ∃ before rule after, rules = before ++ rule :: after ∧ rule.Matches bytes ∧
    rule.mediaType = mediaType ∧ ∀ earlier ∈ before, ¬ earlier.Matches bytes

/-! ## Bytes in their places -/

section Places

variable {payload : ByteArray} {bytes rest : List UInt8} {byte : UInt8} {position : Nat}

theorem getElem?_eq_toList (payload : ByteArray) (position : Nat) :
    payload[position]? = payload.data.toList[position]? := by
  by_cases inside : position < payload.size
  · rw [getElem?_pos payload position inside, Array.getElem?_toList,
      getElem?_pos payload.data position inside]
    rfl
  · rw [getElem?_neg payload position inside, Array.getElem?_toList,
      getElem?_neg payload.data position inside]

theorem cons_isPrefix_drop_iff :
    byte :: rest <+: bytes.drop position ↔
      bytes[position]? = some byte ∧ rest <+: bytes.drop (position + 1) := by
  by_cases inside : position < bytes.length
  · rw [List.drop_eq_getElem_cons inside, List.cons_prefix_cons,
      List.getElem?_eq_getElem inside, Option.some_inj, eq_comm]
  · have outside := Nat.le_of_not_lt inside
    simp [List.drop_eq_nil_of_le outside, List.getElem?_eq_none outside]

theorem getElem?_of_isPrefix {initial : List UInt8} (starts : initial <+: bytes)
    (found : initial[position]? = some byte) : bytes[position]? = some byte := by
  obtain ⟨rest, rfl⟩ := starts
  obtain ⟨inside, _⟩ := List.getElem?_eq_some_iff.1 found
  rw [List.getElem?_append_left inside, found]

theorem holdsAt_iff {magic : List UInt8} :
    holdsAt payload position magic = true ↔ magic <+: payload.data.toList.drop position := by
  induction magic generalizing position with
  | nil => simp [holdsAt]
  | cons byte rest inductionHypothesis =>
      rw [holdsAt, Bool.and_eq_true, beq_iff_eq, inductionHypothesis, getElem?_eq_toList,
        cons_isPrefix_drop_iff]

theorem holdsIgnoringCaseAt_iff {opening : List UInt8} :
    holdsIgnoringCaseAt payload position opening = true ↔
      opening <+: (payload.data.toList.drop position).map lowercaseByte := by
  rw [List.map_drop]
  induction opening generalizing position with
  | nil => simp [holdsIgnoringCaseAt]
  | cons byte rest inductionHypothesis =>
      rw [holdsIgnoringCaseAt, Bool.and_eq_true, beq_iff_eq, inductionHypothesis,
        getElem?_eq_toList, cons_isPrefix_drop_iff, List.getElem?_map]

/-- Skipping stops at the first byte that is not blank. -/
theorem drop_skipBlanks (payload : ByteArray) {remaining position : Nat}
    (enough : payload.size ≤ remaining + position) :
    payload.data.toList.drop (skipBlanks payload remaining position) =
      (payload.data.toList.drop position).dropWhile isAsciiBlank := by
  induction remaining generalizing position with
  | zero =>
      have outside : payload.data.toList.length ≤ position := by simpa using enough
      rw [skipBlanks, List.drop_eq_nil_of_le outside, List.dropWhile_nil]
  | succ remaining inductionHypothesis =>
      rw [skipBlanks, getElem?_eq_toList]
      by_cases inside : position < payload.data.toList.length
      · rw [List.getElem?_eq_getElem inside]
        by_cases blank : isAsciiBlank payload.data.toList[position] = true
        · simp only [blank, if_true]
          rw [inductionHypothesis (by omega), List.drop_eq_getElem_cons inside,
            List.dropWhile_cons_of_pos blank]
        · simp only [blank, Bool.false_eq_true, if_false]
          rw [List.drop_eq_getElem_cons inside, List.dropWhile_cons_of_neg blank]
      · have outside := Nat.le_of_not_lt inside
        rw [List.getElem?_eq_none outside]
        simp [List.drop_eq_nil_of_le outside]

end Places

/-! ## Openings of HTML -/

section Openings

variable {payload : ByteArray} {bytes body opening : List UInt8} {byte : UInt8} {position : Nat}

theorem lowercaseByte_eq_iff {wanted written : UInt8} (small : lowercaseByte wanted = wanted) :
    lowercaseByte written = wanted ↔ ByteStandsFor wanted written := by
  change _ ↔ written = wanted ∨ ∃ place < 26, wanted = 0x61 + place ∧ written = 0x41 + place
  unfold lowercaseByte at small ⊢
  constructor
  · intro same
    split at same
    · exact Or.inr ⟨written - 0x41, by grind, by grind, by grind⟩
    · exact Or.inl same
  · rintro (rfl | ⟨place, inside, rfl, rfl⟩)
    · exact small
    · rw [if_pos (by grind)]
      grind

theorem forall₂_byteStandsFor_iff {written : List UInt8}
    (small : ∀ byte ∈ opening, lowercaseByte byte = byte) :
    List.Forall₂ ByteStandsFor opening written ↔ opening = written.map lowercaseByte := by
  induction opening generalizing written with
  | nil => simp [List.forall₂_nil_left_iff, eq_comm]
  | cons wanted rest inductionHypothesis =>
      cases written with
      | nil => simp
      | cons byte written =>
          rw [List.forall₂_cons, List.map_cons, List.cons.injEq,
            inductionHypothesis fun other member => small other (List.mem_cons_of_mem _ member),
            ← lowercaseByte_eq_iff (small wanted List.mem_cons_self), eq_comm]

/-- The openings are in small letters, so the bytes in small letters tell whether one of them
stands there. -/
theorem opensWith_iff (isOpening : opening ∈ htmlOpenings) :
    OpensWith opening bytes ↔ opening <+: bytes.map lowercaseByte := by
  have small : ∀ opening ∈ htmlOpenings, ∀ byte ∈ opening, lowercaseByte byte = byte := by
    decide +kernel
  rw [OpensWith, List.prefix_map_iff]
  simp only [forall₂_byteStandsFor_iff (small opening isOpening)]

/-- What opens like HTML starts with a bracket, which is not blank. -/
theorem exists_unblank_of_opens (isOpening : opening ∈ htmlOpenings)
    (opens : opening <+: body.map lowercaseByte) :
    ∃ first rest, body = first :: rest ∧ isAsciiBlank first = false := by
  have start : opening[0]? = some 0x3C := by
    rcases List.mem_pair.1 isOpening with rfl | rfl <;> rfl
  have opened := getElem?_of_isPrefix opens start
  cases body with
  | nil => cases opened
  | cons first rest =>
      have bracket : lowercaseByte first = 0x3C := by simpa using opened
      have same : first = 0x3C := by
        unfold lowercaseByte at bracket
        split at bracket <;> grind
      exact ⟨first, rest, rfl, same ▸ by decide⟩

theorem startsLikeHtml_iff :
    startsLikeHtml payload = true ↔ ContentRule.html.Matches payload.data.toList := by
  have start := drop_skipBlanks payload (Nat.le_refl (payload.size + 0))
  rw [List.drop_zero] at start
  simp only [startsLikeHtml, List.any_eq_true, holdsIgnoringCaseAt_iff, start]
  constructor
  · rintro ⟨opening, isOpening, opens⟩
    have blank := List.all_eq_true.1 (List.all_takeWhile (p := isAsciiBlank)
      (l := payload.data.toList))
    exact ⟨_, _, List.takeWhile_append_dropWhile.symm, blank, opening, isOpening,
      (opensWith_iff isOpening).2 opens⟩
  · rintro ⟨blanks, body, cut, blank, opening, isOpening, opened⟩
    refine ⟨opening, isOpening, ?_⟩
    have opens := (opensWith_iff isOpening).1 opened
    obtain ⟨first, rest, rfl, unblank⟩ := exists_unblank_of_opens isOpening opens
    rw [cut, List.dropWhile_append_of_pos blank, List.dropWhile_cons_of_neg (by simp [unblank])]
    exact opens

theorem opens_of_unblank (matched : ContentRule.html.Matches bytes)
    (start : bytes[0]? = some byte) (unblank : isAsciiBlank byte = false) :
    ∃ opening ∈ htmlOpenings, opening <+: bytes.map lowercaseByte := by
  obtain ⟨blanks, body, rfl, blank, opening, isOpening, opened⟩ := matched
  cases blanks with
  | nil => exact ⟨opening, isOpening, (opensWith_iff isOpening).1 opened⟩
  | cons first rest =>
      have same : first = byte := by simpa using start
      have isBlank := blank first List.mem_cons_self
      rw [same, unblank] at isBlank
      cases isBlank

/-- Each of the first five bytes is blank or a letter of an opening. -/
theorem mem_opening_of_early (matched : ContentRule.html.Matches bytes) (early : position < 5) :
    ∃ byte, bytes[position]? = some byte ∧
      (isAsciiBlank byte = true ∨ ∃ opening ∈ htmlOpenings, lowercaseByte byte ∈ opening) := by
  obtain ⟨blanks, body, rfl, blank, opening, isOpening, opened⟩ := matched
  have opens := (opensWith_iff isOpening).1 opened
  by_cases inBlanks : position < blanks.length
  · refine ⟨blanks[position], ?_, Or.inl (blank _ (List.getElem_mem inBlanks))⟩
    rw [List.getElem?_append_left inBlanks, List.getElem?_eq_getElem]
  · -- Behind the blanks stands an opening, and each has five letters at least.
    have long : 5 ≤ opening.length := by
      rcases List.mem_pair.1 isOpening with rfl | rfl <;> decide
    have inside : position - blanks.length < opening.length := by omega
    have found := getElem?_of_isPrefix opens (List.getElem?_eq_getElem inside)
    rw [List.getElem?_map, Option.map_eq_some_iff] at found
    obtain ⟨byte, isByte, same⟩ := found
    refine ⟨byte, ?_, Or.inr ⟨opening, isOpening, same ▸ List.getElem_mem inside⟩⟩
    rw [List.getElem?_append_right (Nat.le_of_not_lt inBlanks), isByte]

end Openings

/-! ## Rules as they are tried -/

theorem holds_iff {payload : ByteArray} {rule : ContentRule} :
    rule.holds payload = true ↔ rule.Matches payload.data.toList := by
  cases rule with
  | marked signature =>
      simp only [ContentRule.holds, Signature.holds, List.all_eq_true, SignaturePart.holds,
        holdsAt_iff, ContentRule.Matches]
  | html => exact startsLikeHtml_iff

theorem find?_holds_iff {payload : ByteArray} {rules : List ContentRule} {mediaType : String} :
    (rules.find? fun rule => rule.holds payload).map ContentRule.mediaType = some mediaType ↔
      NamesFirst rules payload.data.toList mediaType := by
  simp only [Option.map_eq_some_iff, List.find?_eq_some_iff_append, holds_iff,
    Bool.not_eq_true', Bool.eq_false_iff, ne_eq, NamesFirst]
  constructor
  · rintro ⟨rule, ⟨matched, before, after, cut, unmatched⟩, named⟩
    exact ⟨before, rule, after, cut, matched, named, unmatched⟩
  · rintro ⟨before, rule, after, cut, matched, named, unmatched⟩
    exact ⟨rule, ⟨matched, before, after, cut, unmatched⟩, named⟩

theorem sniff_eq (payload : ByteArray) :
    sniff payload =
      (contentRules.find? fun rule => rule.holds payload).map ContentRule.mediaType := by
  have sameTest : (fun rule => ContentRule.holds payload rule) ∘ ContentRule.marked =
      fun signature => signature.holds payload :=
    rfl
  rw [contentRules, List.find?_append, List.find?_map, sameTest, sniff]
  rcases found : signatures.find? fun signature => signature.holds payload with _ | signature
  · by_cases opens : startsLikeHtml payload = true
    · simp [found, ContentRule.holds, opens, ContentRule.mediaType]
    · simp [found, ContentRule.holds, opens]
  · simp [found, ContentRule.mediaType]

theorem sniff_eq_some_iff {payload : ByteArray} {mediaType : String} :
    sniff payload = some mediaType ↔
      NamesFirst contentRules payload.data.toList mediaType := by
  rw [sniff_eq, find?_holds_iff]

theorem ContentRule.Matches.append {rule : ContentRule} {bytes : List UInt8}
    (matched : rule.Matches bytes) (more : List UInt8) : rule.Matches (bytes ++ more) := by
  cases rule with
  | marked signature =>
      intro part member
      rw [List.drop_append]
      exact (matched part member).trans (List.prefix_append _ _)
  | html =>
      obtain ⟨blanks, body, rfl, blank, opening, isOpening, written, starts, letters⟩ := matched
      exact ⟨blanks, body ++ more, List.append_assoc _ _ _, blank, opening, isOpening, written,
        starts.trans (List.prefix_append _ _), letters⟩

theorem exists_namesFirst_iff {payload : ByteArray} {rules : List ContentRule} :
    (∃ mediaType, NamesFirst rules payload.data.toList mediaType) ↔
      ∃ rule ∈ rules, rule.Matches payload.data.toList := by
  simp only [← find?_holds_iff, ← Option.isSome_iff_exists, Option.isSome_map,
    List.find?_isSome, holds_iff]

theorem NamesFirst.exists_rule {rules : List ContentRule} {bytes : List UInt8}
    {mediaType : String} (names : NamesFirst rules bytes mediaType) :
    ∃ rule ∈ rules, rule.Matches bytes ∧ rule.mediaType = mediaType := by
  obtain ⟨before, rule, after, rfl, matched, named, _⟩ := names
  exact ⟨rule, List.mem_append_right _ List.mem_cons_self, matched, named⟩

/-! ## Rules that contradict each other -/

/-- The bytes that a signature wants, each with its place. -/
def Signature.wanted (signature : Signature) : List (Nat × UInt8) :=
  signature.parts.flatMap fun part =>
    part.magic.zipIdx.map fun wanted => (part.offset + wanted.2, wanted.1)

/-- Two signatures want different bytes in one place. -/
def Signature.Contradicts (first second : Signature) : Prop :=
  ∃ wanted ∈ first.wanted, ∃ other ∈ second.wanted, wanted.1 = other.1 ∧ wanted.2 ≠ other.2

instance (first second : Signature) : Decidable (first.Contradicts second) :=
  inferInstanceAs (Decidable (∃ wanted ∈ first.wanted, _))

/-- A signature wants a first byte that is not blank, and in each opening of HTML another byte
in some place. -/
def Signature.ContradictsHtml (signature : Signature) : Prop :=
  (∃ wanted ∈ signature.wanted, wanted.1 = 0 ∧ isAsciiBlank wanted.2 = false) ∧
    ∀ opening ∈ htmlOpenings, ∃ wanted ∈ signature.wanted,
      wanted.1 < opening.length ∧ opening[wanted.1]? ≠ some (lowercaseByte wanted.2)

instance (signature : Signature) : Decidable signature.ContradictsHtml :=
  inferInstanceAs (Decidable (_ ∧ _))

section Contradictions

variable {bytes : List UInt8} {first second signature : Signature}

theorem getElem?_of_wanted {wanted : Nat × UInt8}
    (matched : (ContentRule.marked signature).Matches bytes)
    (isWanted : wanted ∈ signature.wanted) : bytes[wanted.1]? = some wanted.2 := by
  obtain ⟨part, member, inPart⟩ := List.mem_flatMap.1 isWanted
  obtain ⟨⟨byte, index⟩, indexed, rfl⟩ := List.mem_map.1 inPart
  have found := getElem?_of_isPrefix (matched part member)
    (List.mk_mem_zipIdx_iff_getElem?.1 indexed)
  rwa [List.getElem?_drop] at found

theorem Signature.Contradicts.not_both (contradicts : first.Contradicts second)
    (matched : (ContentRule.marked first).Matches bytes) :
    ¬ (ContentRule.marked second).Matches bytes := by
  intro other
  obtain ⟨⟨place, byte⟩, wanted, ⟨_, otherByte⟩, otherWanted, rfl, different⟩ := contradicts
  have found := getElem?_of_wanted matched wanted
  rw [getElem?_of_wanted other otherWanted, Option.some_inj] at found
  exact different found.symm

theorem Signature.ContradictsHtml.not_both (contradicts : signature.ContradictsHtml)
    (matched : (ContentRule.marked signature).Matches bytes) :
    ¬ ContentRule.html.Matches bytes := by
  intro html
  obtain ⟨⟨⟨_, start⟩, isWanted, rfl, unblank⟩, unlike⟩ := contradicts
  obtain ⟨opening, isOpening, opens⟩ :=
    opens_of_unblank html (getElem?_of_wanted matched isWanted) unblank
  obtain ⟨⟨place, byte⟩, inPlace, inside, different⟩ := unlike opening isOpening
  have found := getElem?_of_isPrefix opens (List.getElem?_eq_getElem inside)
  rw [List.getElem?_map, getElem?_of_wanted matched inPlace, Option.map_some,
    Option.some_inj] at found
  exact different (by rw [found, List.getElem?_eq_getElem])

end Contradictions

/-! ## The table -/

/-- The letters `ustar`, far behind the start. -/
def tar : Signature := ⟨[⟨257, [0x75, 0x73, 0x74, 0x61, 0x72]⟩], "application/x-tar"⟩

/-- The letters `ftyp` behind four bytes. -/
def mp4 : Signature := ⟨[⟨4, [0x66, 0x74, 0x79, 0x70]⟩], "video/mp4"⟩

/-- A rule that leaves the start of a payload to no other: all but those for `ustar` and
`ftyp`. -/
def ContentRule.IsLeading (rule : ContentRule) : Prop :=
  rule ≠ .marked tar ∧ rule ≠ .marked mp4

theorem signatures_contradict :
    ∀ first ∈ signatures, ∀ second ∈ signatures, first ≠ tar ∧ first ≠ mp4 →
      second ≠ tar ∧ second ≠ mp4 →
        first.Contradicts second ∨ first.mediaType = second.mediaType := by
  decide +kernel

theorem signatures_contradict_html :
    ∀ signature ∈ signatures, signature ≠ tar ∧ signature ≠ mp4 → signature.ContradictsHtml := by
  decide +kernel

theorem not_html_of_mp4 {bytes : List UInt8} (matched : (ContentRule.marked mp4).Matches bytes) :
    ¬ ContentRule.html.Matches bytes := by
  intro html
  obtain ⟨byte, found, isEarly⟩ := mem_opening_of_early html (show 4 < 5 by decide)
  have letter : bytes[4]? = some 0x66 :=
    getElem?_of_wanted matched (show (4, 0x66) ∈ mp4.wanted by decide)
  rw [letter, Option.some_inj] at found
  subst found
  exact absurd isEarly (by decide)

theorem mem_contentRules_iff {rule : ContentRule} :
    rule ∈ contentRules ↔
      (∃ signature ∈ signatures, .marked signature = rule) ∨ rule = .html := by
  rw [contentRules, List.mem_append, List.mem_map, List.mem_singleton]

theorem ContentRule.IsLeading.signature {signature : Signature}
    (leading : (ContentRule.marked signature).IsLeading) : signature ≠ tar ∧ signature ≠ mp4 :=
  ⟨fun same => leading.1 (congrArg marked same), fun same => leading.2 (congrArg marked same)⟩

theorem mediaType_eq_of_leading {bytes : List UInt8} {first second : ContentRule}
    (isFirst : first ∈ contentRules) (isSecond : second ∈ contentRules)
    (leadingFirst : first.IsLeading) (leadingSecond : second.IsLeading)
    (matched : first.Matches bytes) (other : second.Matches bytes) :
    first.mediaType = second.mediaType := by
  -- Two signatures contradict each other byte by byte, and each contradicts HTML.
  rcases mem_contentRules_iff.1 isFirst with ⟨signature, member, rfl⟩ | rfl
  · rcases mem_contentRules_iff.1 isSecond with ⟨rival, rivalMember, rfl⟩ | rfl
    · rcases signatures_contradict signature member rival rivalMember leadingFirst.signature
        leadingSecond.signature with contradicts | same
      · exact absurd other (contradicts.not_both matched)
      · exact same
    · exact absurd other
        ((signatures_contradict_html signature member leadingFirst.signature).not_both matched)
  · rcases mem_contentRules_iff.1 isSecond with ⟨rival, rivalMember, rfl⟩ | rfl
    · exact absurd matched
        ((signatures_contradict_html rival rivalMember leadingSecond.signature).not_both other)
    · rfl

/-- Without `ustar` and `ftyp` in their places the rules may be tried in any order. -/
theorem namesFirst_iff_of_perm {payload : ByteArray} {rules : List ContentRule}
    {mediaType : String} (reordered : rules.Perm contentRules)
    (noTar : ¬ (ContentRule.marked tar).Matches payload.data.toList)
    (noMp4 : ¬ (ContentRule.marked mp4).Matches payload.data.toList) :
    NamesFirst rules payload.data.toList mediaType ↔ sniff payload = some mediaType := by
  -- No matching rule is one of the two that may stand beside others.
  have leading : ∀ rule : ContentRule, rule.Matches payload.data.toList → rule.IsLeading :=
    fun rule matched => ⟨fun same => noTar (same ▸ matched), fun same => noMp4 (same ▸ matched)⟩
  have agree : ∀ named told, NamesFirst rules payload.data.toList named →
      NamesFirst contentRules payload.data.toList told → named = told := by
    intro named told names tells
    obtain ⟨rule, member, matched, rfl⟩ := names.exists_rule
    obtain ⟨other, otherMember, otherMatched, rfl⟩ := tells.exists_rule
    exact mediaType_eq_of_leading (reordered.mem_iff.1 member) otherMember (leading _ matched)
      (leading _ otherMatched) matched otherMatched
  rw [sniff_eq_some_iff]
  constructor
  · intro names
    obtain ⟨rule, member, matched, _⟩ := names.exists_rule
    obtain ⟨told, tells⟩ :=
      exists_namesFirst_iff.2 ⟨rule, reordered.mem_iff.1 member, matched⟩
    rwa [agree mediaType told names tells]
  · intro tells
    obtain ⟨rule, member, matched, _⟩ := tells.exists_rule
    obtain ⟨named, names⟩ :=
      exists_namesFirst_iff.2 ⟨rule, reordered.mem_iff.2 member, matched⟩
    rwa [← agree named mediaType names tells]

theorem isSome_sniff_append {payload : ByteArray} (known : (sniff payload).isSome = true)
    (more : ByteArray) : (sniff (payload ++ more)).isSome = true := by
  obtain ⟨mediaType, told⟩ := Option.isSome_iff_exists.1 known
  obtain ⟨rule, member, matched, _⟩ := (sniff_eq_some_iff.1 told).exists_rule
  have still := matched.append more.data.toList
  rw [← ByteArray.toList_data_append] at still
  obtain ⟨later, tells⟩ := exists_namesFirst_iff.2 ⟨rule, member, still⟩
  rw [sniff_eq_some_iff.2 tells, Option.isSome_some]

/-- The first rule that a payload satisfies tells its type. All rules that it satisfies name the
same type, `ustar` and `ftyp` aside, and `ftyp` never stands in a payload that opens like HTML;
so another order of the rules tells another type at most for payloads with `ustar` or `ftyp` in
their places. A payload with a type has one whatever is added to it. -/
theorem content_rules_are_unambiguous (payload : ByteArray) :
    (∀ mediaType, sniff payload = some mediaType ↔
        NamesFirst contentRules payload.data.toList mediaType) ∧
      (∀ first ∈ contentRules, ∀ second ∈ contentRules,
        first.IsLeading → second.IsLeading →
          first.Matches payload.data.toList → second.Matches payload.data.toList →
            first.mediaType = second.mediaType) ∧
      ¬ ((ContentRule.marked mp4).Matches payload.data.toList ∧
        ContentRule.html.Matches payload.data.toList) ∧
      (∀ rules, rules.Perm contentRules →
        ¬ (∀ mediaType, NamesFirst rules payload.data.toList mediaType ↔
            sniff payload = some mediaType) →
          (ContentRule.marked tar).Matches payload.data.toList ∨
            (ContentRule.marked mp4).Matches payload.data.toList) ∧
      ∀ more, (sniff payload).isSome = true → (sniff (payload ++ more)).isSome = true := by
  refine ⟨fun _ => sniff_eq_some_iff, ?_, ?_, ?_, fun more known => isSome_sniff_append known more⟩
  · intro first isFirst second isSecond leadingFirst leadingSecond matched other
    exact mediaType_eq_of_leading isFirst isSecond leadingFirst leadingSecond matched other
  · exact fun both => not_html_of_mp4 both.1 both.2
  · intro rules reordered differs
    by_contra neither
    rw [not_or] at neither
    exact differs fun _ => namesFirst_iff_of_perm reordered neither.1 neither.2

/-- Of a picture's mark and `ftyp` behind it, the mark stands first in the table. -/
example : sniff ⟨#[0x42, 0x4D, 0, 0, 0x66, 0x74, 0x79, 0x70]⟩ = some "image/bmp" := by
  decide +kernel

end ContentVault.MediaType
