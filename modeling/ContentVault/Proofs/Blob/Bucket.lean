import ContentVault.Blob.Bucket
import ContentVault.Proofs.NormalPath

/-!
# Keys of objects in a bucket

Under which keys a bucket holds its blobs.

* the normal form of a text is a text, so a prefix is refused only if it has no normal form;
* the key of an object is the normal form of a path below the normal form of the prefix, and
  it is its own normal form;
* so every key leads through the prefix, and different blobs have different keys.
-/

namespace ContentVault

/-! ## Texts between slashes -/

/-- What stands before the first separator is the beginning of the first piece. -/
theorem pieces_append_of_not_mem {α : Type} [DecidableEq α] {separator : α} {items : List α}
    (absent : separator ∉ items) (rest : List α) :
    ∃ first others,
      pieces separator rest = first :: others ∧
        pieces separator (items ++ rest) = (items ++ first) :: others := by
  induction items with
  | nil =>
      obtain ⟨first, others, cut⟩ := List.exists_cons_of_ne_nil (pieces_ne_nil separator rest)
      exact ⟨first, others, cut, cut⟩
  | cons item items inductionHypothesis =>
      rw [List.mem_cons, not_or] at absent
      obtain ⟨first, others, cut, cutBehind⟩ := inductionHypothesis absent.2
      refine ⟨first, others, cut, ?_⟩
      rw [List.cons_append, pieces_cons, cutBehind, consPiece, if_neg (Ne.symm absent.1)]
      rfl

theorem encode_slash : Utf8.encode "/" = [slash] := by
  rw [Utf8.encode_eq_flatMap]
  decide

/-- What stands between the slashes of a text is text. -/
theorem exists_text_of_mem_pieces (text : String) :
    ∀ piece ∈ pieces slash (Utf8.encode text), ∃ part, piece = Utf8.encode part := by
  have parts : ∀ characters : List Char,
      ∀ piece ∈ pieces slash (characters.flatMap String.utf8EncodeChar),
        ∃ part : List Char, piece = part.flatMap String.utf8EncodeChar := by
    intro characters
    induction characters with
    | nil =>
        exact fun piece member => ⟨[], List.mem_singleton.1 member⟩
    | cons character rest inductionHypothesis =>
        rw [List.flatMap_cons]
        by_cases isSlash : character = '/'
        · subst isSlash
          have spelled : String.utf8EncodeChar '/' = [slash] := by decide
          rw [spelled, List.singleton_append, pieces_separator_cons]
          exact List.forall_mem_cons.2 ⟨⟨[], rfl⟩, inductionHypothesis⟩
        · have absent : slash ∉ String.utf8EncodeChar character := by
            intro member
            have number := Utf8.toNat_eq_of_mem_utf8EncodeChar (by decide) member
            exact isSlash (Char.toNat_inj.1 number)
          obtain ⟨first, others, cut, cutBehind⟩ := pieces_append_of_not_mem absent
            (rest.flatMap String.utf8EncodeChar)
          rw [cut, List.forall_mem_cons] at inductionHypothesis
          obtain ⟨⟨part, rfl⟩, otherParts⟩ := inductionHypothesis
          rw [cutBehind]
          exact List.forall_mem_cons.2 ⟨⟨character :: part, rfl⟩, otherParts⟩
  intro piece member
  rw [Utf8.encode_eq_flatMap] at member
  obtain ⟨part, rfl⟩ := parts text.toList piece member
  exact ⟨String.ofList part, by rw [Utf8.encode_eq_flatMap, String.toList_ofList]⟩

/-- A path that is spelled with texts is a text. -/
theorem exists_text_of_keyPath {names : List PathName}
    (texts : ∀ name ∈ names, ∃ part, name = Utf8.encode part) :
    ∃ text, keyPath names = Utf8.encode text := by
  have behind : ∀ rest : List PathName, (∀ name ∈ rest, ∃ part, name = Utf8.encode part) →
      ∃ text, rest.foldr (fun piece joined => slash :: (piece ++ joined)) [] =
        Utf8.encode text := by
    intro rest
    induction rest with
    | nil =>
        exact fun _ => ⟨"", Utf8.encode_empty.symm⟩
    | cons name rest inductionHypothesis =>
        intro texts
        obtain ⟨⟨part, rfl⟩, others⟩ := List.forall_mem_cons.1 texts
        obtain ⟨text, joined⟩ := inductionHypothesis others
        refine ⟨"/" ++ (part ++ text), ?_⟩
        rw [List.foldr_cons, joined, Utf8.encode_append, Utf8.encode_append, encode_slash]
        rfl
  cases names with
  | nil =>
      exact ⟨"", Utf8.encode_empty.symm⟩
  | cons name rest =>
      obtain ⟨⟨part, rfl⟩, others⟩ := List.forall_mem_cons.1 texts
      obtain ⟨text, joined⟩ := behind rest others
      exact ⟨part ++ text, by rw [keyPath, joinPieces, joined, Utf8.encode_append]⟩

/-- The normal form of a text is a text. -/
theorem exists_text_of_normalPath? {text : String} {normal : List UInt8}
    (isNormal : normalPath? (Utf8.encode text) = some normal) :
    ∃ spelled, normal = Utf8.encode spelled := by
  obtain ⟨names, keyed, rfl⟩ := Option.map_eq_some_iff.1 isNormal
  obtain ⟨_, cancels, _⟩ := blobKey?_eq_some_iff.1 keyed
  refine exists_text_of_keyPath fun name member => ?_
  exact exists_text_of_mem_pieces text name (List.mem_filter.1 (cancels.mem_left name member).1).1

/-! ## Prefixes -/

namespace BucketStore

/-- The normal form of a prefix: there is none if it is absent or consists of slashes. -/
inductive NormalPrefix : Option String → Option String → Prop where
  | absent : NormalPrefix none none
  | slashes {text : String} (only : ∀ character ∈ text.toList, character = '/') :
      NormalPrefix (some text) none
  | normal {text above : String} (leads : ∃ character ∈ text.toList, character ≠ '/')
      (isNormal : normalPath? (Utf8.encode text) = some (Utf8.encode above)) :
      NormalPrefix (some text) (some above)

variable {given keyPrefix : Option String} {path : List UInt8} {key text : String}

theorem normalPrefix?_eq_ok_iff :
    normalPrefix? given = .ok keyPrefix ↔ NormalPrefix given keyPrefix := by
  cases given with
  | none =>
      constructor
      · rintro ⟨⟩
        exact .absent
      · rintro ⟨⟩
        rfl
  | some text =>
      have onlySlashes : text.toList.all (· = '/') = true ↔
          ∀ character ∈ text.toList, character = '/' := by
        simp only [List.all_eq_true, decide_eq_true_eq]
      unfold normalPrefix?
      dsimp only
      split
      · rename_i only
        rw [onlySlashes] at only
        constructor
        · rintro ⟨⟩
          exact .slashes only
        · rintro (_ | _ | ⟨⟨character, member, other⟩, _⟩)
          · rfl
          · exact absurd (only character member) other
      · rename_i leads
        rw [onlySlashes] at leads
        have leadsOn : ∃ character ∈ text.toList, character ≠ '/' := by
          simpa using leads
        rcases isNormal : normalPath? (Utf8.encode text) with _ | normal
        · refine iff_of_false nofun ?_
          rintro (_ | only | ⟨_, isSome⟩)
          · exact leads only
          · rw [isNormal] at isSome
            cases isSome
        · obtain ⟨spelled, rfl⟩ := exists_text_of_normalPath? isNormal
          have read : Utf8.decode? (ByteArray.mk (Utf8.encode spelled).toArray) = some spelled :=
            Utf8.decode?_eq_some_iff.2 rfl
          dsimp only
          rw [read]
          constructor
          · rintro ⟨⟩
            exact .normal leadsOn isNormal
          · rintro (_ | only | ⟨_, isSome⟩)
            · exact absurd only leads
            · rw [isNormal, Option.some_inj] at isSome
              rw [Utf8.encode_injective isSome]

/-- A prefix is accepted unless it leads somewhere and has no normal form. -/
theorem exists_normalPrefix_iff :
    (∃ keyPrefix, normalPrefix? given = .ok keyPrefix) ↔
      ∀ text ∈ given, (∃ character ∈ text.toList, character ≠ '/') →
        normalPath? (Utf8.encode text) ≠ none := by
  simp only [normalPrefix?_eq_ok_iff]
  constructor
  · rintro ⟨_, isNormal⟩ text ⟨⟩ ⟨character, member, other⟩
    rcases isNormal with _ | only | ⟨_, isSome⟩
    · exact absurd (only character member) other
    · rw [isSome]
      exact Option.some_ne_none _
  · intro accepted
    cases given with
    | none =>
        exact ⟨none, .absent⟩
    | some text =>
        by_cases leads : ∃ character ∈ text.toList, character ≠ '/'
        · obtain ⟨normal, isNormal⟩ := Option.ne_none_iff_exists'.1 (accepted text rfl leads)
          obtain ⟨above, rfl⟩ := exists_text_of_normalPath? isNormal
          exact ⟨some above, .normal leads isNormal⟩
        · refine ⟨none, .slashes fun character member => ?_⟩
          exact Classical.byContradiction fun other => leads ⟨character, member, other⟩

/-- The names on the way to where a prefix leads. -/
def prefixNames : Option String → List PathName
  | none => []
  | some above => pieces slash (Utf8.encode above)

theorem NormalPrefix.isPathName (isNormal : NormalPrefix given keyPrefix) :
    ∀ name ∈ prefixNames keyPrefix, IsPathName name := by
  rcases isNormal with _ | _ | ⟨_, isSome⟩
  · exact fun _ member => absurd member List.not_mem_nil
  · exact fun _ member => absurd member List.not_mem_nil
  · obtain ⟨names, keyed, spelled⟩ := Option.map_eq_some_iff.1 isSome
    obtain ⟨nonempty, proper⟩ := isPathName_of_blobKey? keyed
    rw [prefixNames, ← spelled, pieces_keyPath nonempty proper]
    exact proper

/-- A normal form does not end with a slash. -/
theorem NormalPrefix.joinKey_eq (isNormal : NormalPrefix given keyPrefix) (key : String) :
    joinKey keyPrefix key = keyPrefix.elim key fun above => above ++ "/" ++ key := by
  cases keyPrefix with
  | none =>
      rfl
  | some above =>
      have noSlash : above.toList.reverse.dropWhile (· = '/') = above.toList.reverse := by
        rcases backwards : above.toList.reverse with _ | ⟨last, before⟩
        · rfl
        · refine List.dropWhile_cons_of_neg (fun isSlash => ?_)
          rw [of_decide_eq_true isSlash, List.reverse_eq_iff, List.reverse_cons] at backwards
          have ends : Utf8.encode above = Utf8.encode (String.ofList before.reverse) ++ [slash] := by
            rw [← encode_slash, ← Utf8.encode_append]
            congr 1
            apply String.toList_inj.1
            rw [backwards, String.toList_append, String.toList_ofList]
            rfl
          have lastName : [] ∈ prefixNames (some above) := by
            rw [prefixNames, ends, pieces_append_separator]
            exact List.mem_append_right _ (List.mem_singleton_self _)
          exact (isNormal.isPathName [] lastName).nonempty rfl
      rw [joinKey, noSlash, List.reverse_reverse, String.ofList_toList]
      rfl

/-! ## Keys -/

theorem fullKey_eq_ok_iff :
    fullKey keyPrefix path = .ok key ↔
      ∃ text, normalPath? path = some (Utf8.encode text) ∧ joinKey keyPrefix text = key := by
  unfold fullKey
  split
  · rename_i refused
    simp [refused]
  · rename_i normal isNormal
    rw [isNormal]
    split
    · rename_i noText
      refine iff_of_false nofun ?_
      rintro ⟨text, spelled, _⟩
      rw [Option.some_inj, ← Utf8.decode?_eq_some_iff, noText] at spelled
      cases spelled
    · rename_i text isText
      simp only [Utf8.decode?_eq_some_iff.1 isText, Option.some_inj, Except.ok.injEq]
      constructor
      · exact fun joined => ⟨text, rfl, joined⟩
      · rintro ⟨other, same, joined⟩
        rwa [Utf8.encode_injective same]

/-- A path has no key exactly if it has no normal form or one that is no text. -/
theorem fullKey_eq_error_iff {failure : BlobError} :
    fullKey keyPrefix path = .error failure ↔
      (normalPath? path = none ∧ failure = .ofBadPath path) ∨
        ∃ normal, normalPath? path = some normal ∧ (∀ text, normal ≠ Utf8.encode text) ∧
          failure = .ofBadPath normal := by
  unfold fullKey
  split
  · rename_i refused
    simp [refused, eq_comm]
  · rename_i normal isNormal
    rw [isNormal]
    split
    · rename_i noText
      have noSpelling : ∀ text, normal ≠ Utf8.encode text := by
        intro text spelled
        rw [← Utf8.decode?_eq_some_iff, noText] at spelled
        cases spelled
      simp [noSpelling, eq_comm]
    · rename_i text isText
      refine iff_of_false nofun ?_
      rintro (⟨⟨⟩, _⟩ | ⟨_, ⟨⟩, noSpelling, _⟩)
      exact noSpelling text (Utf8.decode?_eq_some_iff.1 isText)

/-- What the key of an object guarantees for a path below a prefix in normal form. -/
structure IsKeyUnder (keyPrefix : Option String) (path : List UInt8) (key : String) : Prop where
  /-- The key is the prefix, a slash and the normal form of the path. -/
  spelled : ∃ text, normalPath? path = some (Utf8.encode text) ∧
    key = keyPrefix.elim text fun above => above ++ "/" ++ text
  /-- The key is its own normal form. -/
  again : normalPath? (Utf8.encode key) = some (Utf8.encode key)
  /-- The key leads to where the prefix leads and from there on by the names of the path. -/
  below : ∃ names, blobKey? path = some names ∧
    blobKey? (Utf8.encode key) = some (prefixNames keyPrefix ++ names)

theorem pieces_joinKey (isNormal : NormalPrefix given keyPrefix) (text : String) :
    pieces slash (Utf8.encode (joinKey keyPrefix text)) =
      prefixNames keyPrefix ++ pieces slash (Utf8.encode text) := by
  rw [isNormal.joinKey_eq]
  cases keyPrefix with
  | none =>
      rfl
  | some above =>
      rw [Option.elim_some, Utf8.encode_append, Utf8.encode_append, encode_slash,
        List.append_assoc, List.singleton_append, pieces_append_separator]
      rfl

theorem isKeyUnder_of_fullKey (isNormal : NormalPrefix given keyPrefix)
    (isKey : fullKey keyPrefix path = .ok key) : IsKeyUnder keyPrefix path key := by
  obtain ⟨text, spelled, rfl⟩ := fullKey_eq_ok_iff.1 isKey
  obtain ⟨names, keyed, isText⟩ := Option.map_eq_some_iff.1 spelled
  obtain ⟨nonempty, proper⟩ := isPathName_of_blobKey? keyed
  -- The names of the key are those of the prefix and those of the path.
  have segments : pieces slash (Utf8.encode (joinKey keyPrefix text)) =
      prefixNames keyPrefix ++ names := by
    rw [pieces_joinKey isNormal, ← isText, pieces_keyPath nonempty proper]
  have whole : Utf8.encode (joinKey keyPrefix text) = keyPath (prefixNames keyPrefix ++ names) := by
    rw [← segments, keyPath, joinPieces_pieces]
  have normal : IsNormalForm (Utf8.encode (joinKey keyPrefix text)) := by
    rw [whole]
    refine isNormalForm_keyPath (List.append_ne_nil_of_right_ne_nil _ nonempty) fun name member => ?_
    exact (List.mem_append.1 member).elim (isNormal.isPathName name) (proper name)
  exact ⟨⟨text, spelled, isNormal.joinKey_eq text⟩, normal.again, names, keyed,
    normal.key.trans (congrArg some segments)⟩

/-- Keys are the same exactly if the normal forms of their paths are. -/
theorem fullKey_inj {other : List UInt8} {otherKey : String}
    (isNormal : NormalPrefix given keyPrefix) (isKey : fullKey keyPrefix path = .ok key)
    (isOther : fullKey keyPrefix other = .ok otherKey) :
    key = otherKey ↔ normalPath? path = normalPath? other := by
  obtain ⟨text, spelled, rfl⟩ := fullKey_eq_ok_iff.1 isKey
  obtain ⟨otherText, otherSpelled, rfl⟩ := fullKey_eq_ok_iff.1 isOther
  rw [spelled, otherSpelled, Option.some_inj]
  constructor
  · intro same
    have segments : pieces slash (Utf8.encode (joinKey keyPrefix text)) =
        pieces slash (Utf8.encode (joinKey keyPrefix otherText)) := by
      rw [same]
    rw [pieces_joinKey isNormal, pieces_joinKey isNormal] at segments
    rw [← joinPieces_pieces slash (Utf8.encode text), List.append_cancel_left segments,
      joinPieces_pieces]
  · intro same
    rw [Utf8.encode_injective same]

/-- Under a prefix that is accepted every path with a normal form that is text has a key, the
keys stay below the prefix, and paths share a key exactly if they have the same normal form. -/
theorem keys_stay_under_prefix (given keyPrefix : Option String)
    (accepted : normalPrefix? given = .ok keyPrefix) :
    NormalPrefix given keyPrefix ∧
      ∀ path,
        ((∃ failure, fullKey keyPrefix path = .error failure) ↔
          normalPath? path = none ∨
            ∃ normal, normalPath? path = some normal ∧ ∀ text, normal ≠ Utf8.encode text) ∧
        ∀ key, fullKey keyPrefix path = .ok key →
          IsKeyUnder keyPrefix path key ∧
            ∀ other otherKey, fullKey keyPrefix other = .ok otherKey →
              (key = otherKey ↔ normalPath? path = normalPath? other) := by
  have isNormal := normalPrefix?_eq_ok_iff.1 accepted
  refine ⟨isNormal, fun path => ⟨?_, fun key isKey => ?_⟩⟩
  · simp only [fullKey_eq_error_iff]
    constructor
    · rintro ⟨_, ⟨refused, _⟩ | ⟨normal, isSome, noText, _⟩⟩
      · exact .inl refused
      · exact .inr ⟨normal, isSome, noText⟩
    · rintro (refused | ⟨normal, isSome, noText⟩)
      · exact ⟨_, .inl ⟨refused, rfl⟩⟩
      · exact ⟨_, .inr ⟨normal, isSome, noText, rfl⟩⟩
  · exact ⟨isKeyUnder_of_fullKey isNormal isKey,
      fun other otherKey isOther => fullKey_inj isNormal isKey isOther⟩

/-- Below a prefix that wanders and ends with slashes, paths that climb back and wander to the
same blob have one key. -/
theorem wandering_keys_stay_under_prefix :
    normalPrefix? (some "/team/./x/../blobs//") = .ok (some "team/blobs") ∧
      fullKey (some "team/blobs") (Utf8.encode "../alice") =
        .error (.ofBadPath (Utf8.encode "../alice")) ∧
      IsKeyUnder (some "team/blobs") (Utf8.encode "a/../alice//b") "team/blobs/alice/b" ∧
      normalPath? (Utf8.encode "a/../alice//b") = normalPath? (Utf8.encode "./alice/b/") := by
  have accepted : normalPrefix? (some "/team/./x/../blobs//") = .ok (some "team/blobs") := by
    decide +kernel
  have isKey : fullKey (some "team/blobs") (Utf8.encode "a/../alice//b") =
      .ok "team/blobs/alice/b" := by
    decide +kernel
  have isOther : fullKey (some "team/blobs") (Utf8.encode "./alice/b/") =
      .ok "team/blobs/alice/b" := by
    decide +kernel
  have stays := keys_stay_under_prefix _ _ accepted
  obtain ⟨_, keys⟩ := stays.2 (Utf8.encode "a/../alice//b")
  obtain ⟨isUnder, same⟩ := keys _ isKey
  exact ⟨accepted, by decide +kernel, isUnder, (same _ _ isOther).1 rfl⟩

end BucketStore

end ContentVault
