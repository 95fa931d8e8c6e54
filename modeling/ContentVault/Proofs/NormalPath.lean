import ContentVault.Database.Address
import ContentVault.Proofs.BlobKey

/-!
# Normal forms of paths

Which paths have a key, and which key that is.

* the segments of a path that count are names and `..`; each `..` cancels the nearest name
  before it that is not cancelled yet;
* a path has a key exactly if no name of it holds a NUL byte, it never leads above where it
  starts, and a name is left; its normal form spells the names that are left;
* a normal form is relative and its own normal form, and it leads from any directory to a
  place strictly below.
-/

namespace ContentVault

/-- Whether a segment between slashes leads anywhere. -/
def leadsOn (segment : PathName) : Bool :=
  segment ≠ [] && segment ≠ currentSegment

/-- The segments of a path that count: names and `..`. -/
def pathSegments (path : List UInt8) : List PathName :=
  (pieces slash path).filter leadsOn

/-- The names that are left of segments once each `..`, the first one first, has cancelled
the name before it. -/
inductive Cancels : List PathName → List PathName → Prop
  | done {names : List PathName} : parentSegment ∉ names → Cancels names names
  | cancel {before after left : List PathName} {name : PathName} :
      parentSegment ∉ before → name ≠ parentSegment → Cancels (before ++ after) left →
        Cancels (before ++ name :: parentSegment :: after) left

/-- Segments none of whose beginnings has more `..` than names, apart from some names that
came before. -/
def StaysWithin (depth : Nat) (segments : List PathName) : Prop :=
  ∀ initial, initial <+: segments →
    initial.count parentSegment ≤ depth + initial.countP (· ≠ parentSegment)

/-! ## Cancelling -/

/-- Around the first occurrence of an item a list splits in one way only. -/
theorem append_first_cons_inj {α : Type} {item : α} {first second rest others : List α}
    (notFirst : item ∉ first) (notSecond : item ∉ second)
    (same : first ++ item :: rest = second ++ item :: others) :
    first = second ∧ rest = others := by
  induction first generalizing second with
  | nil =>
      cases second with
      | nil =>
          exact ⟨rfl, (List.cons.inj same).2⟩
      | cons head tail =>
          exact absurd ((List.cons.inj same).1 ▸ List.mem_cons_self) notSecond
  | cons head tail inductionHypothesis =>
      cases second with
      | nil =>
          exact absurd ((List.cons.inj same).1 ▸ List.mem_cons_self) notFirst
      | cons otherHead otherTail =>
          obtain ⟨rfl, sameTail⟩ := List.cons.inj same
          obtain ⟨rfl, sameRest⟩ := inductionHypothesis
            (fun member => notFirst (List.mem_cons_of_mem _ member))
            (fun member => notSecond (List.mem_cons_of_mem _ member)) sameTail
          exact ⟨rfl, sameRest⟩

namespace Cancels

variable {segments left : List PathName}

theorem eq_of_names (cancels : Cancels segments left) (names : parentSegment ∉ segments) :
    left = segments := by
  cases cancels with
  | done =>
      rfl
  | cancel =>
      exact absurd (by simp) names

/-- The first `..` cancels the name before it and nothing else. -/
theorem cancel_iff {before after : List PathName} {name : PathName}
    (names : parentSegment ∉ before) (isName : name ≠ parentSegment) :
    Cancels (before ++ name :: parentSegment :: after) left ↔ Cancels (before ++ after) left := by
  refine ⟨fun cancels => ?_, cancel names isName⟩
  generalize spelled : before ++ name :: parentSegment :: after = segments at cancels
  cases cancels with
  | done free =>
      subst spelled
      exact absurd (by simp) free
  | @cancel first rest _ other firstNames otherName cancelled =>
      -- Before the first `..` stand the same names on both sides, the cancelled one last.
      have shifted : (before ++ [name]) ++ parentSegment :: after =
          (first ++ [other]) ++ parentSegment :: rest := by
        simpa using spelled
      obtain ⟨same, rfl⟩ := append_first_cons_inj
        (by simp [names, Ne.symm isName]) (by simp [firstNames, Ne.symm otherName]) shifted
      obtain ⟨rfl, _⟩ := List.append_inj' same rfl
      exact cancelled

/-- After names that are listed the last one first, `..` cancels the last one. -/
theorem cancel_last_iff {above after : List PathName} {name : PathName}
    (names : parentSegment ∉ name :: above) :
    Cancels ((name :: above).reverse ++ parentSegment :: after) left ↔
      Cancels (above.reverse ++ after) left := by
  rw [List.mem_cons, not_or] at names
  rw [List.reverse_cons, List.append_assoc, List.singleton_append]
  exact cancel_iff (fun member => names.2 (List.mem_reverse.1 member)) (Ne.symm names.1)

theorem not_parent_cons {after : List PathName} :
    ¬ Cancels (parentSegment :: after) left := by
  intro cancels
  generalize spelled : parentSegment :: after = segments at cancels
  cases cancels with
  | done free =>
      subst spelled
      exact free List.mem_cons_self
  | @cancel first rest _ other firstNames otherName _ =>
      cases first with
      | nil =>
          exact otherName (List.cons.inj spelled).1.symm
      | cons head tail =>
          exact firstNames ((List.cons.inj spelled).1 ▸ List.mem_cons_self)

/-- Cancelling leaves one list of names. -/
theorem unique {other : List PathName} (cancels : Cancels segments left)
    (otherwise : Cancels segments other) : left = other := by
  induction cancels with
  | done free =>
      exact (otherwise.eq_of_names free).symm
  | cancel free isName _ inductionHypothesis =>
      exact inductionHypothesis ((cancel_iff free isName).1 otherwise)

/-- What is left are names, and they were there before. -/
theorem mem_left (cancels : Cancels segments left) :
    ∀ name ∈ left, name ∈ segments ∧ name ≠ parentSegment := by
  induction cancels with
  | done free =>
      exact fun name member => ⟨member, fun same => free (same ▸ member)⟩
  | cancel _ _ _ inductionHypothesis =>
      intro name member
      obtain ⟨known, isName⟩ := inductionHypothesis name member
      refine ⟨?_, isName⟩
      rcases List.mem_append.1 known with inBefore | inAfter
      · exact List.mem_append_left _ inBefore
      · exact List.mem_append_right _ (by simp [inAfter])

end Cancels

/-! ## Segments that stay within -/

theorem staysWithin_nil (depth : Nat) : StaysWithin depth [] := by
  intro initial isInitial
  rw [List.prefix_nil.1 isInitial]
  exact Nat.zero_le _

theorem staysWithin_cons {depth : Nat} {segment : PathName} {segments : List PathName} :
    StaysWithin depth (segment :: segments) ↔
      ∀ initial, initial <+: segments →
        (segment :: initial).count parentSegment ≤
          depth + (segment :: initial).countP (· ≠ parentSegment) := by
  constructor
  · exact fun stays initial isInitial =>
      stays (segment :: initial) ((List.prefix_cons_inj segment).2 isInitial)
  · intro stays initial isInitial
    rcases List.prefix_cons_iff.1 isInitial with rfl | ⟨rest, rfl, isRest⟩
    · exact Nat.zero_le _
    · exact stays rest isRest

theorem staysWithin_cons_name {depth : Nat} {name : PathName} {segments : List PathName}
    (isName : name ≠ parentSegment) :
    StaysWithin depth (name :: segments) ↔ StaysWithin (depth + 1) segments := by
  rw [staysWithin_cons]
  refine forall₂_congr fun initial _ => ?_
  rw [List.count_cons_of_ne isName, List.countP_cons_of_pos (by simpa using isName)]
  omega

theorem staysWithin_cons_parent {depth : Nat} {segments : List PathName} :
    StaysWithin (depth + 1) (parentSegment :: segments) ↔ StaysWithin depth segments := by
  rw [staysWithin_cons]
  refine forall₂_congr fun initial _ => ?_
  rw [List.count_cons_self, List.countP_cons_of_neg (by simp)]
  omega

theorem not_staysWithin_cons_parent {segments : List PathName} :
    ¬ StaysWithin 0 (parentSegment :: segments) := by
  intro stays
  have first := staysWithin_cons.1 stays [] List.nil_prefix
  exact absurd first (by decide)

/-- The segments can be cancelled down to names exactly if they stay within the names that
came before, the last of which is listed first. -/
theorem exists_cancels_iff {position segments : List PathName}
    (names : parentSegment ∉ position) :
    (∃ left, Cancels (position.reverse ++ segments) left) ↔
      StaysWithin position.length segments := by
  induction segments generalizing position with
  | nil =>
      refine iff_of_true ⟨position.reverse, ?_⟩ (staysWithin_nil _)
      rw [List.append_nil]
      exact .done fun member => names (List.mem_reverse.1 member)
  | cons segment rest inductionHypothesis =>
      by_cases isParent : segment = parentSegment
      · subst isParent
        cases position with
        | nil =>
            exact iff_of_false (fun ⟨_, cancels⟩ => cancels.not_parent_cons)
              not_staysWithin_cons_parent
        | cons name above =>
            have aboveNames : parentSegment ∉ above :=
              fun member => names (List.mem_cons_of_mem name member)
            rw [List.length_cons, staysWithin_cons_parent, ← inductionHypothesis aboveNames]
            exact exists_congr fun left => Cancels.cancel_last_iff names
      · have deeper : parentSegment ∉ segment :: position := by
          simp [names, Ne.symm isParent]
        rw [staysWithin_cons_name isParent, ← List.length_cons, ← inductionHypothesis deeper,
          List.reverse_cons, List.append_assoc, List.singleton_append]

/-! ## Following the segments -/

theorem leadsOn_iff {segment : PathName} :
    leadsOn segment = true ↔ segment ≠ [] ∧ segment ≠ currentSegment := by
  rw [leadsOn, Bool.and_eq_true, decide_eq_true_eq, decide_eq_true_eq]

theorem ofSegment_of_not_leadsOn {segment : PathName} (idle : ¬ leadsOn segment = true) :
    PathStep.ofSegment segment = .stay := by
  rw [leadsOn_iff, not_and_or, not_not, not_not] at idle
  exact if_pos idle

theorem ofSegment_parentSegment : PathStep.ofSegment parentSegment = .up := by
  decide

theorem ofSegment_name {name : PathName} (counted : leadsOn name = true)
    (isName : name ≠ parentSegment) : PathStep.ofSegment name = .down name := by
  rw [leadsOn_iff] at counted
  rw [PathStep.ofSegment, if_neg (not_or.2 counted), if_neg isName]

/-- Segments that lead nowhere make no difference. -/
theorem followSteps_filter (segments position : List PathName) :
    followSteps (segments.map .ofSegment) position =
      followSteps ((segments.filter leadsOn).map .ofSegment) position := by
  induction segments generalizing position with
  | nil =>
      rfl
  | cons segment rest inductionHypothesis =>
      by_cases counted : leadsOn segment = true
      · rw [List.filter_cons_of_pos counted, List.map_cons, List.map_cons]
        cases PathStep.ofSegment segment with
        | stay =>
            exact inductionHypothesis position
        | up =>
            cases position with
            | nil =>
                rfl
            | cons _ above =>
                exact inductionHypothesis above
        | down name =>
            simp only [followSteps, inductionHypothesis]
      · rw [List.filter_cons_of_neg counted, List.map_cons, ofSegment_of_not_leadsOn counted]
        exact inductionHypothesis position

/-- Where segments lead is what is left of them. -/
theorem followSteps_eq_some_iff {segments position reached : List PathName}
    (counted : ∀ segment ∈ segments, leadsOn segment = true)
    (names : parentSegment ∉ position) :
    followSteps (segments.map .ofSegment) position = some reached ↔
      (∀ segment ∈ segments, segment ≠ parentSegment → 0 ∉ segment) ∧
        Cancels (position.reverse ++ segments) reached.reverse := by
  -- The names before the segments are those of the position, the deepest one last.
  induction segments generalizing position with
  | nil =>
      have untouched : parentSegment ∉ position.reverse :=
        fun member => names (List.mem_reverse.1 member)
      rw [List.append_nil, List.map_nil, followSteps, Option.some_inj]
      constructor
      · rintro rfl
        exact ⟨fun _ member => absurd member List.not_mem_nil, .done untouched⟩
      · rintro ⟨_, cancels⟩
        exact (List.reverse_inj.1 (cancels.eq_of_names untouched)).symm
  | cons segment rest inductionHypothesis =>
      rw [List.forall_mem_cons] at counted
      rw [List.map_cons, List.forall_mem_cons]
      by_cases isParent : segment = parentSegment
      · subst isParent
        rw [ofSegment_parentSegment]
        cases position with
        | nil =>
            exact iff_of_false (Option.some_ne_none reached).symm
              fun follows => follows.2.not_parent_cons
        | cons name above =>
            have aboveNames : parentSegment ∉ above :=
              fun member => names (List.mem_cons_of_mem name member)
            rw [Cancels.cancel_last_iff names]
            refine (inductionHypothesis counted.2 aboveNames).trans ?_
            simp
      · rw [ofSegment_name counted.1 isParent, followSteps]
        split
        · rename_i nul
          exact iff_of_false (Option.some_ne_none reached).symm
            fun follows => follows.1.1 isParent nul
        · rename_i noNul
          refine (inductionHypothesis counted.2 (by simp [names, Ne.symm isParent])).trans ?_
          simp [noNul]

/-- The key of a path is what is left of its segments. -/
theorem blobKey?_eq_some_iff {path : List UInt8} {names : List PathName} :
    blobKey? path = some names ↔
      (∀ segment ∈ pathSegments path, segment ≠ parentSegment → 0 ∉ segment) ∧
        Cancels (pathSegments path) names ∧ names ≠ [] := by
  have counted : ∀ segment ∈ pathSegments path, leadsOn segment = true :=
    fun segment member => (List.mem_filter.1 member).2
  have followed : followSteps (pathSteps path) [] = some names.reverse ↔
      (∀ segment ∈ pathSegments path, segment ≠ parentSegment → 0 ∉ segment) ∧
        Cancels (pathSegments path) names := by
    have filtered : followSteps (pathSteps path) [] =
        followSteps ((pathSegments path).map .ofSegment) [] := followSteps_filter _ _
    rw [filtered, followSteps_eq_some_iff counted List.not_mem_nil, List.reverse_reverse]
    rfl
  rw [← and_assoc, ← followed, blobKey?]
  split
  · rename_i atRoot
    rw [atRoot, Option.some_inj]
    exact iff_of_false (Option.some_ne_none names).symm
      fun left => left.2 (List.reverse_eq_nil_iff.1 left.1.symm)
  · rename_i position notRoot reached
    rw [reached, Option.some_inj, Option.some_inj, List.reverse_eq_iff]
    refine ⟨fun same => ⟨same, ?_⟩, And.left⟩
    rintro rfl
    exact notRoot same
  · rename_i refused
    rw [refused]
    exact iff_of_false (Option.some_ne_none names).symm
      fun left => Option.some_ne_none _ left.1.symm

/-! ## Below a root -/

/-- The path that a path names below a root: an absolute path stays what it is. -/
def pathBelow (root path : List UInt8) : List UInt8 :=
  if isAbsolutePath path then
    path
  else if root = [] ∨ root.getLast? = some slash then
    root ++ path
  else
    root ++ slash :: path

theorem pathSteps_append_slash (first rest : List UInt8) :
    pathSteps (first ++ slash :: rest) = pathSteps first ++ pathSteps rest := by
  simp only [pathSteps, pieces_append_separator, List.map_append]

theorem spelledPlace_append (place : List PathName) (first rest : List PathStep) :
    SqliteAddress.spelledPlace place (first ++ rest) =
      SqliteAddress.spelledPlace (SqliteAddress.spelledPlace place first) rest := by
  induction first generalizing place with
  | nil =>
      rfl
  | cons step first inductionHypothesis =>
      cases step <;> exact inductionHypothesis _

theorem spelledPlace_down (place names : List PathName) :
    SqliteAddress.spelledPlace place (names.map .down) = place ++ names := by
  induction names generalizing place with
  | nil =>
      exact (List.append_nil place).symm
  | cons name rest inductionHypothesis =>
      rw [List.map_cons, SqliteAddress.spelledPlace, inductionHypothesis, List.append_assoc,
        List.singleton_append]

/-- A relative path leads on from where its root leads. -/
theorem spelledPlace_pathBelow {path : List UInt8} (relative : isAbsolutePath path = false)
    (root : List UInt8) (place : List PathName) :
    SqliteAddress.spelledPlace place (pathSteps (pathBelow root path)) =
      SqliteAddress.spelledPlace (SqliteAddress.spelledPlace place (pathSteps root))
        (pathSteps path) := by
  rw [pathBelow, relative, if_neg Bool.false_ne_true]
  split
  · rename_i noSlashNeeded
    rcases noSlashNeeded with rfl | endsWithSlash
    · rfl
    · obtain ⟨above, rfl⟩ := List.getLast?_eq_some_iff.1 endsWithSlash
      rw [List.append_assoc, List.singleton_append, pathSteps_append_slash,
        pathSteps_append_slash, spelledPlace_append, spelledPlace_append]
      rfl
  · rw [pathSteps_append_slash, spelledPlace_append]

theorem isAbsolutePath_pathBelow {path : List UInt8} (relative : isAbsolutePath path = false)
    (root : List UInt8) : isAbsolutePath (pathBelow root path) = isAbsolutePath root := by
  rw [pathBelow, relative, if_neg Bool.false_ne_true]
  cases root with
  | nil =>
      exact relative
  | cons first rest =>
      split <;> rfl

theorem isAbsolutePath_keyPath {names : List PathName} (nonempty : names ≠ [])
    (proper : ∀ name ∈ names, IsPathName name) : isAbsolutePath (keyPath names) = false := by
  cases names with
  | nil =>
      exact absurd rfl nonempty
  | cons name rest =>
      have first := proper name List.mem_cons_self
      cases name with
      | nil =>
          exact absurd rfl first.nonempty
      | cons byte bytes =>
          have notSlash : byte ≠ slash := fun same => first.noSlash (same ▸ List.mem_cons_self)
          simpa [isAbsolutePath, keyPath, joinPieces] using notSlash

/-- What a normal form guarantees. -/
structure IsNormalForm (normal : List UInt8) : Prop where
  relative : isAbsolutePath normal = false
  /-- Between the slashes stand names only. -/
  names : ∀ name ∈ pieces slash normal, IsPathName name
  /-- The names of the key are the ones between the slashes. -/
  key : blobKey? normal = some (pieces slash normal)
  again : normalPath? normal = some normal
  nonempty : pieces slash normal ≠ []
  /-- From where a root leads, the path leads down by its names. -/
  below : ∀ root, isAbsolutePath (pathBelow root normal) = isAbsolutePath root ∧
    ∀ place, SqliteAddress.spelledPlace place (pathSteps (pathBelow root normal)) =
      SqliteAddress.spelledPlace place (pathSteps root) ++ pieces slash normal

theorem isNormalForm_keyPath {names : List PathName} (nonempty : names ≠ [])
    (proper : ∀ name ∈ names, IsPathName name) : IsNormalForm (keyPath names) where
  relative := isAbsolutePath_keyPath nonempty proper
  names := by
    rwa [pieces_keyPath nonempty proper]
  key := by
    rw [pieces_keyPath nonempty proper, blobKey?_keyPath nonempty proper]
  again := by
    rw [normalPath?, blobKey?_keyPath nonempty proper, Option.map_some]
  nonempty := pieces_ne_nil slash _
  below := by
    have relative := isAbsolutePath_keyPath nonempty proper
    refine fun root => ⟨isAbsolutePath_pathBelow relative root, fun place => ?_⟩
    rw [spelledPlace_pathBelow relative, pathSteps_keyPath nonempty proper, spelledPlace_down,
      pieces_keyPath nonempty proper]

/-- Names that are left of whole segments are proper names. -/
theorem isPathName_of_cancels {path : List UInt8} {left : List PathName}
    (whole : ∀ segment ∈ pathSegments path, segment ≠ parentSegment → 0 ∉ segment)
    (cancels : Cancels (pathSegments path) left) : ∀ name ∈ left, IsPathName name := by
  intro name member
  obtain ⟨known, notParent⟩ := cancels.mem_left name member
  obtain ⟨piece, counted⟩ := List.mem_filter.1 known
  rw [leadsOn_iff] at counted
  exact ⟨counted.1, counted.2, notParent, separator_not_mem_pieces slash path name piece,
    whole name known notParent⟩

/-- A key consists of proper names. -/
theorem isPathName_of_blobKey? {path : List UInt8} {names : List PathName}
    (keyed : blobKey? path = some names) : names ≠ [] ∧ ∀ name ∈ names, IsPathName name := by
  obtain ⟨whole, cancels, nonempty⟩ := blobKey?_eq_some_iff.1 keyed
  exact ⟨nonempty, isPathName_of_cancels whole cancels⟩

/-- A path has a normal form exactly if it stays inside and names something there, and the
normal form spells the names that are left. -/
theorem normal_paths_stay_inside (path normal : List UInt8) :
    (normalPath? path = some normal ↔
      (∀ segment ∈ pathSegments path, segment ≠ parentSegment → 0 ∉ segment) ∧
        StaysWithin 0 (pathSegments path) ∧
        ∃ names, names ≠ [] ∧ Cancels (pathSegments path) names ∧ normal = keyPath names) ∧
      (StaysWithin 0 (pathSegments path) ↔ ∃! names, Cancels (pathSegments path) names) ∧
      (normalPath? path = some normal → IsNormalForm normal) := by
  have stays : (∃ names, Cancels (pathSegments path) names) ↔
      StaysWithin 0 (pathSegments path) := exists_cancels_iff List.not_mem_nil
  have spelled : normalPath? path = some normal ↔
      ∃ names, ((∀ segment ∈ pathSegments path, segment ≠ parentSegment → 0 ∉ segment) ∧
        Cancels (pathSegments path) names ∧ names ≠ []) ∧ keyPath names = normal := by
    rw [normalPath?, Option.map_eq_some_iff]
    exact exists_congr fun names => and_congr_left' blobKey?_eq_some_iff
  refine ⟨⟨fun isNormal => ?_, fun ⟨whole, _, names, nonempty, cancels, same⟩ => ?_⟩, ?_,
    fun isNormal => ?_⟩
  · obtain ⟨names, ⟨whole, cancels, nonempty⟩, same⟩ := spelled.1 isNormal
    exact ⟨whole, stays.1 ⟨names, cancels⟩, names, nonempty, cancels, same.symm⟩
  · exact spelled.2 ⟨names, ⟨whole, cancels, nonempty⟩, same.symm⟩
  · exact stays.symm.trans
      ⟨fun ⟨names, cancels⟩ => ⟨names, cancels, fun _ other => other.unique cancels⟩,
        ExistsUnique.exists⟩
  · obtain ⟨names, ⟨whole, cancels, nonempty⟩, rfl⟩ := spelled.1 isNormal
    exact isNormalForm_keyPath nonempty (isPathName_of_cancels whole cancels)

/-- Where `a/../.b//./c/` leads is spelled `.b/c`. -/
example :
    normalPath? [0x61, 0x2F, 0x2E, 0x2E, 0x2F, 0x2E, 0x62, 0x2F, 0x2F, 0x2E, 0x2F, 0x63, 0x2F] =
      some [0x2E, 0x62, 0x2F, 0x63] := by
  decide

end ContentVault
