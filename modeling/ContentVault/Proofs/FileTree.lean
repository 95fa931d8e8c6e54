import ContentVault.FileTree
import Mathlib.Data.List.Induction

/-!
# Trees in which every entry can be found

The operations on files keep a tree standing: what is in it stands in a directory, at a
path that the operating system takes.

* in a standing tree an entry is found exactly at the names that lead to it;
* where nothing is found, the way down tells why: it ends below a file, at a name that is
  too long or at the first name that is missing;
* creating directories, writing, renaming and removing files change the places that they
  are about and keep the tree standing.
-/

namespace ContentVault

namespace FileTree

theorem pathLength_append (above below : List PathName) :
    pathLength (above ++ below) = pathLength above + pathLength below := by
  induction above with
  | nil =>
      simp [pathLength]
  | cons name rest inductionHypothesis =>
      rw [pathLength] at inductionHypothesis ⊢
      rw [List.cons_append, List.foldr_cons, inductionHypothesis]
      rw [show pathLength (name :: rest) = name.length + 1 + pathLength rest from rfl]
      exact (Nat.add_assoc _ _ _).symm

/-- Names that the operating system takes for a path. -/
structure IsPlace (names : List PathName) : Prop where
  whole : ∀ name ∈ names, 0 ∉ name
  short : ∀ name ∈ names, name.length ≤ longestName
  fits : pathLength names ≤ longestPath

theorem IsPlace.above {above below : List PathName} (place : IsPlace (above ++ below)) :
    IsPlace above where
  whole := fun name member => place.whole name (List.mem_append_left below member)
  short := fun name member => place.short name (List.mem_append_left below member)
  fits := by
    have fits := place.fits
    rw [pathLength_append] at fits
    exact Nat.le_trans (Nat.le_add_right _ _) fits

theorem IsPlace.concat {above : List PathName} {name : PathName} (place : IsPlace above)
    (whole : ∀ other ∈ above ++ [name], 0 ∉ other) (short : name.length ≤ longestName)
    (fits : pathLength (above ++ [name]) ≤ longestPath) : IsPlace (above ++ [name]) where
  whole := whole
  short := by
    intro other member
    rcases List.mem_append.1 member with isAbove | isLast
    · exact place.short other isAbove
    · exact List.mem_singleton.1 isLast ▸ short
  fits := fits

/-- Everything in the tree stands in a directory, at a path that the operating system
takes. -/
structure IsStanding (tree : FileTree) : Prop where
  place : ∀ names, tree.entryAt? names ≠ none → IsPlace names
  inDirectory : ∀ names name, tree.entryAt? (names ++ [name]) ≠ none →
    tree.entryAt? names = some .directory

theorem isStanding_empty : empty.IsStanding where
  place := by
    rintro (_ | ⟨name, rest⟩) stands
    · exact ⟨nofun, nofun, Nat.zero_le _⟩
    · exact absurd rfl stands
  inDirectory := by
    intro names name stands
    rw [entryAt?, if_neg (List.concat_ne_nil name names)] at stands
    exact absurd rfl stands

section Places

variable {tree : FileTree} {names above below rest wanted : List PathName} {name : PathName}

@[simp] theorem entryAt?_nil (tree : FileTree) : tree.entryAt? [] = some .directory :=
  rfl

theorem entryAt?_put (notRoot : names ≠ []) (entry : FileEntry) :
    FileTree.entryAt? (tree.put names entry) wanted =
      if names = wanted then some entry else tree.entryAt? wanted := by
  rw [entryAt?, put, Table.get?_put, entryAt?]
  by_cases root : wanted = []
  · rw [if_pos root, if_pos root, if_neg (root ▸ notRoot)]
  · rw [if_neg root, if_neg root]

theorem entryAt?_remove (notRoot : names ≠ []) :
    FileTree.entryAt? (tree.remove names) wanted =
      if names = wanted then none else tree.entryAt? wanted := by
  rw [entryAt?, remove, Table.get?_erase, entryAt?]
  by_cases root : wanted = []
  · rw [if_pos root, if_pos root, if_neg (root ▸ notRoot)]
  · rw [if_neg root, if_neg root]

/-- What leads to an entry are directories. -/
theorem IsStanding.directory_above (standing : tree.IsStanding)
    (stands : tree.entryAt? (above ++ name :: below) ≠ none) :
    tree.entryAt? above = some .directory := by
  induction below using List.reverseRecOn with
  | nil =>
      exact standing.inDirectory above name stands
  | append_singleton below last inductionHypothesis =>
      rw [← List.cons_append, ← List.append_assoc] at stands
      refine inductionHypothesis ?_
      rw [standing.inDirectory _ _ stands]
      exact Option.some_ne_none _

theorem IsStanding.directory_of_prefix (standing : tree.IsStanding)
    (passed : above <+: names) (directory : tree.entryAt? names = some .directory) :
    tree.entryAt? above = some .directory := by
  obtain ⟨_ | ⟨name, below⟩, rfl⟩ := passed
  · rwa [List.append_nil] at directory
  · exact standing.directory_above (directory ▸ Option.some_ne_none _)

/-! ## Finding entries -/

/-- A walk passes everything that leads to an entry. -/
theorem IsStanding.walk_append (standing : tree.IsStanding) (reached : List PathName)
    (stands : tree.entryAt? (reached ++ above) ≠ none) (rest : List PathName) :
    tree.walk reached (above ++ rest) = tree.walk (reached ++ above) rest := by
  induction above generalizing reached with
  | nil =>
      rw [List.nil_append, List.append_nil]
  | cons name above inductionHypothesis =>
      have short : name.length ≤ longestName :=
        (standing.place _ stands).short name (by simp)
      have passed := standing.directory_above stands
      rw [List.append_cons] at stands ⊢
      rw [List.cons_append, walk, passed, ← inductionHypothesis _ stands]
      simp only [if_neg (Nat.not_lt.2 short)]

theorem find_of_fits (whole : ∀ name ∈ names, 0 ∉ name) (fits : pathLength names ≤ longestPath) :
    tree.find names = tree.walk [] names := by
  rw [find, if_neg, if_neg (Nat.not_lt.2 fits)]
  simpa using whole

theorem whole_of_find (tree : FileTree) (found : tree.find names ≠ .error .nulInName) :
    ∀ name ∈ names, 0 ∉ name := by
  intro name member holdsNul
  refine found ?_
  rw [find, if_pos]
  exact List.any_eq_true.2 ⟨name, member, List.contains_iff_mem.2 holdsNul⟩

theorem find_of_pathTooLong (whole : ∀ name ∈ names, 0 ∉ name)
    (long : longestPath < pathLength names) : tree.find names = .error .nameTooLong := by
  rw [find, if_neg, if_pos long]
  simpa using whole

theorem IsStanding.find_of_entry (standing : tree.IsStanding) {entry : FileEntry}
    (stands : tree.entryAt? names = some entry) : tree.find names = .ok entry := by
  have isSome : tree.entryAt? names ≠ none := stands ▸ Option.some_ne_none entry
  have place := standing.place names isSome
  have walked : tree.walk [] (names ++ []) = tree.walk names [] :=
    standing.walk_append [] isSome []
  rw [List.append_nil] at walked
  rw [find_of_fits place.whole place.fits, walked, walk, stands]

/-- Why a walk down to a place does not get there. -/
inductive Blocks (tree : FileTree) (names : List PathName) : FileFailure → Prop where
  | belowFile {above below : List PathName} {name : PathName} {content : ByteArray}
      (passes : names = above ++ name :: below)
      (file : tree.entryAt? above = some (.file content)) : Blocks tree names .notADirectory
  | longName {above below : List PathName} {name : PathName}
      (passes : names = above ++ name :: below)
      (directory : tree.entryAt? above = some .directory)
      (long : longestName < name.length) : Blocks tree names .nameTooLong
  | missing {above below : List PathName} {name : PathName}
      (passes : names = above ++ name :: below)
      (directory : tree.entryAt? above = some .directory)
      (short : name.length ≤ longestName)
      (absent : tree.entryAt? (above ++ [name]) = none) : Blocks tree names .missing

/-- What blocks the way to a place blocks the way to everything below it. -/
theorem Blocks.append {failure : FileFailure} (blocked : tree.Blocks names failure)
    (rest : List PathName) : tree.Blocks (names ++ rest) failure := by
  cases blocked with
  | belowFile passes file =>
      exact .belowFile (by rw [passes, List.append_assoc, List.cons_append]) file
  | longName passes directory long =>
      exact .longName (by rw [passes, List.append_assoc, List.cons_append]) directory long
  | missing passes directory short absent =>
      exact .missing (by rw [passes, List.append_assoc, List.cons_append]) directory short absent

/-- Where nothing stands, something blocks the way. -/
theorem exists_blocks (absent : tree.entryAt? names = none) :
    ∃ failure, tree.Blocks names failure := by
  induction names using List.reverseRecOn with
  | nil =>
      cases absent
  | append_singleton above name inductionHypothesis =>
      rcases stands : tree.entryAt? above with _ | _ | content
      · obtain ⟨failure, blocked⟩ := inductionHypothesis stands
        exact ⟨failure, blocked.append [name]⟩
      · by_cases short : name.length ≤ longestName
        · exact ⟨.missing, .missing rfl stands short absent⟩
        · exact ⟨.nameTooLong, .longName rfl stands (Nat.lt_of_not_le short)⟩
      · exact ⟨.notADirectory, .belowFile rfl stands⟩

theorem IsStanding.walk_of_blocks (standing : tree.IsStanding) {failure : FileFailure}
    (blocked : tree.Blocks names failure) : tree.walk [] names = .error failure := by
  cases blocked with
  | belowFile passes file =>
      rw [passes, standing.walk_append [] (by simp [file]), List.nil_append, walk, file]
  | longName passes directory long =>
      rw [passes, standing.walk_append [] (by simp [directory]), List.nil_append, walk, directory]
      simp only [if_pos long]
  | @missing above below name passes directory short absent =>
      rw [passes, standing.walk_append [] (by simp [directory]), List.nil_append, walk, directory]
      simp only [if_neg (Nat.not_lt.2 short)]
      cases below <;> rw [walk, absent]

theorem IsStanding.find_of_blocks (standing : tree.IsStanding) {failure : FileFailure}
    (whole : ∀ name ∈ names, 0 ∉ name) (fits : pathLength names ≤ longestPath)
    (blocked : tree.Blocks names failure) : tree.find names = .error failure := by
  rw [find_of_fits whole fits, standing.walk_of_blocks blocked]

/-- In a standing tree nothing is found but what stands there. -/
theorem IsStanding.find_eq_ok (standing : tree.IsStanding) {entry : FileEntry} :
    tree.find names = .ok entry ↔ tree.entryAt? names = some entry := by
  refine ⟨fun found => ?_, standing.find_of_entry⟩
  have whole : ∀ name ∈ names, 0 ∉ name := whole_of_find tree (by simp [found])
  rcases stands : tree.entryAt? names with _ | other
  · obtain ⟨failure, blocked⟩ := exists_blocks stands
    by_cases fits : pathLength names ≤ longestPath
    · rw [standing.find_of_blocks whole fits blocked] at found
      cases found
    · rw [find_of_pathTooLong whole (Nat.lt_of_not_le fits)] at found
      cases found
  · rw [standing.find_of_entry stands] at found
    cases found
    rfl

/-- In a standing tree a place is free if its directory is there. -/
theorem IsStanding.find_of_free (standing : tree.IsStanding)
    (place : IsPlace (names ++ [name])) (directory : tree.entryAt? names = some .directory)
    (absent : tree.entryAt? (names ++ [name]) = none) :
    tree.find (names ++ [name]) = .error .missing :=
  standing.find_of_blocks place.whole place.fits
    (.missing rfl directory (place.short name (by simp)) absent)

/-- What is missing from a directory that is there could stand in it. -/
theorem IsStanding.place_of_missing (standing : tree.IsStanding)
    (directory : tree.entryAt? above = some .directory)
    (missing : tree.find (above ++ [name]) = .error .missing) :
    IsPlace (above ++ [name]) ∧ tree.entryAt? (above ++ [name]) = none := by
  have whole : ∀ other ∈ above ++ [name], 0 ∉ other :=
    whole_of_find tree (by simp [missing])
  have fits : pathLength (above ++ [name]) ≤ longestPath := by
    by_contra long
    rw [find_of_pathTooLong whole (Nat.lt_of_not_le long)] at missing
    cases missing
  have short : name.length ≤ longestName := by
    by_contra long
    rw [standing.find_of_blocks whole fits (.longName rfl directory (Nat.lt_of_not_le long))]
      at missing
    cases missing
  have place : IsPlace (above ++ [name]) :=
    (standing.place above (by simp [directory])).concat whole short fits
  refine ⟨place, ?_⟩
  rcases stands : tree.entryAt? (above ++ [name]) with _ | entry
  · rfl
  · rw [standing.find_of_entry stands] at missing
    cases missing

/-! ## Changing entries -/

/-- Putting an entry where its directory is and where no directory is keeps a tree
standing. -/
theorem IsStanding.put (standing : tree.IsStanding) (place : IsPlace (names ++ [name]))
    (directory : tree.entryAt? names = some .directory)
    (notDirectory : tree.entryAt? (names ++ [name]) ≠ some .directory) (entry : FileEntry) :
    (tree.put (names ++ [name]) entry).IsStanding where
  place := by
    intro other stands
    rw [entryAt?_put (List.concat_ne_nil name names)] at stands
    split at stands
    · rename_i same
      exact same ▸ place
    · exact standing.place other stands
  inDirectory := by
    intro other last stands
    rw [entryAt?_put (List.concat_ne_nil name names)] at stands ⊢
    have stood : tree.entryAt? other = some .directory := by
      split at stands
      · rename_i same
        rw [(List.append_inj' same rfl).1] at directory
        exact directory
      · exact standing.inDirectory other last stands
    rw [if_neg, stood]
    rintro rfl
    exact notDirectory stood

/-- Taking a file away keeps a tree standing. -/
theorem IsStanding.remove (standing : tree.IsStanding) {content : ByteArray}
    (file : tree.entryAt? names = some (.file content)) : (tree.remove names).IsStanding := by
  have notRoot : names ≠ [] := by
    rintro rfl
    cases file
  refine ⟨fun other stands => ?_, fun other last stands => ?_⟩
  · rw [entryAt?_remove notRoot] at stands
    split at stands
    · exact absurd rfl stands
    · exact standing.place other stands
  · rw [entryAt?_remove notRoot] at stands ⊢
    split at stands
    · exact absurd rfl stands
    · have stood := standing.inDirectory other last stands
      rw [if_neg, stood]
      rintro rfl
      rw [stood] at file
      cases file

/-! ## Creating directories -/

/-- A standing tree that may have more directories than another on the way to a place. -/
structure GrowsTowards (tree : FileTree) (target : List PathName) (after : FileTree) : Prop where
  standing : after.IsStanding
  grown : ∀ wanted, after.entryAt? wanted = tree.entryAt? wanted ∨
    tree.entryAt? wanted = none ∧ after.entryAt? wanted = some .directory ∧ wanted <+: target

theorem IsStanding.growsTowards_self (standing : tree.IsStanding) :
    tree.GrowsTowards names tree :=
  ⟨standing, fun _ => .inl rfl⟩

/-- A directory put on the way is one more. -/
theorem GrowsTowards.of_put {after : FileTree} (absent : tree.entryAt? names = none)
    (onTheWay : names <+: wanted)
    (grows : (tree.put names .directory).GrowsTowards wanted after) :
    tree.GrowsTowards wanted after := by
  have notRoot : names ≠ [] := by
    rintro rfl
    cases absent
  refine ⟨grows.standing, fun other => ?_⟩
  have grown := grows.grown other
  rw [entryAt?_put notRoot] at grown
  split at grown
  · rename_i same
    subst same
    rcases grown with same | ⟨stands, _, _⟩
    · exact .inr ⟨absent, same, onTheWay⟩
    · cases stands
  · exact grown

theorem GrowsTowards.directory {after : FileTree} (grows : tree.GrowsTowards wanted after)
    (directory : tree.entryAt? names = some .directory) :
    after.entryAt? names = some .directory := by
  rcases grows.grown names with same | ⟨absent, _, _⟩
  · rw [same, directory]
  · rw [directory] at absent
    cases absent

theorem concat_not_prefix (above : List PathName) (name : PathName) :
    ¬above ++ [name] <+: above :=
  fun onTheWay => by
    have shorter := onTheWay.length_le
    rw [List.length_append] at shorter
    exact Nat.not_succ_le_self _ shorter

/-- What stands in a directory is not touched by the making of the way to it. -/
theorem GrowsTowards.entryAt?_concat {after : FileTree} (grows : tree.GrowsTowards above after)
    (name : PathName) : after.entryAt? (above ++ [name]) = tree.entryAt? (above ++ [name]) :=
  (grows.grown _).resolve_right fun ⟨_, _, onTheWay⟩ => concat_not_prefix above name onTheWay

theorem IsStanding.createBelow (standing : tree.IsStanding) {reached : List PathName}
    (directory : tree.entryAt? reached = some .directory)
    (whole : ∀ name ∈ reached ++ rest, 0 ∉ name)
    (fits : pathLength (reached ++ rest) ≤ longestPath) :
    tree.GrowsTowards (reached ++ rest) (tree.createBelow reached rest).2 ∧
      ((tree.createBelow reached rest).1 = .ok () →
        FileTree.entryAt? (tree.createBelow reached rest).2 (reached ++ rest) =
          some .directory) := by
  induction rest generalizing tree reached with
  | nil =>
      rw [List.append_nil]
      exact ⟨standing.growsTowards_self, fun _ => directory⟩
  | cons name rest inductionHypothesis =>
      rw [FileTree.createBelow]
      rw [List.append_cons] at whole fits ⊢
      rcases stands : tree.entryAt? (reached ++ [name]) with _ | _ | content
      · by_cases long : longestName < name.length
        · simp only [if_pos long]
          exact ⟨standing.growsTowards_self, nofun⟩
        · simp only [if_neg long]
          have place : IsPlace (reached ++ [name]) :=
            (standing.place reached (by simp [directory])).concat
              (fun other member => whole other (List.mem_append_left rest member))
              (Nat.le_of_not_lt long)
              (Nat.le_trans (by rw [pathLength_append _ rest]; exact Nat.le_add_right _ _) fits)
          obtain ⟨grows, reaches⟩ := inductionHypothesis
            (standing.put place directory (by simp [stands]) .directory)
            (by rw [entryAt?_put (List.concat_ne_nil name reached), if_pos rfl]) whole fits
          exact ⟨.of_put stands (List.prefix_append _ rest) grows, reaches⟩
      · exact inductionHypothesis standing stands whole fits
      · exact ⟨standing.growsTowards_self, nofun⟩

/-- Nothing is in the way of the directories down to a place if no file stands there or
above. -/
theorem createBelow_eq_ok {reached : List PathName}
    (short : ∀ name ∈ rest, name.length ≤ longestName)
    (clear : ∀ above, above <+: reached ++ rest → ∀ content,
      tree.entryAt? above ≠ some (.file content)) :
    (tree.createBelow reached rest).1 = .ok () := by
  induction rest generalizing tree reached with
  | nil =>
      rfl
  | cons name rest inductionHypothesis =>
      have shortBelow : ∀ other ∈ rest, other.length ≤ longestName :=
        fun other member => short other (List.mem_cons_of_mem name member)
      rw [createBelow]
      rw [List.append_cons] at clear
      rcases stands : tree.entryAt? (reached ++ [name]) with _ | _ | content
      · simp only [if_neg (Nat.not_lt.2 (short name List.mem_cons_self))]
        refine inductionHypothesis shortBelow fun above onTheWay content => ?_
        rw [entryAt?_put (List.concat_ne_nil name reached)]
        split
        · nofun
        · exact clear above onTheWay content
      · exact inductionHypothesis shortBelow clear
      · exact absurd stands (clear _ (List.prefix_append _ rest) content)

theorem IsStanding.createDirectories (standing : tree.IsStanding) (names : List PathName) :
    tree.GrowsTowards names (tree.createDirectories names).2 ∧
      ((tree.createDirectories names).1 = .ok () →
        FileTree.entryAt? (tree.createDirectories names).2 names = some .directory) := by
  unfold FileTree.createDirectories
  split
  · exact ⟨standing.growsTowards_self, nofun⟩
  · rename_i whole
    split
    · exact ⟨standing.growsTowards_self, nofun⟩
    · rename_i fits
      have wholeNames : ∀ name ∈ names, 0 ∉ name := by simpa using whole
      exact standing.createBelow (entryAt?_nil tree) wholeNames (Nat.le_of_not_lt fits)

theorem createDirectories_eq_ok (place : IsPlace names)
    (clear : ∀ above, above <+: names → ∀ content, tree.entryAt? above ≠ some (.file content)) :
    (tree.createDirectories names).1 = .ok () := by
  rw [createDirectories, if_neg (by simpa using place.whole), if_neg (Nat.not_lt.2 place.fits)]
  exact createBelow_eq_ok place.short clear

/-! ## Files -/

/-- A file can be written where its directory is and no directory stands. -/
theorem IsStanding.writeFile_eq_ok (standing : tree.IsStanding) (content : ByteArray)
    {after : FileTree} :
    tree.writeFile (above ++ [name]) content = .ok after ↔
      IsPlace (above ++ [name]) ∧ tree.entryAt? above = some .directory ∧
        tree.entryAt? (above ++ [name]) ≠ some .directory ∧
        after = tree.put (above ++ [name]) (.file content) := by
  constructor
  · intro written
    rw [writeFile, List.dropLast_concat] at written
    split at written
    · cases written
    · rename_i old found
      rw [standing.find_eq_ok] at found
      have stands : tree.entryAt? (above ++ [name]) ≠ none := found ▸ Option.some_ne_none _
      exact ⟨standing.place _ stands, standing.inDirectory above name stands, by simp [found],
        (Except.ok.inj written).symm⟩
    · rename_i missing
      split at written
      · rename_i directory
        rw [standing.find_eq_ok] at directory
        obtain ⟨place, absent⟩ := standing.place_of_missing directory missing
        exact ⟨place, directory, by simp [absent], (Except.ok.inj written).symm⟩
      · cases written
      · cases written
    · cases written
  · rintro ⟨place, directory, notDirectory, rfl⟩
    rw [writeFile, List.dropLast_concat]
    rcases stands : tree.entryAt? (above ++ [name]) with _ | _ | old
    · rw [standing.find_of_free place directory stands]
      simp only [standing.find_of_entry directory]
    · exact absurd stands notDirectory
    · rw [standing.find_of_entry stands]

/-- A file can be renamed within its directory where no directory stands. -/
theorem IsStanding.renameFile_eq_ok (standing : tree.IsStanding) {after : FileTree}
    {hidden : PathName} :
    tree.renameFile (above ++ [hidden]) (above ++ [name]) = .ok after ↔
      ∃ content, tree.entryAt? (above ++ [hidden]) = some (.file content) ∧
        IsPlace (above ++ [name]) ∧ tree.entryAt? (above ++ [name]) ≠ some .directory ∧
        after = (tree.remove (above ++ [hidden])).put (above ++ [name]) (.file content) := by
  constructor
  · intro renamed
    rw [renameFile] at renamed
    split at renamed
    · rename_i content found
      rw [standing.find_eq_ok] at found
      have directory := standing.inDirectory above hidden (by simp [found])
      split at renamed
      · cases renamed
      · rename_i old replaced
        rw [standing.find_eq_ok] at replaced
        exact ⟨content, found, standing.place _ (by simp [replaced]), by simp [replaced],
          (Except.ok.inj renamed).symm⟩
      · rename_i missing
        obtain ⟨place, absent⟩ := standing.place_of_missing directory missing
        exact ⟨content, found, place, by simp [absent], (Except.ok.inj renamed).symm⟩
      · cases renamed
    · cases renamed
    · cases renamed
  · rintro ⟨content, found, place, notDirectory, rfl⟩
    have directory := standing.inDirectory above hidden (by simp [found])
    rw [renameFile, standing.find_of_entry found]
    rcases stands : tree.entryAt? (above ++ [name]) with _ | _ | old
    · simp only [standing.find_of_free place directory stands]
    · exact absurd stands notDirectory
    · simp only [standing.find_of_entry stands]

theorem IsStanding.removeFile_eq_ok (standing : tree.IsStanding) {after : FileTree} :
    tree.removeFile names = .ok after ↔
      ∃ content, tree.entryAt? names = some (.file content) ∧ after = tree.remove names := by
  constructor
  · intro removed
    rw [removeFile] at removed
    split at removed
    · rename_i content found
      exact ⟨content, standing.find_eq_ok.1 found, (Except.ok.inj removed).symm⟩
    · cases removed
    · cases removed
  · rintro ⟨content, found, rfl⟩
    rw [removeFile, standing.find_of_entry found]

end Places

end FileTree

end ContentVault
