import ContentVault.Proofs.Vault.LineChanges
import Mathlib.Algebra.BigOperators.Ring.Finset
import Mathlib.Algebra.Order.BigOperators.Group.Finset
import Mathlib.Tactic.Ring

/-!
# Changed lines as balances

Each line of the earlier text weighs minus one and each line of the later text one; what is left
of a line says how often it was gained or lost.

* lines end at a line feed, with or without a carriage return before it, or at the end of the
  text;
* balances that are visited in any order add up to the size of the difference of two multisets.
-/

namespace ContentVault

/-! ## Lines of a text -/

/-- A text is cut into lines. What stands before a line feed is a line without its carriage
return, and what stands behind the last line feed is a line if it is not empty. -/
inductive CutIntoLines : List Char → List (List Char) → Prop where
  | empty : CutIntoLines [] []
  | unended {line : List Char} (nonempty : line ≠ []) (unbroken : '\n' ∉ line) :
      CutIntoLines line [line]
  | lineFeed {line rest : List Char} {lines : List (List Char)} (unbroken : '\n' ∉ line)
      (unreturned : line.getLast? ≠ some '\r') (others : CutIntoLines rest lines) :
      CutIntoLines (line ++ '\n' :: rest) (line :: lines)
  | carriageReturn {line rest : List Char} {lines : List (List Char)} (unbroken : '\n' ∉ line)
      (others : CutIntoLines rest lines) :
      CutIntoLines (line ++ '\r' :: '\n' :: rest) (line :: lines)

section Lines

variable {line text rest : List Char} {done cut : List (List Char)}

theorem linesOnto_lineFeed :
    linesOnto done line ('\n' :: rest) = linesOnto (closeLine line :: done) [] rest := by
  rw [linesOnto]

theorem linesOnto_cons {character : Char} (other : character ≠ '\n') :
    linesOnto done line (character :: rest) = linesOnto done (character :: line) rest := by
  rw [linesOnto]
  exact other

theorem linesOnto_eq (done : List (List Char)) (line text : List Char) :
    linesOnto done line text = done.reverse ++ linesOnto [] line text := by
  induction text generalizing done line with
  | nil =>
      by_cases blank : line = [] <;> simp [linesOnto, blank]
  | cons character rest inductionHypothesis =>
      by_cases feed : character = '\n'
      · subst feed
        rw [linesOnto_lineFeed, linesOnto_lineFeed, inductionHypothesis,
          inductionHypothesis [closeLine line]]
        simp
      · rw [linesOnto_cons feed, linesOnto_cons feed, inductionHypothesis]

theorem linesOnto_append (unbroken : '\n' ∉ text) :
    linesOnto done line (text ++ rest) = linesOnto done (text.reverse ++ line) rest := by
  induction text generalizing line with
  | nil => rfl
  | cons character others inductionHypothesis =>
      rw [List.mem_cons, not_or] at unbroken
      rw [List.cons_append, linesOnto_cons (Ne.symm unbroken.1), inductionHypothesis unbroken.2]
      simp

theorem closeLine_reverse (unreturned : line.getLast? ≠ some '\r') :
    closeLine line.reverse = line := by
  rcases shape : line.reverse with _ | ⟨last, others⟩
  · rw [List.reverse_eq_nil_iff] at shape
    rw [shape]
    rfl
  · have isLast : line.getLast? = some last := by
      rw [← List.head?_reverse, shape, List.head?_cons]
    have other : last ≠ '\r' := fun same => unreturned (same ▸ isLast)
    rw [closeLine, ← shape, List.reverse_reverse]
    exact fun _ same => other (List.cons.inj same).1

theorem cutIntoLines_linesOnto (unbroken : '\n' ∉ line) (text : List Char) :
    CutIntoLines (line.reverse ++ text) (linesOnto [] line text) := by
  -- The induction is on what is still to be read; `line` is the open line, newest first.
  induction text generalizing line with
  | nil =>
      by_cases blank : line = []
      · subst blank
        exact .empty
      · simp only [linesOnto, blank, if_false, List.reverse_singleton, List.append_nil]
        exact .unended (by simpa using blank) (by simpa using unbroken)
  | cons character rest inductionHypothesis =>
      by_cases feed : character = '\n'
      · subst feed
        have others : CutIntoLines rest (linesOnto [] [] rest) :=
          inductionHypothesis List.not_mem_nil
        rw [linesOnto_lineFeed, linesOnto_eq, List.reverse_singleton, List.singleton_append]
        by_cases returned : line.head? = some '\r'
        · -- The carriage return belongs to the end of the line.
          obtain ⟨before, rfl⟩ := List.head?_eq_some_iff.1 returned
          have unbrokenBefore : '\n' ∉ before.reverse := by
            simpa using fun member => unbroken (List.mem_cons_of_mem _ member)
          rw [closeLine, List.reverse_cons, List.append_assoc]
          exact .carriageReturn unbrokenBefore others
        · have unreturned : line.reverse.getLast? ≠ some '\r' := by simpa using returned
          have closed := closeLine_reverse unreturned
          rw [List.reverse_reverse] at closed
          rw [closed]
          exact .lineFeed (by simpa using unbroken) unreturned others
      · rw [linesOnto_cons feed]
        have stillUnbroken : '\n' ∉ character :: line := by simp [unbroken, Ne.symm feed]
        simpa using inductionHypothesis stillUnbroken

theorem linesOnto_of_cutIntoLines (isCut : CutIntoLines text cut) :
    linesOnto [] [] text = cut := by
  induction isCut with
  | empty => rfl
  | @unended line nonempty unbroken =>
      rw [← List.append_nil line, linesOnto_append unbroken]
      simp [linesOnto, nonempty]
  | lineFeed unbroken unreturned _ inductionHypothesis =>
      rw [linesOnto_append unbroken, linesOnto_lineFeed, List.append_nil,
        closeLine_reverse unreturned, linesOnto_eq, inductionHypothesis]
      rfl
  | @carriageReturn line rest lines unbroken _ inductionHypothesis =>
      rw [linesOnto_append unbroken, linesOnto_cons (by decide), linesOnto_lineFeed,
        List.append_nil, linesOnto_eq, inductionHypothesis, closeLine, List.reverse_reverse]
      rfl

/-- A text has one cut into lines, and it is found. -/
theorem cutIntoLines_iff {text : String} :
    CutIntoLines text.toList cut ↔ linesOf text = cut.map String.ofList := by
  have injective : Function.Injective String.ofList := fun first second same => by
    simpa using congrArg String.toList same
  rw [linesOf, (List.map_injective_iff.2 injective).eq_iff]
  constructor
  · exact linesOnto_of_cutIntoLines
  · intro found
    exact found ▸ cutIntoLines_linesOnto List.not_mem_nil text.toList

/-- Only a line feed ends a line, and it takes one carriage return with it. -/
example : linesOf "a\r\r\n\nb\r" = ["a\r", "", "b\r"] := by
  decide +kernel

end Lines

/-! ## Balances -/

/-- What lines weigh. -/
abbrev LineBalances := Std.HashMap String Int

/-- Give each of some lines the same weight. -/
def weighLines (weight : Int) : LineBalances → List String → LineBalances
  | balances, [] => balances
  | balances, line :: rest =>
      weighLines weight (balances.insert line (balances.getD line 0 + weight)) rest

/-- What is left of each line when the earlier lines are weighed against the later ones. -/
def lineBalances (before after : List String) : LineBalances :=
  weighLines 1 (weighLines (-1) ∅ before) after

/-- Count a line by its balance. -/
def LineChanges.settle (changes : LineChanges) (balance : Int) : LineChanges :=
  if 0 < balance then { changes with added := changes.added + balance.natAbs }
  else { changes with removed := changes.removed + balance.natAbs }

section Balances

variable {balances : LineBalances} {line : String} {before after : List String} {weight : Int}

theorem getD_weighLines (lines : List String) :
    (weighLines weight balances lines).getD line 0 =
      balances.getD line 0 + weight * lines.count line := by
  induction lines generalizing balances with
  | nil => simp [weighLines]
  | cons first rest inductionHypothesis =>
      rw [weighLines, inductionHypothesis, Std.HashMap.getD_insert, List.count_cons]
      by_cases same : first = line
      · simp only [same, beq_self_eq_true, if_true, Nat.cast_add, Nat.cast_one]
        ring
      · simp [beq_eq_false_iff_ne.2 same]

theorem mem_weighLines (lines : List String) :
    line ∈ weighLines weight balances lines ↔ line ∈ lines ∨ line ∈ balances := by
  induction lines generalizing balances with
  | nil => simp [weighLines]
  | cons first rest inductionHypothesis =>
      rw [weighLines, inductionHypothesis, Std.HashMap.mem_insert, List.mem_cons, beq_iff_eq,
        @eq_comm _ first]
      tauto

theorem getD_lineBalances :
    (lineBalances before after).getD line 0 = (after.count line : Int) - before.count line := by
  rw [lineBalances, getD_weighLines, getD_weighLines, Std.HashMap.getD_empty]
  ring

theorem mem_lineBalances : line ∈ lineBalances before after ↔ line ∈ before ++ after := by
  rw [lineBalances, mem_weighLines, mem_weighLines, List.mem_append, or_comm]
  simp

/-- A sum over all balances is one over the distinct lines. -/
theorem sum_lineBalances (share : Int → Nat) :
    ((lineBalances before after).toList.map fun entry => share entry.2).sum =
      ∑ line ∈ (before ++ after).toFinset,
        share ((after.count line : Int) - before.count line) := by
  have distinct : (lineBalances before after).keys.Nodup := Std.HashMap.nodup_keys
  have sameLines : (lineBalances before after).keys.toFinset = (before ++ after).toFinset := by
    ext line
    rw [List.mem_toFinset, Std.HashMap.mem_keys, mem_lineBalances, List.mem_toFinset]
  have shares : (lineBalances before after).toList.map (fun entry => share entry.2) =
      (lineBalances before after).keys.map fun line =>
        share ((after.count line : Int) - before.count line) := by
    rw [← Std.HashMap.map_fst_toList_eq_keys, List.map_map]
    refine List.map_congr_left fun entry member => ?_
    have found := Std.HashMap.mem_toList_iff_getElem?_eq_some.1 member
    rw [Function.comp_apply, ← getD_lineBalances, Std.HashMap.getD_eq_getD_getElem?, found]
    rfl
  rw [shares, ← List.sum_toFinset _ distinct, sameLines]

theorem foldl_settle (visited : List (String × Int)) (changes : LineChanges) :
    visited.foldl (fun counted entry => counted.settle entry.2) changes =
      ⟨changes.added + (visited.map fun entry => entry.2.toNat).sum,
        changes.removed + (visited.map fun entry => (-entry.2).toNat).sum⟩ := by
  induction visited generalizing changes with
  | nil => simp
  | cons entry rest inductionHypothesis =>
      rw [List.foldl_cons, inductionHypothesis, LineChanges.settle, List.map_cons,
        List.map_cons, List.sum_cons, List.sum_cons]
      by_cases gained : 0 < entry.2
      · simp only [gained, if_true, LineChanges.mk.injEq]
        omega
      · simp only [gained, if_false, LineChanges.mk.injEq]
        omega

/-- The size of a difference counts each distinct line as often as it is in excess. -/
theorem card_sub_eq_sum (first second : List String) (lines : Finset String)
    (all : ∀ line ∈ first, line ∈ lines) :
    ((first : Multiset String) - (second : Multiset String)).card =
      ∑ line ∈ lines, (first.count line - second.count line) := by
  have inside : ∀ line ∈ (first : Multiset String) - (second : Multiset String), line ∈ lines :=
    fun line member => all line (Multiset.mem_coe.1 (Multiset.mem_of_le tsub_le_self member))
  rw [← Multiset.sum_count_eq_card inside]
  simp only [Multiset.count_sub, Multiset.coe_count]

end Balances

/-! ## Changed lines -/

section Changes

variable (before after : String)

theorem lineChanges_eq_sums :
    lineChanges before after =
      ⟨∑ line ∈ (linesOf before ++ linesOf after).toFinset,
          ((linesOf after).count line - (linesOf before).count line),
        ∑ line ∈ (linesOf before ++ linesOf after).toFinset,
          ((linesOf before).count line - (linesOf after).count line)⟩ := by
  have inAfter : ∀ line ∈ linesOf after, line ∈ (linesOf before ++ linesOf after).toFinset :=
    fun line member => by simp [member]
  have inBefore : ∀ line ∈ linesOf before, line ∈ (linesOf before ++ linesOf after).toFinset :=
    fun line member => by simp [member]
  rw [lineChanges_eq, card_sub_eq_sum _ _ _ inAfter, card_sub_eq_sum _ _ _ inBefore]

variable {before after}

/-- Balances tell the changes in whatever order they are visited. -/
theorem foldl_settle_lineBalances {visited : List (String × Int)}
    (listed : visited.Perm (lineBalances (linesOf before) (linesOf after)).toList) :
    visited.foldl (fun counted entry => counted.settle entry.2) ⟨0, 0⟩ =
      lineChanges before after := by
  rw [foldl_settle, (listed.map _).sum_eq, (listed.map _).sum_eq, sum_lineBalances,
    sum_lineBalances fun balance => (-balance).toNat, lineChanges_eq_sums]
  simp only [Int.toNat_sub, neg_sub, Nat.zero_add]

theorem lineChanges_of_perm {otherBefore otherAfter : String}
    (sameBefore : (linesOf otherBefore).Perm (linesOf before))
    (sameAfter : (linesOf otherAfter).Perm (linesOf after)) :
    lineChanges otherBefore otherAfter = lineChanges before after := by
  rw [lineChanges_eq, lineChanges_eq, Multiset.coe_eq_coe.2 sameBefore,
    Multiset.coe_eq_coe.2 sameAfter]

theorem added_add_length (before after : String) :
    (lineChanges before after).added + (linesOf before).length =
      (lineChanges before after).removed + (linesOf after).length := by
  have gained := congrArg Multiset.card
    (Multiset.sub_add_inter (linesOf after : Multiset String) (linesOf before))
  have lost := congrArg Multiset.card
    (Multiset.sub_add_inter (linesOf before : Multiset String) (linesOf after))
  rw [Multiset.card_add, Multiset.coe_card] at gained lost
  rw [Multiset.inter_comm] at lost
  rw [lineChanges_eq]
  dsimp only
  omega

theorem lineChanges_eq_zero_iff :
    lineChanges before after = ⟨0, 0⟩ ↔ (linesOf before).Perm (linesOf after) := by
  rw [lineChanges_eq, LineChanges.mk.injEq, Multiset.card_eq_zero, Multiset.card_eq_zero,
    tsub_eq_zero_iff_le, tsub_eq_zero_iff_le, ← Multiset.coe_eq_coe]
  exact ⟨fun both => le_antisymm both.2 both.1, fun same => ⟨same.ge, same.le⟩⟩

theorem added_le_add (before between after : String) :
    (lineChanges before after).added ≤
      (lineChanges before between).added + (lineChanges between after).added := by
  have onTheWay : (linesOf after : Multiset String) - linesOf before ≤
      linesOf after - linesOf between + (linesOf between - linesOf before) :=
    tsub_le_tsub_add_tsub
  have counted := Multiset.card_le_card onTheWay
  rw [Multiset.card_add, add_comm] at counted
  rw [lineChanges_eq, lineChanges_eq, lineChanges_eq]
  exact counted

/-- A text gains each line as often as it has it more often than before, and loses each as often
as it has it less often; the lines are the pieces that end at line feeds, with or without
carriage returns, and the order in which balances are visited does not matter. So only the
multisets of lines matter, the number of lines grows by what is gained without what is lost,
nothing is gained or lost if and only if the lines were only reordered, and no text in between
saves a gain. -/
theorem line_changes_are_differences (before after : String) :
    (∀ cut, CutIntoLines before.toList cut ↔ linesOf before = cut.map String.ofList) ∧
      (∀ cut, CutIntoLines after.toList cut ↔ linesOf after = cut.map String.ofList) ∧
      ((lineChanges before after).added : Int) =
        ∑ line ∈ (linesOf before ++ linesOf after).toFinset,
          max 0 (((linesOf after).count line : Int) - (linesOf before).count line) ∧
      ((lineChanges before after).removed : Int) =
        ∑ line ∈ (linesOf before ++ linesOf after).toFinset,
          max 0 (((linesOf before).count line : Int) - (linesOf after).count line) ∧
      (∀ visited : List (String × Int),
        visited.Perm (lineBalances (linesOf before) (linesOf after)).toList →
        visited.foldl (fun counted entry => counted.settle entry.2) ⟨0, 0⟩ =
          lineChanges before after) ∧
      (∀ otherBefore otherAfter, (linesOf otherBefore).Perm (linesOf before) →
        (linesOf otherAfter).Perm (linesOf after) →
          lineChanges otherBefore otherAfter = lineChanges before after) ∧
      ((lineChanges before after).added : Int) - (lineChanges before after).removed =
        (linesOf after).length - (linesOf before).length ∧
      (lineChanges before after = ⟨0, 0⟩ ↔ (linesOf before).Perm (linesOf after)) ∧
      ∀ between, (lineChanges before after).added ≤
        (lineChanges before between).added + (lineChanges between after).added := by
  have excess : ∀ first second : Nat, ((first - second : Nat) : Int) =
      max 0 ((first : Int) - second) := by
    intro first second
    omega
  refine ⟨fun _ => cutIntoLines_iff, fun _ => cutIntoLines_iff, ?_, ?_,
    fun _ => foldl_settle_lineBalances, fun _ _ => lineChanges_of_perm, ?_,
    lineChanges_eq_zero_iff, fun between => added_le_add before between after⟩
  · rw [lineChanges_eq_sums, Nat.cast_sum]
    simp only [excess]
  · rw [lineChanges_eq_sums, Nat.cast_sum]
    simp only [excess]
  · have balanced := added_add_length before after
    omega

end Changes

end ContentVault
