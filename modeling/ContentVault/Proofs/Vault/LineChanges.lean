import ContentVault.Vault.LineChanges
import Mathlib.Data.Multiset.OrderedMonoid
import Mathlib.Algebra.Order.Sub.Basic
import Std.Data.HashMap.Lemmas

/-!
# Lines that one text has more often

The lines that a text gained are those of the difference of two multisets, whatever the order
of the lines.

* counting lines adds the multiplicities of a multiset;
* matching takes an equal line away wherever there is one, and so leaves the difference;
* a text gains and loses nothing against itself, and the other way round what was gained is
  lost.
-/

namespace ContentVault

/-- Counts that are the multiplicities of the lines of a multiset. -/
def LineCounts.AreOf (counts : LineCounts) (lines : Multiset String) : Prop :=
  ∀ line, counts.getD line 0 = lines.count line

theorem LineCounts.areOf_empty : LineCounts.AreOf ∅ 0 := by
  intro line
  rw [Std.HashMap.getD_empty, Multiset.count_zero]

/-- The counts after one line has a new count. -/
theorem LineCounts.AreOf.insert {counts : LineCounts} {lines others : Multiset String}
    {line : String} {count : Nat} (areOf : counts.AreOf lines)
    (counted : others.count line = count)
    (kept : ∀ other, other ≠ line → others.count other = lines.count other) :
    LineCounts.AreOf (counts.insert line count) others := by
  intro other
  rw [Std.HashMap.getD_insert]
  by_cases same : line = other
  · rw [if_pos (beq_iff_eq.2 same), ← same, counted]
  · rw [if_neg (mt beq_iff_eq.1 same), areOf, kept other (Ne.symm same)]

theorem areOf_countLines {counts : LineCounts} {lines : Multiset String}
    (areOf : counts.AreOf lines) (more : List String) :
    (countLines counts more).AreOf (lines + more) := by
  induction more generalizing counts lines with
  | nil =>
      rw [Multiset.coe_nil, add_zero]
      exact areOf
  | cons line rest inductionHypothesis =>
      rw [← Multiset.cons_coe, ← Multiset.singleton_add, ← add_assoc, countLines]
      refine inductionHypothesis (areOf.insert ?_ ?_)
      · rw [Multiset.count_add, Multiset.count_singleton_self, areOf line]
      · intro other different
        rw [Multiset.count_add, Multiset.count_singleton, if_neg different, Nat.add_zero]

theorem cons_sub_of_not_mem {line : String} {lines wanted : Multiset String}
    (absent : line ∉ lines) : line ::ₘ wanted - lines = line ::ₘ (wanted - lines) := by
  ext other
  rw [Multiset.count_sub, Multiset.count_cons, Multiset.count_cons, Multiset.count_sub]
  by_cases same : other = line
  · rw [same, Multiset.count_eq_zero.2 absent]
    omega
  · rw [if_neg same, Nat.add_zero, Nat.add_zero]

/-- Matching leaves the lines of the difference. -/
theorem unmatchedLines_eq {available : LineCounts} {lines : Multiset String}
    (areOf : available.AreOf lines) (left : Nat) (wanted : List String) :
    unmatchedLines available left wanted = left + ((wanted : Multiset String) - lines).card := by
  induction wanted generalizing available lines left with
  | nil =>
      rw [unmatchedLines, Multiset.coe_nil, Multiset.zero_sub, Multiset.card_zero, Nat.add_zero]
  | cons line rest inductionHypothesis =>
      rw [unmatchedLines, ← Multiset.cons_coe]
      rcases counted : available.getD line 0 with _ | count
      · have absent : line ∉ lines := by
          rw [← Multiset.count_eq_zero, ← areOf line, counted]
        rw [cons_sub_of_not_mem absent, Multiset.card_cons]
        dsimp only
        rw [inductionHypothesis areOf]
        omega
      · have present : line ∈ lines := by
          rw [← Multiset.count_pos, ← areOf line, counted]
          exact Nat.succ_pos count
        have matched : line ::ₘ (rest : Multiset String) - lines =
            (rest : Multiset String) - lines.erase line := by
          conv_lhs => rw [← Multiset.cons_erase present]
          rw [Multiset.sub_cons, Multiset.erase_cons_head]
        rw [matched]
        refine inductionHypothesis (areOf.insert ?_ ?_) left
        · rw [Multiset.count_erase_self, ← areOf line, counted, Nat.add_sub_cancel]
        · exact fun other different => Multiset.count_erase_of_ne different lines

/-- The surplus of a text over another counts the difference of their multisets of lines. -/
theorem surplusLines_eq (first second : List String) :
    surplusLines first second = ((second : Multiset String) - (first : Multiset String)).card := by
  have counted := areOf_countLines LineCounts.areOf_empty first
  rw [zero_add] at counted
  rw [surplusLines, unmatchedLines_eq counted, Nat.zero_add]

/-- The gained lines are those of the later text without those of the earlier one, the lost
lines those of the earlier text without those of the later one. -/
theorem lineChanges_eq (before after : String) :
    lineChanges before after =
      ⟨((linesOf after : Multiset String) - (linesOf before : Multiset String)).card,
        ((linesOf before : Multiset String) - (linesOf after : Multiset String)).card⟩ := by
  rw [lineChanges, surplusLines_eq, surplusLines_eq]

theorem lineChanges_self (text : String) : lineChanges text text = ⟨0, 0⟩ := by
  rw [lineChanges_eq, tsub_self, Multiset.card_zero]

/-- The same change looked at from its other end. -/
def LineChanges.swapped (changes : LineChanges) : LineChanges :=
  ⟨changes.removed, changes.added⟩

theorem swapped_lineChanges (before after : String) :
    (lineChanges before after).swapped = lineChanges after before :=
  rfl

end ContentVault
