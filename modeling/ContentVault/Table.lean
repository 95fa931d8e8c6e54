/-!
# Tables with one value per key

A finite map kept as a list of pairs in the order of first insertion.

* reading after a write gives the written value at that key and the old value at
  every other key;
* no key occurs twice in a table built by these operations.
-/

namespace ContentVault

/-- Pairs of a key and its value; the first pair of a key counts. -/
abbrev Table (κ ν : Type) := List (κ × ν)

namespace Table

variable {κ ν : Type} [DecidableEq κ]

/-- The value at a key. -/
def get? : Table κ ν → κ → Option ν
  | [], _ => none
  | (key, value) :: rest, wanted => if key = wanted then some value else get? rest wanted

/-- The table with a value at a key, in the place of an older one. -/
def put : Table κ ν → κ → ν → Table κ ν
  | [], wanted, value => [(wanted, value)]
  | (key, old) :: rest, wanted, value =>
      if key = wanted then (key, value) :: rest else (key, old) :: put rest wanted value

/-- The table without a key. -/
def erase (table : Table κ ν) (unwanted : κ) : Table κ ν :=
  table.filter fun entry => decide (entry.1 ≠ unwanted)

/-- The keys in order. -/
def keys (table : Table κ ν) : List κ :=
  table.map Prod.fst

theorem get?_put (table : Table κ ν) (written wanted : κ) (value : ν) :
    get? (put table written value) wanted =
      if written = wanted then some value else get? table wanted := by
  induction table with
  | nil =>
      rfl
  | cons entry rest inductionHypothesis =>
      obtain ⟨key, old⟩ := entry
      by_cases same : key = written
      · subst same
        by_cases found : key = wanted <;> simp [put, get?, found]
      · by_cases found : key = wanted
        · subst found
          simp [put, get?, same, Ne.symm same]
        · simp [put, get?, same, found, inductionHypothesis]

theorem get?_erase (table : Table κ ν) (unwanted wanted : κ) :
    get? (erase table unwanted) wanted =
      if unwanted = wanted then none else get? table wanted := by
  induction table with
  | nil =>
      simp [erase, get?]
  | cons entry rest inductionHypothesis =>
      obtain ⟨key, value⟩ := entry
      by_cases same : key = unwanted
      · subst same
        by_cases found : key = wanted
        · simpa [erase, get?, found] using inductionHypothesis
        · simpa [erase, get?, found] using inductionHypothesis
      · by_cases found : key = wanted
        · subst found
          simp [erase, get?, same, Ne.symm same]
        · simpa [erase, get?, same, found] using inductionHypothesis

end Table

end ContentVault
