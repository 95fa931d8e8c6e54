import Mathlib.Data.List.Nodup
import ContentVault.Vault.Saga

/-!
# What a saga undoes

A run of steps with commits between them, each step failing or not and each undo too.

* a failing step has everything undone that was done since the last failure or commit, newest
  first, and nothing twice;
* it is answered with its own error, whatever becomes of the undos;
* what a commit was made of is never undone.

The run is watched by a log in the state, to which every attempt and every undo is noted.
-/

namespace ContentVault

variable {σ ε α : Type}

/-! ## Runs of moves -/

/-- One move of a saga. -/
inductive SagaMove (σ ε : Type) : Type 1 where
  | run {α : Type} (action : SagaAction σ ε α)
  | runCompensable {α : Type} (action : SagaAction σ ε α) (undo : α → SagaAction σ ε Unit)
  | commit

/-- What a move does to the state by itself. -/
def SagaMove.alone : SagaMove σ ε → SagaAction σ ε Unit
  | .run action, state => ((action state).1.map fun _ => (), (action state).2)
  | .runCompensable action _, state => ((action state).1.map fun _ => (), (action state).2)
  | .commit, state => (.ok (), state)

namespace Saga

/-- Make one move. -/
def take (saga : Saga σ ε) (state : σ) : SagaMove σ ε → Except ε Unit × Saga σ ε × σ
  | .run action => ((saga.run action state).1.map fun _ => (), (saga.run action state).2)
  | .runCompensable action undo =>
      ((saga.runCompensable action undo state).1.map fun _ => (),
        (saga.runCompensable action undo state).2)
  | .commit => (.ok (), saga.commit, state)

/-- Make one move after another, whatever they are answered. -/
def takeAll (saga : Saga σ ε) (state : σ) :
    List (SagaMove σ ε) → List (Except ε Unit) × Saga σ ε × σ
  | [] => ([], saga, state)
  | move :: rest =>
      let (outcome, saga, state) := saga.take state move
      let (outcomes, saga, state) := saga.takeAll state rest
      (outcome :: outcomes, saga, state)

end Saga

/-! ## What is to be undone -/

/-- What has become of a move. -/
inductive SagaMark where
  | kept
  | undoable
  | failed
  | committed
  deriving DecidableEq

@[simp]
def SagaMove.mark : SagaMove σ ε → Except ε Unit → SagaMark
  | .commit, _ => .committed
  | _, .error _ => .failed
  | .run _, .ok _ => .kept
  | .runCompensable _ _, .ok _ => .undoable

/-- What has become of moves that were answered. -/
def SagaMove.marks (moves : List (SagaMove σ ε)) (outcomes : List (Except ε Unit)) :
    List SagaMark :=
  List.zipWith SagaMove.mark moves outcomes

/-- Something that happens in a run: a step is tried, or what it did is undone. -/
inductive SagaEvent where
  | tried (position : Nat)
  | undone (position : Nat)
  deriving DecidableEq

namespace SagaMark

/-- What was done at a position is still to be undone at a later one. -/
def Awaits (marks : List SagaMark) (position later : Nat) : Prop :=
  position < later ∧ marks[position]? = some .undoable ∧
    ∀ between < later, position < between →
      marks[between]? ≠ some .failed ∧ marks[between]? ≠ some .committed

instance (marks : List SagaMark) (position later : Nat) :
    Decidable (Awaits marks position later) :=
  inferInstanceAs (Decidable (_ ∧ _ ∧ _))

/-- The positions that are to be undone at a later one, newest first. -/
def awaiting (marks : List SagaMark) (later : Nat) : List Nat :=
  ((List.range later).filter fun position => decide (Awaits marks position later)).reverse

/-- What happens at a position, if some others are to be undone there. -/
@[simp]
def eventsWith (awaiting : List Nat) (position : Nat) : SagaMark → List SagaEvent
  | .kept => [.tried position]
  | .undoable => [.tried position]
  | .failed => .tried position :: awaiting.map .undone
  | .committed => []

def eventsAt (marks : List SagaMark) (position : Nat) : List SagaEvent :=
  (marks[position]?.map (eventsWith (awaiting marks position) position)).getD []

/-- Everything that happens in a run. -/
def events (marks : List SagaMark) : List SagaEvent :=
  (List.range marks.length).flatMap (eventsAt marks)

/-- What is to be undone after a position, if some others are to be undone there. -/
@[simp]
def next (awaiting : List Nat) (position : Nat) : SagaMark → List Nat
  | .kept => awaiting
  | .undoable => position :: awaiting
  | .failed => []
  | .committed => []

variable {marks : List SagaMark} {position later : Nat} {mark : SagaMark}

theorem awaits_succ_iff (isMark : marks[later]? = some mark) :
    Awaits marks position (later + 1) ↔
      position = later ∧ mark = .undoable ∨
        Awaits marks position later ∧ mark ≠ .failed ∧ mark ≠ .committed := by
  constructor
  · intro ⟨earlier, leftUndo, undisturbed⟩
    rcases Nat.lt_succ_iff_lt_or_eq.1 earlier with before | same
    · have last := undisturbed later (Nat.lt_succ_self later) before
      rw [isMark] at last
      exact Or.inr ⟨⟨before, leftUndo, fun between isBefore => undisturbed between
        (Nat.lt_succ_of_lt isBefore)⟩, fun isFailed => last.1 (isFailed ▸ rfl),
        fun isCommitted => last.2 (isCommitted ▸ rfl)⟩
    · subst same
      rw [isMark, Option.some_inj] at leftUndo
      exact Or.inl ⟨rfl, leftUndo⟩
  · intro cases
    rcases cases with ⟨same, leftUndo⟩ | ⟨⟨before, leftUndo, undisturbed⟩, unfailed, uncommitted⟩
    · subst same
      exact ⟨Nat.lt_succ_self _, leftUndo ▸ isMark, by omega⟩
    · refine ⟨Nat.lt_succ_of_lt before, leftUndo, fun between isBefore isAfter => ?_⟩
      rcases Nat.lt_succ_iff_lt_or_eq.1 isBefore with earlier | same
      · exact undisturbed between earlier isAfter
      · rw [same, isMark]
        exact ⟨fun isFailed => unfailed (Option.some_inj.1 isFailed),
          fun isCommitted => uncommitted (Option.some_inj.1 isCommitted)⟩

theorem not_awaits_self : ¬Awaits marks later later :=
  fun awaits => Nat.lt_irrefl later awaits.1

theorem mem_awaiting : position ∈ awaiting marks later ↔ Awaits marks position later := by
  simp only [awaiting, List.mem_reverse, List.mem_filter, List.mem_range, decide_eq_true_eq,
    and_iff_right_iff_imp]
  exact fun awaits => awaits.1

theorem nodup_awaiting (marks : List SagaMark) (later : Nat) : (awaiting marks later).Nodup :=
  List.nodup_reverse.2 (List.nodup_range.filter _)

/-- What a move leaves to be undone is decided by what has become of it. -/
theorem awaiting_succ (isMark : marks[later]? = some mark) :
    awaiting marks (later + 1) = next (awaiting marks later) later mark := by
  unfold awaiting
  rw [List.range_succ, List.filter_append, List.reverse_append]
  have earlier :
      (List.range later).filter (fun position => decide (Awaits marks position (later + 1))) =
        if mark = .failed ∨ mark = .committed then [] else
          (List.range later).filter fun position => decide (Awaits marks position later) := by
    split
    · refine List.filter_eq_nil_iff.2 fun position member => ?_
      rw [List.mem_range] at member
      grind [awaits_succ_iff]
    · refine List.filter_congr fun position member => ?_
      rw [List.mem_range] at member
      grind [awaits_succ_iff]
  rw [earlier]
  have last : Awaits marks later (later + 1) ↔ mark = .undoable := by
    grind [awaits_succ_iff, not_awaits_self]
  cases mark <;> simp [next, last]

/-- What is undone at one failure is undone at no other. -/
theorem Awaits.failure_unique {first second : Nat} (awaits : Awaits marks position first)
    (awaits' : Awaits marks position second) (isFailed : marks[first]? = some .failed)
    (isFailed' : marks[second]? = some .failed) : first = second := by
  rcases Nat.lt_trichotomy first second with before | same | after
  · exact absurd isFailed (awaits'.2.2 first before awaits.1).1
  · exact same
  · exact absurd isFailed' (awaits.2.2 second after awaits'.1).1

theorem mem_eventsAt_iff {event : SagaEvent} :
    event ∈ eventsAt marks later ↔
      event = .tried later ∧ (∃ mark, marks[later]? = some mark ∧ mark ≠ .committed) ∨
        ∃ position, event = .undone position ∧ marks[later]? = some .failed ∧
          Awaits marks position later := by
  unfold eventsAt
  rcases isMark : marks[later]? with _ | mark
  · simp
  · cases mark <;> simp [eventsWith, mem_awaiting, eq_comm, and_comm]

theorem nodup_eventsAt (marks : List SagaMark) (position : Nat) :
    (eventsAt marks position).Nodup := by
  unfold eventsAt
  rcases marks[position]? with _ | mark
  · simp
  · cases mark with
    | failed =>
        simp only [Option.map_some, Option.getD_some, eventsWith, List.nodup_cons]
        exact ⟨by simp, (nodup_awaiting marks position).map fun _ _ same => by cases same; rfl⟩
    | _ => simp [eventsWith]

/-- Nothing is tried twice or undone twice. -/
theorem nodup_events (marks : List SagaMark) : (events marks).Nodup := by
  refine List.nodup_flatMap.2 ⟨fun position _ => nodup_eventsAt marks position, ?_⟩
  refine List.Nodup.pairwise_of_forall_ne List.nodup_range fun first _ second _ different => ?_
  intro event atFirst atSecond
  rw [mem_eventsAt_iff] at atFirst atSecond
  rcases atFirst with ⟨rfl, -⟩ | ⟨position, rfl, isFailed, awaits⟩
  · rcases atSecond with ⟨same, -⟩ | ⟨position, same, -⟩
    · exact different (SagaEvent.tried.inj same)
    · cases same
  · rcases atSecond with ⟨same, -⟩ | ⟨position', same, isFailed', awaits'⟩
    · cases same
    · rw [← SagaEvent.undone.inj same] at awaits'
      exact different (awaits.failure_unique awaits' isFailed isFailed')

/-- A position is undone if and only if a later step fails while it waits for that. -/
theorem undone_mem_events_iff :
    .undone position ∈ events marks ↔
      ∃ failing, marks[failing]? = some .failed ∧ Awaits marks position failing := by
  unfold events
  rw [List.mem_flatMap]
  constructor
  · intro ⟨failing, _, member⟩
    rcases mem_eventsAt_iff.1 member with ⟨same, -⟩ | ⟨_, same, isFailed, awaits⟩
    · cases same
    · exact ⟨failing, isFailed, SagaEvent.undone.inj same ▸ awaits⟩
  · intro ⟨failing, isFailed, awaits⟩
    refine ⟨failing, List.mem_range.2 (List.getElem?_eq_some_iff.1 isFailed).1, ?_⟩
    exact mem_eventsAt_iff.2 (Or.inr ⟨position, rfl, isFailed, awaits⟩)

end SagaMark

/-! ## Watched runs -/

/-- An action that also notes an event, however it ends. -/
def SagaAction.noting (event : SagaEvent) (action : SagaAction σ ε α) :
    SagaAction (σ × List SagaEvent) ε α :=
  fun (state, log) => ((action state).1, (action state).2, log ++ [event])

namespace SagaMove

/-- A move that notes that it is tried and that it is undone. -/
def noted (position : Nat) : SagaMove σ ε → SagaMove (σ × List SagaEvent) ε
  | .run action => .run (action.noting (.tried position))
  | .runCompensable action undo =>
      .runCompensable (action.noting (.tried position))
        fun value => SagaAction.noting (.undone position) (undo value)
  | .commit => .commit

/-- Moves that note what happens to them, with their positions counted from one on. -/
def notedFrom (position : Nat) : List (SagaMove σ ε) → List (SagaMove (σ × List SagaEvent) ε)
  | [] => []
  | move :: rest => move.noted position :: notedFrom (position + 1) rest

end SagaMove

namespace Saga

variable {watched : Saga (σ × List SagaEvent) ε} {saga : Saga σ ε} {awaiting : List Nat}

/-- Every undo that a watched saga remembers notes its own position. -/
def Watches (watched : Saga (σ × List SagaEvent) ε) (saga : Saga σ ε) (awaiting : List Nat) :
    Prop :=
  ∃ undos : List (Nat × SagaAction σ ε Unit),
    awaiting = undos.map Prod.fst ∧ saga.undoLog = undos.map Prod.snd ∧
      watched.undoLog = undos.map fun undo => undo.2.noting (.undone undo.1)

theorem watches_start : Watches (start : Saga (σ × List SagaEvent) ε) start [] :=
  ⟨[], rfl, rfl, rfl⟩

theorem Watches.cons (watches : Watches watched saga awaiting) (position : Nat)
    (undo : SagaAction σ ε Unit) :
    Watches ⟨undo.noting (.undone position) :: watched.undoLog⟩ ⟨undo :: saga.undoLog⟩
      (position :: awaiting) := by
  obtain ⟨undos, positions, plain, noting⟩ := watches
  exact ⟨(position, undo) :: undos, by rw [positions]; rfl, by rw [plain]; rfl,
    by rw [noting]; rfl⟩

/-- Every undo is attempted, whatever becomes of the newer ones. -/
theorem unwind_noting (undos : List (Nat × SagaAction σ ε Unit)) (state : σ)
    (log : List SagaEvent) :
    unwind (undos.map fun undo => undo.2.noting (.undone undo.1)) (state, log) =
      (unwind (undos.map Prod.snd) state, log ++ (undos.map Prod.fst).map .undone) := by
  induction undos generalizing state log with
  | nil => simp [unwind]
  | cons undo older inductionHypothesis =>
      simp only [List.map_cons, unwind, SagaAction.noting]
      rw [inductionHypothesis, List.append_assoc, List.singleton_append]

theorem Watches.unwind_eq (watches : Watches watched saga awaiting) (state : σ)
    (log : List SagaEvent) :
    unwind watched.undoLog (state, log) =
      (unwind saga.undoLog state, log ++ awaiting.map .undone) := by
  obtain ⟨undos, positions, plain, noting⟩ := watches
  rw [noting, plain, positions]
  exact unwind_noting undos state log

/-- What a watched move answers, does and notes. -/
theorem Watches.take (watches : Watches watched saga awaiting) (position : Nat) (state : σ)
    (log : List SagaEvent) (move : SagaMove σ ε) :
    ∃ watched',
      watched.take (state, log) (move.noted position) =
        ((saga.take state move).1, watched', (saga.take state move).2.2,
          log ++ (move.mark (saga.take state move).1).eventsWith awaiting position) ∧
      Watches watched' (saga.take state move).2.1
        ((move.mark (saga.take state move).1).next awaiting position) := by
  cases move with
  | run action =>
      rcases done : action state with ⟨failure | value, state'⟩
      · refine ⟨start, ?_, ?_⟩ <;>
          simp [Saga.take, Saga.run, SagaMove.noted, SagaAction.noting, done, Except.map,
            watches.unwind_eq, watches_start]
      · refine ⟨watched, ?_, ?_⟩ <;>
          simp [Saga.take, Saga.run, SagaMove.noted, SagaAction.noting, done, Except.map, watches]
  | runCompensable action undo =>
      rcases done : action state with ⟨failure | value, state'⟩
      · refine ⟨start, ?_, ?_⟩ <;>
          simp [Saga.take, runCompensable, Saga.run, SagaMove.noted, SagaAction.noting, done,
            Except.map, watches.unwind_eq, watches_start]
      · refine ⟨⟨SagaAction.noting (.undone position) (undo value) :: watched.undoLog⟩, ?_, ?_⟩ <;>
          simp [Saga.take, runCompensable, Saga.run, SagaMove.noted, SagaAction.noting, done,
            Except.map, watches.cons]
  | commit =>
      exact ⟨start, by simp [Saga.take, SagaMove.noted, commit], watches_start⟩

/-- What a watched run answers, does and notes, from a position on. -/
theorem Watches.takeAll {marks : List SagaMark} {moves : List (SagaMove σ ε)} {position : Nat}
    {state : σ} (watches : Watches watched saga (SagaMark.awaiting marks position))
    (remaining : marks.drop position = SagaMove.marks moves (saga.takeAll state moves).1)
    (log : List SagaEvent) :
    ∃ watched',
      watched.takeAll (state, log) (SagaMove.notedFrom position moves) =
        ((saga.takeAll state moves).1, watched', (saga.takeAll state moves).2.2,
          log ++ (List.range' position moves.length).flatMap (SagaMark.eventsAt marks)) := by
  induction moves generalizing watched saga position state log with
  | nil =>
      exact ⟨watched, by simp [SagaMove.notedFrom, Saga.takeAll]⟩
  | cons move rest inductionHypothesis =>
      rw [Saga.takeAll, SagaMove.marks, List.zipWith_cons_cons] at remaining
      have isMark : marks[position]? = some (move.mark (saga.take state move).1) := by
        rw [← List.head?_drop, remaining]
        rfl
      have remaining : marks.drop (position + 1) = SagaMove.marks rest
          ((saga.take state move).2.1.takeAll (saga.take state move).2.2 rest).1 := by
        rw [← List.tail_drop, remaining]
        rfl
      obtain ⟨watched', taken, watches⟩ := watches.take position state log move
      rw [← SagaMark.awaiting_succ isMark] at watches
      obtain ⟨watched'', done⟩ := inductionHypothesis watches remaining _
      refine ⟨watched'', ?_⟩
      rw [SagaMove.notedFrom, Saga.takeAll, taken]
      dsimp only
      rw [done, Saga.takeAll, List.length_cons, List.range'_succ, List.flatMap_cons,
        List.append_assoc]
      simp [SagaMark.eventsAt, isMark]

/-! ## What the moves are answered -/

theorem take_outcome (saga : Saga σ ε) (state : σ) (move : SagaMove σ ε) :
    (saga.take state move).1 = (move.alone state).1 := by
  cases move with
  | run action =>
      rcases done : action state with ⟨failure | value, state'⟩ <;>
        simp [take, Saga.run, SagaMove.alone, done]
  | runCompensable action undo =>
      rcases done : action state with ⟨failure | value, state'⟩ <;>
        simp [take, runCompensable, Saga.run, SagaMove.alone, done, Except.map]
  | commit => rfl

/-- A move is answered as it would be by itself, in the state that the earlier moves reach. -/
theorem takeAll_outcome (saga : Saga σ ε) (state : σ) (moves : List (SagaMove σ ε))
    (position : Nat) :
    (saga.takeAll state moves).1[position]? = moves[position]?.map fun move =>
      (move.alone (saga.takeAll state (moves.take position)).2.2).1 := by
  induction moves generalizing saga state position with
  | nil => rfl
  | cons move rest inductionHypothesis =>
      cases position with
      | zero => exact congrArg some (take_outcome saga state move)
      | succ position => exact inductionHypothesis _ _ position

theorem length_takeAll (saga : Saga σ ε) (state : σ) (moves : List (SagaMove σ ε)) :
    (saga.takeAll state moves).1.length = moves.length := by
  induction moves generalizing saga state with
  | nil => rfl
  | cons move rest inductionHypothesis => exact congrArg (· + 1) (inductionHypothesis _ _)

/-- How a run of moves is answered, and what happens in it. -/
structure Unwinds (moves : List (SagaMove σ ε)) (state : σ) (outcomes : List (Except ε Unit))
    (happened : List SagaEvent) : Prop where
  answered : ∀ position : Nat, outcomes[position]? = moves[position]?.map fun move =>
    (move.alone (start.takeAll state (moves.take position)).2.2).1
  ordered : happened = SagaMark.events (SagaMove.marks moves outcomes)
  once : happened.Nodup
  undone : ∀ position : Nat, SagaEvent.undone position ∈ happened ↔
    ∃ failing, (SagaMove.marks moves outcomes)[failing]? = some .failed ∧
      SagaMark.Awaits (SagaMove.marks moves outcomes) position failing

/-- Whichever moves fail and whatever their undos answer: a saga that is watched runs as one that
is not, every move gets its own answer, and a failing step has undone, newest first and once
and for all, what the steps since the last failure or commit have done. -/
theorem saga_unwinds_once (moves : List (SagaMove σ ε)) (state : σ) :
    ∃ watched happened,
      start.takeAll (state, []) (SagaMove.notedFrom 0 moves) =
        ((start.takeAll state moves).1, watched, (start.takeAll state moves).2.2, happened) ∧
      Unwinds moves state (start.takeAll state moves).1 happened := by
  let marks := SagaMove.marks moves (start.takeAll state moves).1
  have length : marks.length = moves.length := by
    change (SagaMove.marks moves _).length = _
    rw [SagaMove.marks, List.length_zipWith, length_takeAll, Nat.min_self]
  have begun : @Watches σ ε start start (SagaMark.awaiting marks 0) := watches_start
  obtain ⟨watched, done⟩ := begun.takeAll (rfl : marks.drop 0 = marks) []
  rw [List.nil_append, ← length, ← List.range_eq_range'] at done
  exact ⟨watched, _, done, takeAll_outcome start state moves, rfl, SagaMark.nodup_events _,
    fun _ => SagaMark.undone_mem_events_iff⟩

/-- The newer undo fails, and the older one is run all the same. -/
example :
    (start.takeAll ((), []) (SagaMove.notedFrom 0
      [.runCompensable (fun state => (.ok (), state)) (fun _ state => (.ok (), state)),
        .runCompensable (fun state => (.ok (), state)) (fun _ state => (.error 1, state)),
        .run fun state => ((.error 2 : Except Nat Unit), state)])).2.2.2 =
      [.tried 0, .tried 1, .tried 2, .undone 1, .undone 0] := rfl

end Saga

end ContentVault
