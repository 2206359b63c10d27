import UtxoBalance.Accumulator
import UtxoBalance.Proofs.Deltas

/-!
# Uses of an accumulator

Whatever an accumulator was used for, in whatever order, it holds one of two things. Before it
is finalized it holds the sums of all that was merged, no matter whether contributions came
alone, in a mapping or in a list of pairs. From then on it holds nothing, and nothing changes
that.

## Main definitions

- `Accumulator.Use`, `Accumulator.Answer` — what an accumulator is used for, and what it answers
- `Accumulator.reached` — an accumulator that has been used
- `Accumulator.merged` — what was merged
- `Accumulator.Gathers`, `Accumulator.IsSpent` — the answers before and after finalizing

## Main statements

- `Accumulator.perform_gathered`, `Accumulator.perform_spent` — what one use leaves behind
- `Accumulator.reached_eq` — what all uses together leave behind
- `Accumulator.answers_after_uses` — what an accumulator answers after any uses
-/

namespace UtxoBalance

theorem Deltas.gather_append (first second : Deltas) :
    gather (first ++ second) =
      second.foldl (fun deltas entry => add entry.1 entry.2 deltas) (gather first) := by
  rw [gather, List.foldl_append]
  rfl

theorem Deltas.gather_concat (contributions : Deltas) (key : String) (amount : Int) :
    gather (contributions ++ [(key, amount)]) = add key amount (gather contributions) := by
  rw [gather_append]
  rfl

namespace Accumulator

/-- An accumulator to which these contributions were added. -/
def gathered (contributions : Deltas) : Accumulator := { deltas := .gather contributions }

/-- An accumulator that has been finalized. -/
def spent : Accumulator := { isConsumed := true }

/-! ## Merging -/

/-- A contribution whose amount is no integer counts as zero. -/
theorem merge_gathered (contributions : Deltas) (key : String) (amount : Document) :
    (gathered contributions).merge key amount = match amount.toAmount with
      | .ok n => (gathered (contributions ++ [(key, n)]), .ok ())
      | .error fault => (gathered (contributions ++ [(key, 0)]), .error (.shape fault)) := by
  have hfresh : (gathered contributions).isConsumed = false := rfl
  have hadd : ∀ n, { gathered contributions with
      deltas := (gathered contributions).deltas.add key n } =
        gathered (contributions ++ [(key, n)]) := by
    intro n
    rw [gathered, gathered, Deltas.gather_concat]
  rw [merge, hfresh, if_neg Bool.false_ne_true]
  cases amount.toAmount with
  | ok n => exact Prod.ext (hadd n) rfl
  | error fault => exact Prod.ext (hadd 0) rfl

/-- Contributions as the fields of an object. -/
def fieldsOf (contributions : Deltas) : Fields :=
  contributions.map fun entry => (entry.1, .int entry.2)

/-- Contributions as a list of pairs. -/
def pairsOf (contributions : Deltas) : List Document :=
  contributions.map fun entry => .list [.text entry.1, .int entry.2]

theorem mergeFields_gathered (contributions more : Deltas) :
    (gathered contributions).mergeFields (fieldsOf more) =
      (gathered (contributions ++ more), .ok ()) := by
  induction more generalizing contributions with
  | nil => rw [List.append_nil]; rfl
  | cons entry rest ih =>
    have hmerge : (gathered contributions).merge entry.1 (.int entry.2) =
        (gathered (contributions ++ [entry]), .ok ()) :=
      merge_gathered contributions entry.1 (.int entry.2)
    rw [fieldsOf, List.map_cons, mergeFields, hmerge]
    dsimp only
    rw [← fieldsOf, ih, List.append_assoc, List.singleton_append]

theorem mergePairs_gathered (contributions more : Deltas) :
    (gathered contributions).mergePairs (pairsOf more) =
      (gathered (contributions ++ more), .ok ()) := by
  induction more generalizing contributions with
  | nil => rw [List.append_nil]; rfl
  | cons entry rest ih =>
    have hmerge : (gathered contributions).mergeAt (.text entry.1) (.int entry.2) =
        (gathered (contributions ++ [entry]), .ok ()) :=
      merge_gathered contributions entry.1 (.int entry.2)
    have hpair : (Document.list [.text entry.1, .int entry.2]).toPair =
      .ok (.text entry.1, .int entry.2) := rfl
    rw [pairsOf, List.map_cons, mergePairs, hpair]
    dsimp only
    rw [hmerge]
    dsimp only
    rw [← pairsOf, ih, List.append_assoc, List.singleton_append]

/-! ## Uses -/

/-- What an accumulator is used for, where all amounts are integers. -/
inductive Use
  /-- One contribution is merged. -/
  | merge (key : String) (amount : Int)
  /-- The contributions of a mapping are merged. -/
  | mergeMapping (contributions : Deltas)
  /-- The contributions in a list of pairs are merged. -/
  | mergePairs (contributions : Deltas)
  /-- It is asked for a key. -/
  | contains (key : String)
  /-- It is asked for the number of its keys. -/
  | size
  /-- It is finalized. -/
  | finalize
  deriving DecidableEq

/-- What an accumulator answers. -/
inductive Answer
  /-- Contributions were merged, or refused. -/
  | merged (outcome : Except Failure Unit)
  /-- A key is there, or not. -/
  | contained (found : Bool)
  /-- So many keys are there. -/
  | sized (count : Nat)
  /-- The deltas were given out, or refused. -/
  | finalized (outcome : Except Failure Deltas)

/-- One use: the accumulator afterwards, and its answer. -/
def Use.perform (acc : Accumulator) : Use → Accumulator × Answer
  | .merge key amount => (acc.merge key (.int amount)).map id .merged
  | .mergeMapping contributions =>
    (acc.mergeAll (.object (fieldsOf contributions))).map id .merged
  | .mergePairs contributions => (acc.mergeAll (.list (pairsOf contributions))).map id .merged
  | .contains key => (acc, .contained (acc.contains key))
  | .size => (acc, .sized acc.size)
  | .finalize => acc.finalize.map id .finalized

/-- What a use merges. -/
def Use.contributions : Use → Deltas
  | .merge key amount => [(key, amount)]
  | .mergeMapping contributions | .mergePairs contributions => contributions
  | .contains _ | .size | .finalize => []

/-- A new accumulator after some uses. -/
def reached (uses : List Use) : Accumulator :=
  uses.foldl (fun acc use => (use.perform acc).1) {}

/-- All that some uses merge, in order. -/
def merged (uses : List Use) : Deltas := uses.flatMap Use.contributions

/-- What a new accumulator answers to a use after some others. -/
def Use.answerAfter (uses : List Use) (use : Use) : Answer := (use.perform (reached uses)).2

/-! ## What uses leave behind -/

theorem perform_gathered (contributions : Deltas) (use : Use) :
    (use.perform (gathered contributions)).1 =
      if use = .finalize then spent else gathered (contributions ++ use.contributions) := by
  cases use with
  | merge key amount =>
    show ((gathered contributions).merge key (.int amount)).1 = _
    rw [merge_gathered]
    rfl
  | mergeMapping more =>
    show ((gathered contributions).mergeFields (fieldsOf more)).1 = _
    rw [mergeFields_gathered]
    rfl
  | mergePairs more =>
    show ((gathered contributions).mergePairs (pairsOf more)).1 = _
    rw [mergePairs_gathered]
    rfl
  | contains key =>
    rw [if_neg nofun, Use.contributions, List.append_nil]
    rfl
  | size =>
    rw [if_neg nofun, Use.contributions, List.append_nil]
    rfl
  | finalize => rfl

theorem mergeFields_spent (contributions : Deltas) :
    spent.mergeFields (fieldsOf contributions) =
      (spent, if contributions = [] then .ok () else .error (.consumed .merge)) := by
  cases contributions with
  | nil => rfl
  | cons entry rest => rfl

theorem mergePairs_spent (contributions : Deltas) :
    spent.mergePairs (pairsOf contributions) =
      (spent, if contributions = [] then .ok () else .error (.consumed .merge)) := by
  cases contributions with
  | nil => rfl
  | cons entry rest => rfl

theorem perform_spent (use : Use) : (use.perform spent).1 = spent := by
  cases use with
  | merge key amount => rfl
  | mergeMapping contributions => exact congrArg Prod.fst (mergeFields_spent contributions)
  | mergePairs contributions => exact congrArg Prod.fst (mergePairs_spent contributions)
  | contains key => rfl
  | size => rfl
  | finalize => rfl

theorem reached_concat (uses : List Use) (use : Use) :
    reached (uses ++ [use]) = (use.perform (reached uses)).1 := by
  rw [reached, List.foldl_append]
  rfl

/-- All uses together leave behind the sums of what was merged, or nothing once the accumulator
    is finalized. -/
theorem reached_eq (uses : List Use) :
    reached uses = if .finalize ∈ uses then spent else gathered (merged uses) := by
  -- the last use meets what those before it leave behind
  induction uses using List.reverseRecOn with
  | nil => rfl
  | append_singleton uses use ih =>
    have hmerged : merged (uses ++ [use]) = merged uses ++ use.contributions := by
      simp [merged]
    rw [reached_concat, ih, hmerged]
    by_cases hfinalized : Use.finalize ∈ uses
    · rw [if_pos hfinalized, perform_spent, if_pos (List.mem_append_left _ hfinalized)]
    · have hlast : Use.finalize ∈ uses ++ [use] ↔ use = .finalize := by
        simp [hfinalized, eq_comm]
      rw [if_neg hfinalized, perform_gathered]
      simp only [hlast]

theorem answerAfter_of_notMem {uses : List Use} (h : .finalize ∉ uses) (use : Use) :
    use.answerAfter uses = (use.perform (gathered (merged uses))).2 := by
  rw [Use.answerAfter, reached_eq, if_neg h]

theorem answerAfter_of_mem {uses : List Use} (h : .finalize ∈ uses) (use : Use) :
    use.answerAfter uses = (use.perform spent).2 := by
  rw [Use.answerAfter, reached_eq, if_pos h]

/-! ## What is answered -/

theorem contains_gathered (contributions : Deltas) (key : String) :
    (gathered contributions).contains key = decide (key ∈ contributions.keys) := by
  rw [contains, Deltas.contains, List.contains_eq_mem]
  exact decide_eq_decide.2 Deltas.mem_keys_gather

/-- The keys that are there are the distinct keys of the contributions. -/
theorem size_gathered (contributions : Deltas) :
    (gathered contributions).size = contributions.keys.toFinset.card := by
  have hsame : (Deltas.gather contributions).keys.toFinset = contributions.keys.toFinset := by
    ext key
    rw [List.mem_toFinset, List.mem_toFinset, Deltas.mem_keys_gather]
  rw [← hsame, List.toFinset_card_of_nodup (Deltas.nodup_keys_gather contributions)]
  exact (List.length_map Prod.fst).symm

/-- What an accumulator answers that has not been finalized after some uses. It knows the keys
    that were merged, takes more, and gives out the sum of all that was merged under each key,
    a sum of zero included. -/
structure Gathers (uses : List Use) : Prop where
  contains (key : String) : (Use.contains key).answerAfter uses =
    .contained (decide (key ∈ (merged uses).keys))
  size : Use.size.answerAfter uses = .sized (merged uses).keys.toFinset.card
  merge (key : String) (amount : Int) :
    (Use.merge key amount).answerAfter uses = .merged (.ok ())
  mergeMapping (contributions : Deltas) :
    (Use.mergeMapping contributions).answerAfter uses = .merged (.ok ())
  mergePairs (contributions : Deltas) :
    (Use.mergePairs contributions).answerAfter uses = .merged (.ok ())
  finalize : ∃ deltas, Use.finalize.answerAfter uses = .finalized (.ok deltas) ∧
    deltas.keys.Nodup ∧
    ∀ key, deltas.get? key =
      if key ∈ (merged uses).keys then some ((merged uses).amount key) else none

/-- What an accumulator answers that has been finalized among some uses. It is empty and takes
    nothing more, and is not finalized again. -/
structure IsSpent (uses : List Use) : Prop where
  contains (key : String) : (Use.contains key).answerAfter uses = .contained false
  size : Use.size.answerAfter uses = .sized 0
  merge (key : String) (amount : Int) :
    (Use.merge key amount).answerAfter uses = .merged (.error (.consumed .merge))
  mergeMapping (contributions : Deltas) :
    (Use.mergeMapping contributions).answerAfter uses =
      .merged (if contributions = [] then .ok () else .error (.consumed .merge))
  mergePairs (contributions : Deltas) :
    (Use.mergePairs contributions).answerAfter uses =
      .merged (if contributions = [] then .ok () else .error (.consumed .merge))
  finalize : Use.finalize.answerAfter uses = .finalized (.error (.consumed .finalize))

theorem finalize_answerAfter {uses : List Use} (h : .finalize ∉ uses) :
    Use.finalize.answerAfter uses = .finalized (.ok (.gather (merged uses))) := by
  rw [answerAfter_of_notMem h]
  rfl

theorem gathers_of_notMem {uses : List Use} (h : .finalize ∉ uses) : Gathers uses := by
  constructor
  case contains =>
    intro key
    rw [answerAfter_of_notMem h]
    exact congrArg Answer.contained (contains_gathered _ key)
  case size =>
    rw [answerAfter_of_notMem h]
    exact congrArg Answer.sized (size_gathered _)
  case merge =>
    intro key amount
    rw [answerAfter_of_notMem h]
    exact congrArg (fun p => Answer.merged p.2) (merge_gathered (merged uses) key (.int amount))
  case mergeMapping =>
    intro contributions
    rw [answerAfter_of_notMem h]
    exact congrArg (fun p => Answer.merged p.2) (mergeFields_gathered _ contributions)
  case mergePairs =>
    intro contributions
    rw [answerAfter_of_notMem h]
    exact congrArg (fun p => Answer.merged p.2) (mergePairs_gathered _ contributions)
  case finalize =>
    exact ⟨_, finalize_answerAfter h, Deltas.nodup_keys_gather _, Deltas.get?_gather _⟩

theorem isSpent_of_mem {uses : List Use} (h : .finalize ∈ uses) : IsSpent uses := by
  constructor
  case mergeMapping =>
    intro contributions
    rw [answerAfter_of_mem h]
    exact congrArg (fun p => Answer.merged p.2) (mergeFields_spent contributions)
  case mergePairs =>
    intro contributions
    rw [answerAfter_of_mem h]
    exact congrArg (fun p => Answer.merged p.2) (mergePairs_spent contributions)
  all_goals
    intros
    rw [answerAfter_of_mem h]
    rfl

/-- After any uses a new accumulator answers from what was merged, until it is finalized. Other
    uses that merge the same contributions, in another order or in other groups, give out the
    same deltas. Once it is finalized it is empty for good. -/
theorem answers_after_uses (uses : List Use) :
    (.finalize ∉ uses → Gathers uses ∧
      ∀ others, .finalize ∉ others → (merged uses).Perm (merged others) →
        ∃ first second, Use.finalize.answerAfter uses = .finalized (.ok first) ∧
          Use.finalize.answerAfter others = .finalized (.ok second) ∧ first.Perm second) ∧
    (.finalize ∈ uses → IsSpent uses) := by
  refine ⟨fun huses => ⟨gathers_of_notMem huses, fun others hothers hperm => ?_⟩, isSpent_of_mem⟩
  exact ⟨_, _, finalize_answerAfter huses, finalize_answerAfter hothers, Deltas.gather_perm hperm⟩

/-- Uses that merge three contributions and ask for one of the keys. -/
def severalUses : List Use :=
  [.merge "a" 3, .mergePairs [("b", -8), ("a", -1)], .contains "a", .mergeMapping [("a", -2)]]

/-- The contributions under one key cancel, and stay. In another order they give the same
    deltas. After finalizing nothing is left. -/
theorem answers_after_uses_severalUses :
    (.finalize ∉ severalUses ∧ Use.size.answerAfter severalUses = .sized 2 ∧
      (∃ deltas, Use.finalize.answerAfter severalUses = .finalized (.ok deltas) ∧
        deltas.get? "a" = some 0 ∧ deltas.get? "b" = some (-8)) ∧
      ∃ first second, Use.finalize.answerAfter severalUses = .finalized (.ok first) ∧
        Use.finalize.answerAfter [.mergeMapping [("b", -8), ("a", 3)], .merge "a" (-2),
          .merge "a" (-1)] = .finalized (.ok second) ∧ first.Perm second) ∧
    Use.size.answerAfter (severalUses ++ [.finalize, .mergeMapping [("a", 1)]]) = .sized 0 := by
  obtain ⟨hgathers, hothers⟩ := (answers_after_uses severalUses).1 (by decide)
  have hspent := (answers_after_uses (severalUses ++ [.finalize, .mergeMapping [("a", 1)]])).2
    (by decide)
  obtain ⟨deltas, hdeltas, -, hsums⟩ := hgathers.finalize
  refine ⟨⟨by decide, hgathers.size, ⟨deltas, hdeltas, hsums "a", hsums "b"⟩, ?_⟩, hspent.size⟩
  exact hothers _ (by decide) (by decide)

end Accumulator

end UtxoBalance
