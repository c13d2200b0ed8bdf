import Keystroke.Log
import Mathlib.Data.List.Forall2

namespace Keystroke

/-!
# Outcomes of runs and of lists of results

The outcome of a run is the outcome of its parts, whatever they write to the
log.  A list of results is worked off from the left: it succeeds if every
result does, and otherwise its first fault decides.
-/

namespace Outcome

variable
  {Fault OtherFault Value Result : Type}

/-- A sequence of two results succeeds if both do. -/
theorem bind_eq_ok
    {first : Except Fault Value}
    {next : Value → Except Fault Result}
    {result : Result} :
    first >>= next = .ok result ↔
      ∃ value, first = .ok value ∧ next value = .ok result := by
  cases first with
  | error fault =>
      simp [bind, Except.bind]
  | ok value =>
      simp [bind, Except.bind]

/-- A changed result succeeds if the result does. -/
theorem map_eq_ok
    {first : Except Fault Value}
    {change : Value → Result}
    {result : Result} :
    first.map change = .ok result ↔
      ∃ value, first = .ok value ∧ change value = result := by
  cases first with
  | error fault =>
      simp [Except.map]
  | ok value =>
      simp [Except.map]

/-- A changed result has the fault of the result. -/
theorem eq_error_of_map
    {first : Except Fault Value}
    {change : Value → Result}
    {fault : Fault}
    (failed : first.map change = .error fault) :
    first = .error fault := by
  cases first with
  | error found =>
      cases failed
      rfl
  | ok value =>
      cases failed

/-- A list of results succeeds if every result does. -/
theorem mapM_eq_ok
    {work : Value → Except Fault Result}
    {items : List Value}
    {results : List Result} :
    items.mapM work = .ok results ↔
      List.Forall₂ (fun item result => work item = .ok result)
        items results := by
  induction items generalizing results with
  | nil =>
      constructor
      · intro done
        cases done
        exact .nil
      · intro related
        cases related
        rfl
  | cons item rest inductionHypothesis =>
      simp only [List.mapM_cons, bind_eq_ok]
      constructor
      · rintro ⟨first, firstDone, others, othersDone, shape⟩
        cases shape
        exact .cons firstDone (inductionHypothesis.mp othersDone)
      · intro related
        cases related with
        | cons firstDone othersDone =>
            exact ⟨_, firstDone, _,
              inductionHypothesis.mpr othersDone, rfl⟩

/-- Results that can be told from their items are those of a mapping. -/
theorem eq_map_of_mapM
    {work : Value → Except Fault Result}
    {change : Value → Result}
    (agrees : ∀ item result, work item = .ok result → result = change item)
    {items : List Value}
    {results : List Result}
    (done : items.mapM work = .ok results) :
    results = items.map change := by
  rw [← List.forall₂_eq_eq_eq, List.forall₂_map_right_iff]
  exact (mapM_eq_ok.mp done).flip.imp fun result item => agrees item result

/-- A result without a fault. -/
def Succeeds
    (result : Except Fault Value) :
    Prop :=
  ∃ value, result = .ok value

/-- A changed result succeeds if the result does. -/
@[simp] theorem succeeds_map
    {result : Except Fault Value}
    {change : Value → Result} :
    Succeeds (result.map change) ↔ Succeeds result := by
  cases result with
  | error fault =>
      simp [Succeeds, Except.map]
  | ok value =>
      simp [Succeeds, Except.map]

/-- A result either succeeds or has a fault. -/
theorem not_succeeds
    {result : Except Fault Value} :
    ¬ Succeeds result ↔ ∃ fault, result = .error fault := by
  cases result with
  | error fault =>
      simp [Succeeds]
  | ok value =>
      simp [Succeeds]

/-- A list of results succeeds if the result of every item does. -/
@[simp] theorem succeeds_mapM
    {work : Value → Except Fault Result}
    {items : List Value} :
    Succeeds (items.mapM work) ↔ ∀ item ∈ items, Succeeds (work item) := by
  induction items with
  | nil =>
      simp [Succeeds, pure, Except.pure]
  | cons item rest inductionHypothesis =>
      rw [List.forall_mem_cons, ← inductionHypothesis, List.mapM_cons]
      cases work item with
      | error fault =>
          simp [Succeeds, bind, Except.bind]
      | ok first =>
          cases rest.mapM work with
          | error fault =>
              simp [Succeeds, bind, Except.bind]
          | ok others =>
              simp [Succeeds, bind, Except.bind, pure, Except.pure]

/-- A result that has no faults but those that are allowed. -/
def FaultsOnly
    (allowed : Fault → Prop)
    (result : Except Fault Value) :
    Prop :=
  ∀ fault, result = .error fault → allowed fault

section FaultsOnly

variable
  {allowed : Fault → Prop}

/-- A result without a fault has none that is not allowed. -/
theorem faultsOnly_ok
    (value : Value) :
    FaultsOnly allowed (.ok value) := by
  intro fault impossible
  cases impossible

/-- A fault that is allowed is a result that has only such faults. -/
theorem faultsOnly_error
    {fault : Fault}
    (isAllowed : allowed fault) :
    FaultsOnly allowed (.error fault : Except Fault Value) := by
  intro other same
  cases same
  exact isAllowed

/-- A sequence of two results has the faults of both. -/
theorem FaultsOnly.bind
    {first : Except Fault Value}
    {next : Value → Except Fault Result}
    (firstFaults : FaultsOnly allowed first)
    (nextFaults :
      ∀ value, first = .ok value → FaultsOnly allowed (next value)) :
    FaultsOnly allowed (first >>= next) := by
  cases first with
  | error fault =>
      exact faultsOnly_error (firstFaults fault rfl)
  | ok value =>
      exact nextFaults value rfl

/-- A changed result has the faults of the result. -/
theorem FaultsOnly.map
    {result : Except Fault Value}
    (faults : FaultsOnly allowed result)
    (change : Value → Result) :
    FaultsOnly allowed (result.map change) := by
  cases result with
  | error fault =>
      exact faultsOnly_error (faults fault rfl)
  | ok value =>
      exact faultsOnly_ok (change value)

/-- A list of results has the faults of the items. -/
theorem FaultsOnly.mapM
    {work : Value → Except Fault Result}
    (faults : ∀ item, FaultsOnly allowed (work item))
    (items : List Value) :
    FaultsOnly allowed (items.mapM work) := by
  induction items with
  | nil =>
      exact faultsOnly_ok []
  | cons item rest inductionHypothesis =>
      rw [List.mapM_cons]
      refine (faults item).bind fun first _ => ?_
      exact inductionHypothesis.bind fun others _ => faultsOnly_ok _

end FaultsOnly

/-- Every result of a list comes from one of the items. -/
theorem exists_of_mem_results
    {ComesFrom : Value → Result → Prop}
    {items : List Value}
    {results : List Result}
    (done : List.Forall₂ ComesFrom items results)
    {result : Result}
    (member : result ∈ results) :
    ∃ item ∈ items, ComesFrom item result := by
  induction done with
  | nil =>
      cases member
  | @cons item first rest others itemDone _ inductionHypothesis =>
      rcases List.mem_cons.mp member with isFirst | inOthers
      · subst isFirst
        exact ⟨item, List.mem_cons_self, itemDone⟩
      · obtain ⟨later, laterMember, laterDone⟩ :=
          inductionHypothesis inOthers
        exact ⟨later, List.mem_cons_of_mem item laterMember, laterDone⟩

/-- The result at an index comes from the item at the index. -/
theorem exists_result_at
    {work : Value → Except Fault Result}
    {items : List Value}
    {results : List Result}
    (done :
      List.Forall₂ (fun item result => work item = .ok result)
        items results)
    {index : Nat}
    {item : Value}
    (atIndex : items[index]? = some item) :
    ∃ result, results[index]? = some result ∧ work item = .ok result := by
  induction done generalizing index with
  | nil =>
      simp at atIndex
  | @cons first result rest others firstDone _ inductionHypothesis =>
      cases index with
      | zero =>
          cases atIndex
          exact ⟨result, rfl, firstDone⟩
      | succ previous =>
          exact inductionHypothesis atIndex

/--
If two kinds of work have the same faults on every item, then they have the
same fault on the list, or both succeed on it.
-/
theorem mapM_agree
    {OtherResult : Type}
    {work : Value → Except Fault Result}
    {otherWork : Value → Except Fault OtherResult}
    {items : List Value}
    (sameFaults :
      ∀ item ∈ items, ∀ fault,
        work item = .error fault ↔ otherWork item = .error fault) :
    (∃ fault,
      items.mapM work = .error fault ∧
        items.mapM otherWork = .error fault) ∨
      ∃ results otherResults,
        items.mapM work = .ok results ∧
          items.mapM otherWork = .ok otherResults := by
  induction items with
  | nil =>
      exact .inr ⟨[], [], rfl, rfl⟩
  | cons item rest inductionHypothesis =>
      have atItem := sameFaults item List.mem_cons_self
      have atRest :=
        inductionHypothesis fun later member =>
          sameFaults later (List.mem_cons_of_mem item member)
      simp only [List.mapM_cons]
      cases worked : work item with
      | error fault =>
          rw [(atItem fault).mp worked]
          exact .inl ⟨fault, rfl, rfl⟩
      | ok result =>
          cases otherWorked : otherWork item with
          | error fault =>
              rw [(atItem fault).mpr otherWorked] at worked
              cases worked
          | ok otherResult =>
              rcases atRest with
                ⟨fault, restFault, otherRestFault⟩ |
                ⟨results, otherResults, restDone, otherRestDone⟩
              · rw [restFault, otherRestFault]
                exact .inl ⟨fault, rfl, rfl⟩
              · rw [restDone, otherRestDone]
                exact .inr ⟨result :: results,
                  otherResult :: otherResults, rfl, rfl⟩

/-- The first fault of a list of results decides. -/
theorem mapM_eq_error
    {work : Value → Except Fault Result}
    {items : List Value}
    {fault : Fault}
    (failed : items.mapM work = .error fault) :
    ∃ earlier item later,
      items = earlier ++ item :: later ∧
        (∀ before ∈ earlier, ∃ result, work before = .ok result) ∧
        work item = .error fault := by
  induction items with
  | nil =>
      cases failed
  | cons item rest inductionHypothesis =>
      rw [List.mapM_cons] at failed
      cases atItem : work item with
      | error itemFault =>
          rw [atItem] at failed
          cases failed
          exact ⟨[], item, rest, rfl, by simp, atItem⟩
      | ok result =>
          cases atRest : rest.mapM work with
          | ok results =>
              rw [atItem, atRest] at failed
              cases failed
          | error restFault =>
              rw [atItem, atRest] at failed
              cases failed
              obtain ⟨earlier, failing, later, shape, done, failure⟩ :=
                inductionHypothesis atRest
              refine ⟨item :: earlier, failing, later, by simp [shape], ?_,
                failure⟩
              intro before member
              rcases List.mem_cons.mp member with isItem | inEarlier
              · subst before
                exact ⟨result, atItem⟩
              · exact done before inEarlier

/-- An item that fails after items that succeed decides. -/
theorem mapM_append_eq_error
    {work : Value → Except Fault Result}
    {earlier later : List Value}
    {item : Value}
    {fault : Fault}
    (done : ∀ before ∈ earlier, Succeeds (work before))
    (failed : work item = .error fault) :
    (earlier ++ item :: later).mapM work = .error fault := by
  induction earlier with
  | nil =>
      rw [List.nil_append, List.mapM_cons, failed]
      rfl
  | cons first rest inductionHypothesis =>
      obtain ⟨result, firstDone⟩ := done first List.mem_cons_self
      have restFailed :=
        inductionHypothesis fun before member =>
          done before (List.mem_cons_of_mem first member)
      rw [List.cons_append, List.mapM_cons, firstDone, restFailed]
      rfl

end Outcome

namespace Run

variable
  {Fault OtherFault Value Result : Type}

@[simp] theorem outcome_pure
    (value : Value) :
    (pure value : Run Fault Value).outcome = .ok value :=
  rfl

@[simp] theorem outcome_bind
    (run : Run Fault Value)
    (next : Value → Run Fault Result) :
    (run >>= next).outcome =
      run.outcome >>= fun value => (next value).outcome := by
  rcases run with ⟨records, outcome⟩
  cases outcome <;> rfl

@[simp] theorem outcome_map
    (change : Value → Result)
    (run : Run Fault Value) :
    (change <$> run).outcome = run.outcome.map change :=
  rfl

@[simp] theorem outcome_ofExcept
    (outcome : Except Fault Value) :
    (ofExcept outcome).outcome = outcome :=
  rfl

@[simp] theorem outcome_write
    (records : List Record) :
    (write records : Run Fault Unit).outcome = .ok () :=
  rfl

@[simp] theorem outcome_log
    (level : Level)
    (message : String) :
    (log level message : Run Fault Unit).outcome = .ok () :=
  rfl

@[simp] theorem outcome_mapFault
    (change : Fault → OtherFault)
    (run : Run Fault Value) :
    (run.mapFault change).outcome = run.outcome.mapError change :=
  rfl

end Run

end Keystroke
