import Criteria.Proofs.LastValues
import Criteria.Proofs.LatestChanges

namespace Criteria

namespace Keyed

/-- A value that is put in under its key, or one that may be missing. -/
inductive Put (α : Type) where
  | present (key : String) (value : α)
  | optional (key : String) (value : Option α)

namespace Put

variable {α : Type}

/-- The pairs that count where a missing value leaves everything as it is. -/
def given : Put α → List (String × α)
  | .present key value => [(key, value)]
  | .optional key value => (value.map (key, ·)).toList

/-- The pairs that count where it is recorded that a value is missing. -/
def recorded : Put α → List (String × Option α)
  | .present key value => [(key, some value)]
  | .optional key value => [(key, value)]

end Put

variable {α : Type}

/-- A run of steps that each put in some pairs puts in all of them, in order. -/
theorem foldl_insertAll {σ β : Type} {step : σ → β → σ} {given : β → List (String × α)}
    (view : σ → Keyed α) (h : ∀ s b, view (step s b) = (view s).insertAll (given b)) (s : σ)
    (steps : List β) :
    view (steps.foldl step s) = (view s).insertAll (steps.flatMap given) := by
  induction steps generalizing s with
  | nil => rfl
  | cons b steps ih => rw [List.foldl_cons, ih, h, List.flatMap_cons, insertAll_append]

end Keyed

/-- In a group it is recorded that an operand is missing. -/
def Group.put (group : Group) : Keyed.Put Operand → Group
  | .present key operand => group.withOperand key operand
  | .optional key operand => group.withOption key operand

/-- In a row nothing stands for a missing value. -/
def Row.put (row : Row) : Keyed.Put Value → Row
  | .present column value => row.insert column value
  | .optional column value => row.insert? column value

theorem Group.put_eq (group : Group) (p : Keyed.Put Operand) :
    group.put p = group.insertAll p.recorded := by
  cases p <;> rfl

theorem Row.put_eq (row : Row) (p : Keyed.Put Value) : row.put p = row.insertAll p.given := by
  cases p with
  | present column value => rfl
  | optional column value => cases value <;> rfl

namespace Change

/-- The columns that a change of an update gives values for. -/
def givenAssignments : Change → List (String × Value)
  | .set column value => [(column, value)]
  | .setOptional column value => (value.map (column, ·)).toList
  | .setRow r => r.entries
  | _ => []

/-- Whether a change of an update leaves the values of its columns that are there. -/
def keepsAssignments : Change → Bool
  | .setRow _ => false
  | _ => true

/-- The values of columns that are given by changes of an update since the last row that replaced
all. -/
def recordedAssignments (changes : List Change) : List (String × Value) :=
  (latest keepsAssignments changes).flatMap givenAssignments

/-- The option that a change of a query gives a value for. -/
def givenOptions : Change → List (String × Value)
  | .option name value => [(name, value)]
  | _ => []

end Change

theorem Update.assignments_apply (u : Update) (change : Change) :
    (u.apply change).assignments =
      Keyed.insertAll (if change.keepsAssignments then u.assignments else {})
        change.givenAssignments := by
  cases change with
  | setOptional column value => cases value <;> rfl
  | setRow row => exact (Keyed.ofList_entries row).symm
  | _ => rfl

theorem Update.assignments_foldl (table : String) (changes : List Change) :
    (changes.foldl apply { table }).assignments =
      Keyed.ofList (Change.recordedAssignments changes) := by
  have h := Change.foldl_latest_of_extend Keyed.insertAll (fun _ => rfl) Keyed.insertAll_append
    assignments_apply { table } changes
  rwa [ite_self] at h

theorem Select.options_apply (s : Select) (change : Change) :
    (s.apply change).options = s.options.insertAll change.givenOptions := by
  cases change <;> rfl

theorem Select.options_foldl (columns : List String) (changes : List Change) :
    (changes.foldl apply (ofColumns columns)).options =
      Keyed.ofList (changes.flatMap Change.givenOptions) :=
  Keyed.foldl_insertAll options options_apply _ changes

theorem Group.foldl_put (pairs : List (String × Option Operand)) (puts : List (Keyed.Put Operand)) :
    puts.foldl put (Keyed.ofList pairs) =
      Keyed.ofList (pairs ++ puts.flatMap Keyed.Put.recorded) :=
  (Keyed.foldl_insertAll id put_eq _ puts).trans (Keyed.insertAll_ofList pairs _)

theorem Row.foldl_put (pairs : List (String × Value)) (puts : List (Keyed.Put Value)) :
    puts.foldl put (Keyed.ofList pairs) =
      Keyed.ofList (pairs ++ puts.flatMap Keyed.Put.given) :=
  (Keyed.foldl_insertAll id put_eq _ puts).trans (Keyed.insertAll_ofList pairs _)

/-- What is put in under keys, one after the other, is settled: every key stands once, where it came
first, with what came last for it. In a group a missing operand is put in like any other, in a row
and in an update a missing value is not; what an update sets begins anew with a row that replaces
all. The same pairs give the same group or row one by one and all at once. -/
theorem entries_settled :
    (∀ (pairs : List (String × Option Operand)) (puts : List (Keyed.Put Operand)),
      Keyed.Settled (pairs ++ puts.flatMap Keyed.Put.recorded)
        (puts.foldl Group.put (Keyed.ofList pairs)).entries ∧
      puts.foldl Group.put (Keyed.ofList pairs) =
        Keyed.ofList (pairs ++ puts.flatMap Keyed.Put.recorded)) ∧
    (∀ (pairs : List (String × Value)) (puts : List (Keyed.Put Value)),
      Keyed.Settled (pairs ++ puts.flatMap Keyed.Put.given)
        (puts.foldl Row.put (Keyed.ofList pairs)).entries ∧
      puts.foldl Row.put (Keyed.ofList pairs) =
        Keyed.ofList (pairs ++ puts.flatMap Keyed.Put.given)) ∧
    (∀ (table : String) (changes : List Change),
      Keyed.Settled (Change.recordedAssignments changes)
        (changes.foldl Update.apply { table }).assignments.entries ∧
      (changes.foldl Update.apply { table }).assignments =
        Keyed.ofList (Change.recordedAssignments changes)) ∧
    ∀ (columns : List String) (changes : List Change),
      Keyed.Settled (changes.flatMap Change.givenOptions)
        (changes.foldl Select.apply (Select.ofColumns columns)).options.entries := by
  refine ⟨fun pairs puts => ?_, fun pairs puts => ?_, fun table changes => ?_,
    fun columns changes => ?_⟩
  · rw [Group.foldl_put]
    exact ⟨Keyed.settled_ofList _, rfl⟩
  · rw [Row.foldl_put]
    exact ⟨Keyed.settled_ofList _, rfl⟩
  · rw [Update.assignments_foldl]
    exact ⟨Keyed.settled_ofList _, rfl⟩
  · rw [Select.options_foldl]
    exact Keyed.settled_ofList _

/-- Nothing is left from before the row, a missing value claims no place, and a column that is set
again keeps the place it has in the row. -/
example :
    ([Change.set "ripe" .null, .setRow (Keyed.ofList [("name", .text "kiwi"), ("weight", .int 2)]),
      .setOptional "ripe" none, .set "price" (.int 3), .set "ripe" (.int 1),
      .set "name" (.text "fig")].foldl Update.apply { table := "fruits" }).assignments.entries =
      [("name", .text "fig"), ("weight", .int 2), ("price", .int 3), ("ripe", .int 1)] := by
  decide

end Criteria
