import Criteria.Proofs.ConditionMeaning

namespace Criteria

/-- What may stand in front of a column, and what a key with it asks for. -/
structure KeyMark where
  text : String
  operator : Operator
  negated : Bool
  deriving DecidableEq

/-- Every mark. A shorter one may begin a longer one. -/
def KeyMark.table : List KeyMark :=
  [⟨"!<=", .greater, false⟩, ⟨"!<>", .between, true⟩, ⟨"!<", .greaterEqual, false⟩,
    ⟨"!>=", .less, false⟩, ⟨"!>", .lessEqual, false⟩, ⟨"!%", .like, true⟩, ⟨"!", .equal, true⟩,
    ⟨"%", .like, false⟩, ⟨"<>", .between, false⟩, ⟨"<=", .lessEqual, false⟩, ⟨"<", .less, false⟩,
    ⟨">=", .greaterEqual, false⟩, ⟨">", .greater, false⟩]

/-- What an exclamation mark makes of an operator, and whether that is negated. -/
def Operator.opposite : Operator → Operator × Bool
  | .less => (.greaterEqual, false)
  | .greaterEqual => (.less, false)
  | .lessEqual => (.greater, false)
  | .greater => (.lessEqual, false)
  | .equal => (.equal, true)
  | .like => (.like, true)
  | .between => (.between, true)

namespace Operator

def all : List Operator :=
  [.equal, .like, .less, .lessEqual, .greater, .greaterEqual, .between]

theorem mem_all (operator : Operator) : operator ∈ all := by
  cases operator <;> decide

theorem mem_tail_all_iff (operator : Operator) : operator ∈ all.tail ↔ operator ≠ .equal := by
  cases operator <;> decide

theorem length_mark_pos {operator : Operator} (h : operator ≠ .equal) :
    0 < operator.mark.toList.length := by
  cases operator <;> simp_all [mark]

/-- The operator in front of a key without negation is the one with the longest mark, and the column
is what stands behind this mark. -/
theorem ofMark_longest (cs : List Char) :
    cs = (ofMark cs).1.mark.toList ++ (ofMark cs).2 ∧
      ∀ operator : Operator, operator.mark.toList <+: cs →
        operator.mark.toList.length ≤ (ofMark cs).1.mark.toList.length := by
  fun_cases ofMark cs
  all_goals
    refine ⟨by simp [mark], fun operator h => ?_⟩
    cases operator <;> simp_all [mark, List.cons_prefix_iff]

end Operator

namespace KeyMark

/-- The mark of an operator that is not negated. -/
def plain (operator : Operator) : KeyMark := ⟨operator.mark, operator, false⟩

/-- The mark of the opposite of an operator. -/
def opposite (operator : Operator) : KeyMark :=
  ⟨"!" ++ operator.mark, operator.opposite.1, operator.opposite.2⟩

theorem table_perm : table.Perm (Operator.all.map opposite ++ Operator.all.tail.map plain) := by
  decide

theorem mem_table_iff {entry : KeyMark} :
    entry ∈ table ↔ (∃ operator, opposite operator = entry) ∨
      ∃ operator, operator ≠ .equal ∧ plain operator = entry := by
  rw [table_perm.mem_iff, List.mem_append, List.mem_map, List.mem_map]
  refine or_congr (exists_congr fun operator => ?_) (exists_congr fun operator => ?_)
  · exact and_iff_right operator.mem_all
  · exact and_congr_left' operator.mem_tail_all_iff

theorem negated_of_isOrdering : ∀ entry ∈ table, entry.operator.isOrdering →
    entry.negated = false := by
  decide

/-- Behind an exclamation mark only marks of opposites fit. -/
theorem exists_opposite_of_prefix {entry : KeyMark} {cs : List Char} (h : entry ∈ table)
    (hp : entry.text.toList <+: '!' :: cs) :
    ∃ operator, opposite operator = entry ∧ operator.mark.toList <+: cs := by
  rcases mem_table_iff.mp h with ⟨operator, rfl⟩ | ⟨operator, hne, rfl⟩
  · refine ⟨operator, rfl, ?_⟩
    rw [opposite, String.toList_append] at hp
    exact (List.cons_prefix_cons.mp hp).2
  · exfalso
    cases operator <;> simp_all [plain, Operator.mark]

/-- Without an exclamation mark only marks of operators themselves fit. -/
theorem exists_plain_of_prefix {entry : KeyMark} {cs : List Char} (h : entry ∈ table)
    (hcs : cs.head? ≠ some '!') (hp : entry.text.toList <+: cs) :
    ∃ operator, operator ≠ .equal ∧ plain operator = entry ∧ operator.mark.toList <+: cs := by
  rcases mem_table_iff.mp h with ⟨operator, rfl⟩ | ⟨operator, hne, rfl⟩
  · obtain ⟨rest, rfl⟩ := hp
    rw [opposite, String.toList_append] at hcs
    exact absurd rfl hcs
  · exact ⟨operator, hne, rfl, hp⟩

end KeyMark

namespace ConditionKey

theorem complement_plain (column : String) (operator : Operator) :
    complement ⟨column, operator, false⟩ = ⟨column, operator.opposite.1, operator.opposite.2⟩ := by
  cases operator <;> rfl

theorem ofText_plain {key : String} (h : key.toList.head? ≠ some '!') :
    ofText key =
      ⟨String.ofList (Operator.ofMark key.toList).2, (Operator.ofMark key.toList).1, false⟩ := by
  rw [ofText, ofChars.eq_2 _ fun cs hcs => h (by rw [hcs]; rfl)]
  rfl

theorem ofText_opposite (key : String) :
    ofText ("!" ++ key) = ⟨String.ofList (Operator.ofMark key.toList).2,
      (Operator.ofMark key.toList).1.opposite.1, (Operator.ofMark key.toList).1.opposite.2⟩ := by
  rw [ofText, String.toList_append]
  exact complement_plain _ _

/-- A key begins with a mark that it is read by: the longest mark that fits, or none where none
fits. -/
structure TakesMark (key mark : String) (read : ConditionKey) : Prop where
  column : key = mark ++ read.column
  longest : ∀ entry ∈ KeyMark.table, entry.text.toList <+: key.toList →
    entry.text.length ≤ mark.length
  entry : ⟨mark, read.operator, read.negated⟩ ∈ KeyMark.table ∨
    (∀ entry ∈ KeyMark.table, ¬ entry.text.toList <+: key.toList) ∧
      mark = "" ∧ read.operator = .equal ∧ read.negated = false

theorem takesMark_opposite (key : String) :
    TakesMark ("!" ++ key) ("!" ++ (Operator.ofMark key.toList).1.mark) (ofText ("!" ++ key)) := by
  obtain ⟨hsplit, hlongest⟩ := Operator.ofMark_longest key.toList
  rw [ofText_opposite]
  refine ⟨?_, fun entry he hp => ?_, .inl (KeyMark.mem_table_iff.mpr (.inl ⟨_, rfl⟩))⟩
  · rw [String.append_assoc]
    refine congrArg _ (String.toList_inj.mp ?_)
    rw [String.toList_append, String.toList_ofList]
    exact hsplit
  · rw [String.toList_append] at hp
    obtain ⟨operator, rfl, hmark⟩ := KeyMark.exists_opposite_of_prefix he hp
    rw [KeyMark.opposite, String.length_append, String.length_append]
    exact Nat.add_le_add_left (hlongest operator hmark) _

theorem takesMark_plain {key : String} (h : key.toList.head? ≠ some '!') :
    TakesMark key (Operator.ofMark key.toList).1.mark (ofText key) := by
  obtain ⟨hsplit, hlongest⟩ := Operator.ofMark_longest key.toList
  rw [ofText_plain h]
  refine ⟨?_, fun entry he hp => ?_, ?_⟩
  · refine String.toList_inj.mp ?_
    rw [String.toList_append, String.toList_ofList]
    exact hsplit
  · obtain ⟨operator, _, rfl, hmark⟩ := KeyMark.exists_plain_of_prefix he h hp
    exact hlongest operator hmark
  · by_cases hequal : (Operator.ofMark key.toList).1 = .equal
    · refine .inr ⟨fun entry he hp => ?_, by rw [hequal]; rfl, hequal, rfl⟩
      obtain ⟨operator, hne, rfl, hmark⟩ := KeyMark.exists_plain_of_prefix he h hp
      have hlength := hlongest operator hmark
      rw [hequal] at hlength
      exact absurd (Operator.length_mark_pos hne) (Nat.not_lt.mpr hlength)
    · exact .inl (KeyMark.mem_table_iff.mpr (.inr ⟨_, hequal, rfl⟩))

theorem exists_takesMark (key : String) : ∃ mark, TakesMark key mark (ofText key) := by
  by_cases h : key.toList.head? = some '!'
  · obtain ⟨cs, hcs⟩ := List.head?_eq_some_iff.mp h
    have hkey : key = "!" ++ String.ofList cs := by
      rw [← String.toList_inj, hcs]
      simp
    exact ⟨_, hkey ▸ takesMark_opposite (String.ofList cs)⟩
  · exact ⟨_, takesMark_plain h⟩

/-- Of the marks that a key begins with the longest one is taken, and the column is all that stands
behind it. An exclamation mark in front turns what a key asks for into the opposite; none of the
order comparisons is ever negated. -/
theorem ofText_longest_mark (key : String) :
    (∃ mark, TakesMark key mark (ofText key)) ∧
    (key.toList.head? ≠ some '!' → (ofText key).negated = false ∧
      ofText ("!" ++ key) = ⟨(ofText key).column, (ofText key).operator.opposite.1,
        (ofText key).operator.opposite.2⟩) ∧
    ((ofText key).operator.isOrdering → (ofText key).negated = false) := by
  obtain ⟨mark, hmark⟩ := exists_takesMark key
  refine ⟨⟨mark, hmark⟩, fun h => ?_, fun ho => ?_⟩
  · rw [ofText_opposite, ofText_plain h]
    exact ⟨rfl, rfl⟩
  · rcases hmark.entry with he | ⟨_, _, _, hn⟩
    · exact KeyMark.negated_of_isOrdering _ he ho
    · exact hn

/-- Of `<`, `<=` and, behind the exclamation mark, `!<=` the longest is taken; `>` stays with the
column. -/
theorem ofText_longest_mark_weight :
    "<=>weight".toList.head? ≠ some '!' ∧
    (∃ mark, TakesMark "<=>weight" mark ⟨">weight", .lessEqual, false⟩) ∧
    ofText "!<=>weight" = ⟨">weight", .greater, false⟩ := by
  have hread : ofText "<=>weight" = ⟨">weight", .lessEqual, false⟩ := by
    decide
  have hplain : "<=>weight".toList.head? ≠ some '!' := by
    decide
  obtain ⟨hmark, hopposite, _⟩ := ofText_longest_mark "<=>weight"
  rw [hread] at hmark hopposite
  exact ⟨hplain, hmark, (hopposite hplain).2⟩

end ConditionKey

end Criteria
