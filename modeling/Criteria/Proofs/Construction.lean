import Criteria.Proofs.NotationReading
import Criteria.Proofs.Offences

namespace Criteria

theorem Where.wellShaped_ofGroup (group : Group) : (Where.ofGroup group).WellShaped :=
  ⟨alternates_cons_iff.mpr ⟨Bool.false_ne_true, .nil⟩, trivial, trivial⟩

theorem Where.wellShaped_ofJson {j : Json} {tree : Where} (h : Where.ofJson j = .ok tree) :
    tree.WellShaped :=
  (ofJson_eq_ok_iff.mp h).wellShaped

theorem Where.WellShaped.nested {tree : Where} (h : tree.WellShaped) : tree.nested.WellShaped := by
  have hnode : (Node.nested tree.nodes).WellShaped := by
    rw [Node.WellShaped]
    exact h
  exact ⟨alternates_cons_iff.mpr ⟨Bool.false_ne_true, .nil⟩, hnode, trivial⟩

/-- An operand goes behind a level that alternates, or begins one. -/
theorem Where.wellShaped_append {tree : Where} {operand : Node}
    (h : tree = .empty ∨ tree.WellShaped) (c : Connective) (ho : ¬ operand.isConnective)
    (hw : operand.WellShaped) : (tree.append c operand).WellShaped := by
  rcases h with rfl | ⟨ha, hn⟩
  · exact ⟨alternates_cons_iff.mpr ⟨ho, .nil⟩, hw, trivial⟩
  · have hne : ¬ tree.nodes.isEmpty := by simpa using ha.ne_nil
    rw [append, if_neg hne]
    refine ⟨ha.concat c ho, allWellShaped_iff.mpr fun node hm => ?_⟩
    rcases List.mem_append.mp hm with hm | hm
    · exact allWellShaped_iff.mp hn node hm
    · rcases List.mem_pair.mp hm with rfl | rfl
      · trivial
      · exact hw

/-- Trees made out of each other by constructors and appending. The empty tree is a start and no
more: the flag tells whether an operand was put in. -/
inductive Where.Made : Bool → Where → Prop
  | empty : Made false .empty
  | ofGroup (group : Group) : Made true (.ofGroup group)
  | ofJson {j : Json} {tree : Where} (h : Where.ofJson j = .ok tree) : Made true tree
  | nested {tree : Where} (h : Made true tree) : Made true tree.nested
  | and {begun : Bool} {tree : Where} (h : Made begun tree) (group : Group) :
      Made true (tree.and group)
  | or {begun : Bool} {tree : Where} (h : Made begun tree) (group : Group) :
      Made true (tree.or group)
  | andNested {begun : Bool} {tree inner : Where} (h : Made begun tree) (hi : Made true inner) :
      Made true (tree.andNested inner)
  | orNested {begun : Bool} {tree inner : Where} (h : Made begun tree) (hi : Made true inner) :
      Made true (tree.orNested inner)

theorem Where.Made.wellShaped {begun : Bool} {tree : Where} (h : Made begun tree) :
    if begun then tree.WellShaped else tree = .empty := by
  have hstart {begun : Bool} {tree : Where} (h : if begun then tree.WellShaped else tree = .empty) :
      tree = .empty ∨ tree.WellShaped := by
    cases begun with
    | false => exact .inl h
    | true => exact .inr h
  induction h with
  | empty => rfl
  | ofGroup group => exact wellShaped_ofGroup group
  | ofJson h => exact wellShaped_ofJson h
  | nested _ ih => exact WellShaped.nested ih
  | and _ group ih => exact wellShaped_append (hstart ih) .and Bool.false_ne_true trivial
  | or _ group ih => exact wellShaped_append (hstart ih) .or Bool.false_ne_true trivial
  | andNested _ _ ih ihInner =>
    refine wellShaped_append (hstart ih) .and Bool.false_ne_true ?_
    rw [Node.WellShaped]
    exact ihInner
  | orNested _ _ ih ihInner =>
    refine wellShaped_append (hstart ih) .or Bool.false_ne_true ?_
    rw [Node.WellShaped]
    exact ihInner

mutual

/-- Where every level alternates, only entries are at fault. -/
theorem Node.offences_of_wellShaped : ∀ node : Node, node.WellShaped →
    node.offences = node.entries.flatMap entryOffences
  | .group g, _ => by
    rw [Node.offences, Node.entries]
  | .connective c, _ => by
    rw [Node.offences, Node.entries, List.flatMap_nil]
  | .nested nodes, h => by
    rw [Node.WellShaped] at h
    rw [Node.offences, Node.entries, shapeOffences_eq_nil_iff.mpr h.1, List.nil_append,
      levelOffences_of_wellShaped nodes h.2]

theorem levelOffences_of_wellShaped : ∀ nodes : List Node, AllWellShaped nodes →
    levelOffences nodes = (presentEntries nodes).flatMap entryOffences
  | [], _ => by
    rw [levelOffences, presentEntries, List.flatMap_nil]
  | node :: rest, h => by
    rw [levelOffences, presentEntries, List.flatMap_append, node.offences_of_wellShaped h.1,
      levelOffences_of_wellShaped rest h.2]

end

theorem Where.offences_of_wellShaped {tree : Where} (h : tree.WellShaped) :
    tree.offences = tree.entries.flatMap entryOffences := by
  rw [Where.offences, Where.entries, shapeOffences_eq_nil_iff.mpr h.1, List.nil_append,
    levelOffences_of_wellShaped _ h.2]

theorem Where.WellShaped.ofEntries_of_compile {tree : Where} (h : tree.WellShaped) {format : Format}
    {offset : Nat} {error : BuildError} (he : tree.compile format offset = .error error) :
    error.OfEntries tree.entries := by
  have hf := tree.failure?_compile format offset
  rw [failure?_eq_some_iff.mpr he, Where.offences_of_wellShaped h] at hf
  obtain ⟨entry, hm, hoffence⟩ := List.mem_flatMap.mp (List.mem_of_head? hf.symm)
  obtain ⟨_, hs, hkey⟩ := BuildError.ofEntries_of_mem_entryOffences hoffence
  cases List.mem_singleton.mp hs
  exact ⟨entry, hm, hkey⟩

/-- Trees made by constructors and appending alternate at every depth. So no level of one is ever at
fault: what fails to compile is an entry whose operand its key does not admit. -/
theorem Where.Made.wellShaped_compile {tree : Where} (h : Made true tree) :
    tree.WellShaped ∧ ∀ format offset error, tree.compile format offset = .error error →
      ¬ error.isShape ∧ error.OfEntries tree.entries := by
  have hw : tree.WellShaped := h.wellShaped
  refine ⟨hw, fun format offset error he => ?_⟩
  have hentries := hw.ofEntries_of_compile he
  refine ⟨?_, hentries⟩
  obtain ⟨_, _, _, _, rfl | rfl⟩ := hentries <;> exact Bool.false_ne_true

def storedFruits : Json :=
  .array [.object [("id", .number (.integer 5))], .string "or",
    .array [.array [.object [("<ripe", .null)]]]]

/-- A level that was read goes one level deeper, behind a group that was put into the empty tree. -/
theorem Where.wellShaped_compile_storedFruits :
    ∃ stored tree : Where, Where.ofJson storedFruits = .ok stored ∧
      tree = (Where.empty.and {}).orNested stored.nested ∧ Made true tree ∧ tree.WellShaped ∧
      tree.compile {} 0 = .error (.nullComparison "ripe" .less false) ∧
      BuildError.OfEntries tree.entries (.nullComparison "ripe" .less false) := by
  have hj : Where.ofJson storedFruits =
      .ok ((Where.ofGroup (Group.withOperand {} "id" (.scalar (.int 5)))).orNested
        (Where.ofGroup (Group.withOperand {} "<ripe" (.scalar .null)))) := by
    rfl
  have hm := (Made.empty.and {}).orNested (Made.ofJson hj).nested
  have h := hm.wellShaped_compile
  exact ⟨_, _, hj, rfl, hm, h.1, rfl, (h.2 {} 0 _ rfl).2⟩

end Criteria
