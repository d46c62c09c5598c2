import Criteria.Proofs.ConditionForms
import Criteria.Proofs.PresentEntries
import Criteria.Statement

namespace Criteria

/-- The same keys with other values. -/
def Keyed.map {α β : Type} (f : α → β) (m : Keyed α) : Keyed β where
  entries := m.entries.map fun entry => (entry.1, f entry.2)
  nodup_keys := by simpa [Function.comp_def] using m.nodup_keys

theorem Keyed.isEmpty_map {α β : Type} (f : α → β) (m : Keyed α) :
    (m.map f).isEmpty = m.isEmpty := by
  simp [Keyed.isEmpty, Keyed.map]

/-- A change of values that keeps null and makes nothing else null. -/
def KeepsNull (f : Value → Value) : Prop := ∀ value, (f value).isNull = value.isNull

section

variable (f : Value → Value)

def Operand.map : Operand → Operand
  | .scalar value => .scalar (f value)
  | .list values => .list (values.map f)

def Group.map (g : Group) : Group := Keyed.map (Option.map (Operand.map f)) g

mutual

def Node.map : Node → Node
  | .group g => .group (g.map f)
  | .connective c => .connective c
  | .nested nodes => .nested (mapNodes nodes)

def mapNodes : List Node → List Node
  | [] => []
  | node :: rest => node.map :: mapNodes rest

end

def Where.map (tree : Where) : Where := ⟨mapNodes f tree.nodes⟩

def Atom.map : Atom → Atom
  | .compare column comparison value => .compare column comparison (f value)
  | .isNull column negated => .isNull column negated
  | .isIn column negated values => .isIn column negated (values.map f)
  | .numerals left right => .numerals left right

def Condition.map : Condition → Condition
  | .atom a => .atom (a.map f)
  | .joined c atoms => .joined c (atoms.map (Atom.map f))

mutual

def Term.map : Term → Term
  | .group first rest => .group (first.map f) (rest.map (Condition.map f))
  | .block first rest => .block first.map (mapLinks rest)

def mapLinks : List (Connective × Term) → List (Connective × Term)
  | [] => []
  | (c, term) :: rest => (c, term.map) :: mapLinks rest

end

def Clause.map (clause : Clause) : Clause := ⟨clause.first.map f, mapLinks f clause.rest⟩

def Piece.map : Piece → Piece
  | .text s => .text s
  | .bound value => .bound (f value)

def Template.map (t : Template) : Template := List.map (Piece.map f) t

def Fragment.map (fragment : Fragment) : Fragment := ⟨fragment.sql, fragment.params.map f⟩

namespace Template

theorem map_append (a b : Template) : Template.map f (a ++ b) = a.map f ++ b.map f :=
  List.map_append

theorem values_map (t : Template) : (t.map f).values = t.values.map f := by
  induction t with
  | nil => rfl
  | cons piece rest ih =>
    cases piece with
    | text s => exact ih
    | bound value => exact congrArg (f value :: ·) ih

theorem sql_map (style : Placeholder) (offset : Nat) (t : Template) :
    (t.map f).sql style offset = t.sql style offset := by
  induction t generalizing offset with
  | nil => rfl
  | cons piece rest ih =>
    cases piece with
    | text s => exact congrArg (s ++ ·) (ih offset)
    | bound value => exact congrArg (style.mark (offset + 1) ++ ·) (ih (offset + 1))

theorem fragment_map (style : Placeholder) (offset : Nat) (t : Template) :
    (t.map f).fragment style offset = (t.fragment style offset).map f := by
  simp only [fragment, Fragment.map, values_map, sql_map]

theorem map_joined (separator : String) (parts : List Template) :
    (joined separator parts).map f = joined separator (parts.map (Template.map f)) := by
  induction parts with
  | nil => rfl
  | cons part rest ih =>
    cases rest with
    | nil => simp
    | cons next rest =>
      rw [joined_cons_cons, map_append, List.map_cons, List.map_cons, joined_cons_cons,
        ← List.map_cons, ← ih]
      rfl

theorem map_parenthesised (t : Template) : t.parenthesised.map f = (t.map f).parenthesised := by
  rw [parenthesised, parenthesised, map_append]
  rfl

theorem map_joined_bound (separator : String) (vs : List Value) :
    (joined separator (vs.map fun value => [.bound value])).map f =
      joined separator ((vs.map f).map fun value => [.bound value]) := by
  rw [map_joined, List.map_map, List.map_map]
  rfl

end Template

theorem Atom.template_map (a : Atom) : (a.map f).template = a.template.map f := by
  cases a with
  | isIn column negated values =>
    rw [map, template, template, Template.map_append, ← Template.map_joined_bound]
    rfl
  | _ => rfl

theorem Condition.template_map (c : Condition) : (c.map f).template = c.template.map f := by
  cases c with
  | atom a => exact a.template_map f
  | joined c atoms =>
    rw [map, template, template, Template.map_parenthesised, Template.map_joined]
    simp [Function.comp_def, Atom.template_map]

theorem groupTemplate_map (first : Condition) (rest : List Condition) :
    groupTemplate (first.map f) (rest.map (Condition.map f)) = (groupTemplate first rest).map f := by
  cases rest with
  | nil => exact first.template_map f
  | cons next rest =>
    simp [groupTemplate, Template.map_parenthesised, Template.map_joined, Function.comp_def,
      Condition.template_map]

mutual

theorem Term.template_map (indent depth : Nat) : ∀ term : Term,
    (term.map f).template indent depth = (term.template indent depth).map f
  | .group first rest => by
    rw [Term.map, Term.template, Term.template, groupTemplate_map]
  | .block first rest => by
    rw [Term.map, Term.template, Term.template, Term.template_map indent (depth + 1) first,
      linkedTemplate_map indent (depth + 1) rest]
    simp [Template.map, Piece.map]

theorem linkedTemplate_map (indent depth : Nat) : ∀ links : List (Connective × Term),
    linkedTemplate indent depth (mapLinks f links) = (linkedTemplate indent depth links).map f
  | [] => rfl
  | (c, term) :: rest => by
    rw [mapLinks, linkedTemplate, linkedTemplate, Term.template_map indent depth term,
      linkedTemplate_map indent depth rest]
    simp [Template.map, Piece.map]

end

theorem Clause.template_map (indent : Nat) (clause : Clause) :
    (clause.map f).template indent = (clause.template indent).map f := by
  rw [map, template, template, Term.template_map, linkedTemplate_map, Template.map_append]

end

theorem mapM_map_eq {α β γ δ ε : Type} {g : α → β} {h : γ → δ} {F : β → Except ε δ}
    {G : α → Except ε γ} (hc : ∀ a, F (g a) = (G a).map h) (xs : List α) :
    (xs.map g).mapM F = (xs.mapM G).map (List.map h) := by
  induction xs with
  | nil => rfl
  | cons x xs ih =>
    rw [List.map_cons, List.mapM_cons, List.mapM_cons, ih, hc]
    cases G x with
    | error e => rfl
    | ok c => cases xs.mapM G <;> rfl

section

variable {f : Value → Value}

theorem KeepsNull.nonNull_map (hf : KeepsNull f) (values : List Value) :
    nonNull (values.map f) = (nonNull values).map f := by
  rw [nonNull, nonNull, List.filter_map]
  congr 1
  exact List.filter_congr fun value _ => by rw [Function.comp_apply, hf]

theorem KeepsNull.any_map (hf : KeepsNull f) (values : List Value) :
    (values.map f).any Value.isNull = values.any Value.isNull := by
  rw [List.any_map]
  congr 1
  exact funext hf

namespace ConditionKey

variable (key : ConditionKey)

theorem equality_map (hf : KeepsNull f) (operand : Operand) :
    key.equality (operand.map f) = (key.equality operand).map f := by
  cases operand with
  | scalar value =>
    rw [Operand.map, equality_scalar, equality_scalar, hf]
    split <;> rfl
  | list values =>
    by_cases hv : values = []
    · rw [hv]
      rfl
    · rw [Operand.map, key.equality_list hv, key.equality_list (by simpa using hv), hf.nonNull_map]
      simp only [List.map_eq_nil_iff, List.length_map]
      split
      next => rfl
      next => split <;> rfl

theorem likeness_map (hf : KeepsNull f) (operand : Operand) :
    key.likeness (operand.map f) = (key.likeness operand).map f := by
  cases operand with
  | scalar value =>
    rw [Operand.map, likeness_scalar, likeness_scalar, hf]
    split <;> rfl
  | list values =>
    by_cases hv : values = []
    · rw [hv]
      rfl
    · rw [Operand.map, key.likeness_list hv, key.likeness_list (by simpa using hv), hf.nonNull_map]
      simp only [List.length_map, Condition.map, List.map_append, List.map_map]
      congr 2
      split <;> rfl

theorem ordering_map (hf : KeepsNull f) (comparison : Comparison) (operand : Operand) :
    key.ordering comparison (operand.map f) =
      (key.ordering comparison operand).map (Condition.map f) := by
  cases operand with
  | scalar value =>
    rw [Operand.map, ordering_scalar, ordering_scalar, hf]
    split <;> rfl
  | list values =>
    rw [Operand.map, ordering_list, ordering_list, hf.any_map, List.map_map]
    simp only [List.map_eq_nil_iff]
    split
    next => rfl
    next =>
      split
      next => rfl
      next =>
        rw [Except.map, Condition.map, List.map_map]
        rfl

theorem bounds_map (hf : KeepsNull f) (operand : Operand) :
    key.bounds (operand.map f) = (key.bounds operand).map (Condition.map f) := by
  match operand with
  | .list [low, high] =>
    rw [Operand.map, List.map_cons, List.map_cons, List.map_nil, bounds_pair, bounds_pair, hf, hf]
    split
    next => rfl
    next => split <;> rfl
  | .scalar _ => rfl
  | .list [] => rfl
  | .list [_] => rfl
  | .list (_ :: _ :: _ :: _) => rfl

/-- What a key asks for does not hang on the values but for null among them. -/
theorem condition_map (hf : KeepsNull f) (operand : Operand) :
    key.condition (operand.map f) = (key.condition operand).map (Condition.map f) := by
  unfold condition
  split
  next => exact congrArg Except.ok (key.equality_map hf operand)
  next => exact congrArg Except.ok (key.likeness_map hf operand)
  next => exact key.bounds_map hf operand
  next => exact key.ordering_map hf _ operand
  next => exact key.ordering_map hf _ operand
  next => exact key.ordering_map hf _ operand
  next => exact key.ordering_map hf _ operand

end ConditionKey

theorem Group.present_map (g : Group) :
    (g.map f).present = g.present.map fun entry => (entry.1, entry.2.map f) := by
  simp only [present, Group.map, Keyed.map, List.filterMap_map, List.map_filterMap]
  congr 1
  funext entry
  obtain ⟨key, operand⟩ := entry
  cases operand <;> rfl

theorem Group.conditions_map (hf : KeepsNull f) (g : Group) :
    (g.map f).conditions = g.conditions.map (List.map (Condition.map f)) := by
  rw [conditions_eq_mapM, present_map, conditions_eq_mapM]
  exact mapM_map_eq (fun entry => (ConditionKey.ofText entry.1).condition_map hf entry.2) _

theorem Group.term?_map (hf : KeepsNull f) (g : Group) :
    (g.map f).term? = g.term?.map (Option.map (Term.map f)) := by
  rw [term?, term?, conditions_map hf]
  cases g.conditions with
  | error e => rfl
  | ok conditions => cases conditions <;> rfl

theorem isConnective_map (node : Node) : (node.map f).isConnective = node.isConnective := by
  cases node <;> simp only [Node.map] <;> rfl

theorem checkAlternation_map (index : Nat) (nodes : List Node) :
    checkAlternation index (mapNodes f nodes) = checkAlternation index nodes := by
  induction nodes generalizing index with
  | nil => rw [mapNodes]
  | cons node rest ih =>
    rw [mapNodes, checkAlternation, checkAlternation, isConnective_map, ih]

theorem length_mapNodes (nodes : List Node) : (mapNodes f nodes).length = nodes.length := by
  induction nodes with
  | nil => rw [mapNodes]
  | cons node rest ih => rw [mapNodes, List.length_cons, List.length_cons, ih]

theorem checkShape_map (nodes : List Node) : checkShape (mapNodes f nodes) = checkShape nodes := by
  rw [checkShape, checkShape, length_mapNodes, checkAlternation_map]

theorem linkedTerms_map (hf : KeepsNull f) :
    (∀ node : Node, (node.map f).term? = node.term?.map (Option.map (Term.map f))) ∧
    ∀ before nodes, linkedTerms before (mapNodes f nodes) =
      (linkedTerms before nodes).map (mapLinks f) := by
  apply Node.term?.mutual_induct
  case case1 =>
    intro g
    rw [Node.map, Node.term?, Node.term?, g.term?_map hf]
  case case2 =>
    intro c
    rw [Node.map, Node.term?]
    rfl
  case case3 =>
    intro nodes ih
    rw [Node.map, Node.term?, Node.term?, checkShape_map, ih]
    cases checkShape nodes with
    | error e => rfl
    | ok =>
      cases linkedTerms .and nodes with
      | error e => rfl
      | ok links => cases links <;> simp only [Except.map, mapLinks] <;> rfl
  case case4 =>
    intro before
    rw [mapNodes, linkedTerms]
    rfl
  case case5 =>
    intro before c rest ih
    rw [mapNodes, Node.map, linkedTerms, linkedTerms, ih]
  case case6 =>
    intro before node rest hn ihNode ihRest
    have hm : ∀ c, node.map f = .connective c → False := by
      intro c hc
      cases node with
      | connective c' => exact hn c' rfl
      | group g => cases hc
      | nested nodes => cases hc
    rw [mapNodes, linkedTerms.eq_3 _ _ _ hm, linkedTerms.eq_3 _ _ _ hn, ihNode, ihRest]
    cases node.term? with
    | error e => rfl
    | ok term =>
      cases linkedTerms before rest with
      | error e => rfl
      | ok links => cases term <;> rfl

theorem Where.clause?_map (hf : KeepsNull f) (tree : Where) :
    (tree.map f).clause? = tree.clause?.map (Option.map (Clause.map f)) := by
  rw [clause?, clause?, Where.map, checkShape_map, (linkedTerms_map hf).2]
  cases checkShape tree.nodes with
  | error e => rfl
  | ok =>
    cases linkedTerms .and tree.nodes with
    | error e => rfl
    | ok links => cases links <;> rfl

theorem Where.template_map (hf : KeepsNull f) (tree : Where) (indent : Nat) :
    (tree.map f).template indent = (tree.template indent).map (Template.map f) := by
  rw [template, template, clause?_map hf]
  cases tree.clause? with
  | error e => rfl
  | ok clause =>
    cases clause with
    | none => rfl
    | some clause => exact congrArg Except.ok (clause.template_map f indent)

/-- A compiled tree has the same text whatever its values, and binds each of them as it is. -/
theorem Where.compile_map (hf : KeepsNull f) (tree : Where) (format : Format) (offset : Nat) :
    (tree.map f).compile format offset = (tree.compile format offset).map (Fragment.map f) := by
  rw [compile, compile, template_map hf]
  cases tree.template format.indent with
  | error e => rfl
  | ok t => exact congrArg Except.ok (t.fragment_map f format.placeholder offset)

end

end Criteria
