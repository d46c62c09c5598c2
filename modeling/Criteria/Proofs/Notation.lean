import Criteria.Proofs.LastValues
import Criteria.Proofs.LevelShape
import Criteria.TreeNotation

namespace Criteria

def Connective.spellings : Connective → List String
  | .and => ["AND", "and"]
  | .or => ["OR", "or"]

namespace Json

def IsScalar : Json → Prop
  | .null | .number _ | .string _ => True
  | .bool _ | .array _ | .object _ => False

/-- A scalar, or an array of scalars. -/
def IsOperand (j : Json) : Prop :=
  j.IsScalar ∨ ∃ items, j = .array items ∧ ∀ item ∈ items, item.IsScalar

def IsConnective (j : Json) : Prop := ∃ c : Connective, ∃ text ∈ c.spellings, j = .string text

mutual

/-- An array of odd length with connectives at its odd indices and parts at its even ones. -/
inductive IsLevel : Json → Prop
  | intro {items : List Json} (odd : items.length % 2 = 1)
      (connectives : ∀ i (h : i < items.length), i % 2 = 1 → items[i].IsConnective)
      (parts : ∀ i (h : i < items.length), i % 2 = 0 → items[i].IsPart) : IsLevel (.array items)

/-- An object of operands, or an array that wraps one level. Of members under one key the last
counts. -/
inductive IsPart : Json → Prop
  | group {members : List (String × Json)}
      (operands : ∀ member ∈ Keyed.lastValues members, member.2.IsOperand) :
      IsPart (.object members)
  | nested {inner : Json} (level : inner.IsLevel) : IsPart (.array [inner])

end

/-- Integers of sixty-four bits are kept; any other number is a floating-point number. -/
inductive DenotesValue : Json → Value → Prop
  | null : DenotesValue .null .null
  | text (s : String) : DenotesValue (.string s) (.text s)
  | integer (n : Int64) : DenotesValue (.number (.integer n.toInt)) (.int n)
  | wide {n : Int} (h : n < Int64.minValue.toInt ∨ Int64.maxValue.toInt < n) :
      DenotesValue (.number (.integer n)) (.float (.ofRatio .double (n < 0) n.natAbs 1))
  | real (x : Binary64) : DenotesValue (.number (.real x)) (.float x)

inductive DenotesOperand : Json → Operand → Prop
  | scalar {j : Json} {value : Value} (h : j.DenotesValue value) : DenotesOperand j (.scalar value)
  | list {items : List Json} {values : List Value} (h : List.Forall₂ DenotesValue items values) :
      DenotesOperand (.array items) (.list values)

/-- Every member, in order, with the operand of its entry. -/
def DenotesGroup (members : List (String × Json)) (g : Group) : Prop :=
  List.Forall₂ (fun member entry => entry.1 = member.1 ∧
    ∃ operand, entry.2 = some operand ∧ member.2.DenotesOperand operand)
    (Keyed.lastValues members) g.entries

def DenotesConnective (j : Json) (node : Node) : Prop :=
  ∃ c : Connective, node = .connective c ∧ ∃ text ∈ c.spellings, j = .string text

mutual

/-- Element by element, an array stands for the nodes of a level. -/
inductive DenotesLevel : Json → List Node → Prop
  | intro {items : List Json} {nodes : List Node} (odd : items.length % 2 = 1)
      (length : nodes.length = items.length)
      (connectives : ∀ i (h : i < items.length) (h' : i < nodes.length), i % 2 = 1 →
        items[i].DenotesConnective nodes[i])
      (parts : ∀ i (h : i < items.length) (h' : i < nodes.length), i % 2 = 0 →
        items[i].DenotesPart nodes[i]) :
      DenotesLevel (.array items) nodes

inductive DenotesPart : Json → Node → Prop
  | group {members : List (String × Json)} {g : Group} (entries : DenotesGroup members g) :
      DenotesPart (.object members) (.group g)
  | nested {inner : Json} {nodes : List Node} (level : inner.DenotesLevel nodes) :
      DenotesPart (.array [inner]) (.nested nodes)

end

end Json

namespace Value

theorem ofNumber_toInt (n : Int64) : ofNumber (.integer n.toInt) = .int n := by
  rw [ofNumber, if_pos ⟨n.minValue_le_toInt, n.toInt_le⟩, Int64.ofInt_toInt]

theorem ofNumber_wide {n : Int} (h : n < Int64.minValue.toInt ∨ Int64.maxValue.toInt < n) :
    ofNumber (.integer n) = .float (.ofRatio .double (n < 0) n.natAbs 1) := by
  rw [ofNumber, if_neg (by omega)]

theorem denotes_ofNumber (n : JsonNumber) : (Json.number n).DenotesValue (ofNumber n) := by
  cases n with
  | real x => exact .real x
  | integer n =>
    by_cases h : Int64.minValue.toInt ≤ n ∧ n ≤ Int64.maxValue.toInt
    · have hlow : -2 ^ 63 ≤ n := Int64.toInt_minValue ▸ h.1
      have hhigh : n < 2 ^ 63 := by
        have := Int64.toInt_maxValue
        omega
      have hd := Json.DenotesValue.integer (Int64.ofInt n)
      rwa [← ofNumber_toInt, Int64.toInt_ofInt_of_le hlow hhigh] at hd
    · have hw : n < Int64.minValue.toInt ∨ Int64.maxValue.toInt < n := by omega
      exact ofNumber_wide hw ▸ .wide hw

end Value

theorem nodup_keys_of_forall₂ {α β : Type} {members : List (String × α)}
    {entries : List (String × β)}
    (h : List.Forall₂ (fun member entry => entry.1 = member.1) (Keyed.lastValues members) entries) :
    (entries.map Prod.fst).Nodup := by
  have hkeys : (Keyed.lastValues members).map Prod.fst = entries.map Prod.fst :=
    List.forall₂_eq_eq_eq ▸ List.forall₂_map_left_iff.mpr
      (List.forall₂_map_right_iff.mpr (h.imp fun _ _ => Eq.symm))
  exact hkeys ▸ Keyed.nodup_keys_lastValues members

theorem exists_forall₂_iff {α β : Type} {R : α → β → Prop} {xs : List α} :
    (∃ ys, List.Forall₂ R xs ys) ↔ ∀ x ∈ xs, ∃ y, R x y := by
  induction xs with
  | nil => exact ⟨fun _ _ h => (nomatch h), fun _ => ⟨[], .nil⟩⟩
  | cons x xs ih =>
    rw [List.forall_mem_cons, ← ih]
    constructor
    · rintro ⟨_, h⟩
      cases h with
      | cons hy hr => exact ⟨⟨_, hy⟩, _, hr⟩
    · rintro ⟨⟨_, hy⟩, _, hr⟩
      exact ⟨_, .cons hy hr⟩

namespace Json

theorem DenotesConnective.isString {j : Json} {node : Node} (h : j.DenotesConnective node) :
    j.isString := by
  obtain ⟨_, _, _, _, rfl⟩ := h
  rfl

theorem DenotesConnective.isConnective {j : Json} {node : Node} (h : j.DenotesConnective node) :
    node.isConnective := by
  obtain ⟨_, rfl, _⟩ := h
  rfl

theorem DenotesPart.not_isString {j : Json} {node : Node} (h : j.DenotesPart node) :
    ¬ j.isString := by
  cases h <;> exact Bool.false_ne_true

theorem DenotesPart.not_isConnective {j : Json} {node : Node} (h : j.DenotesPart node) :
    ¬ node.isConnective := by
  cases h <;> exact Bool.false_ne_true

def DenotesElement (j : Json) (node : Node) : Prop :=
  j.DenotesConnective node ∨ j.DenotesPart node

theorem DenotesElement.isString_iff {j : Json} {node : Node} (h : j.DenotesElement node) :
    j.isString ↔ node.isConnective := by
  rcases h with h | h
  · exact iff_of_true h.isString h.isConnective
  · exact iff_of_false h.not_isString h.not_isConnective

/-- The node of an element at an index. -/
def DenotesAt (index : Nat) (j : Json) (node : Node) : Prop :=
  (index % 2 = 1 → j.DenotesConnective node) ∧ (index % 2 = 0 → j.DenotesPart node)

theorem denotesAt_iff {index : Nat} {j : Json} {node : Node} :
    j.DenotesAt index node ↔ (j.isString ↔ index % 2 = 1) ∧ j.DenotesElement node := by
  constructor
  · rintro ⟨hodd, heven⟩
    rcases Nat.mod_two_eq_zero_or_one index with h | h
    · have hp := heven h
      exact ⟨iff_of_false hp.not_isString (by omega), .inr hp⟩
    · have hc := hodd h
      exact ⟨iff_of_true hc.isString h, .inl hc⟩
  · rintro ⟨hs, hc | hp⟩
    · have hodd := hs.mp hc.isString
      exact ⟨fun _ => hc, fun heven => by omega⟩
    · have hodd : index % 2 ≠ 1 := fun h => hp.not_isString (hs.mpr h)
      exact ⟨fun h => absurd h hodd, fun _ => hp⟩

def DenotesFrom (index : Nat) (items : List Json) (nodes : List Node) : Prop :=
  nodes.length = items.length ∧ ∀ i (h : i < items.length) (h' : i < nodes.length),
    items[i].DenotesAt (index + i) nodes[i]

theorem denotesFrom_nil_iff {index : Nat} {nodes : List Node} :
    DenotesFrom index [] nodes ↔ nodes = [] :=
  ⟨fun h => List.length_eq_zero_iff.mp h.1, fun h => h ▸ ⟨rfl, fun i hi => absurd hi i.not_lt_zero⟩⟩

theorem denotesFrom_cons_iff {index : Nat} {item : Json} {rest : List Json} {nodes : List Node} :
    DenotesFrom index (item :: rest) nodes ↔ ∃ node nodes', nodes = node :: nodes' ∧
      item.DenotesAt index node ∧ DenotesFrom (index + 1) rest nodes' := by
  constructor
  · rintro ⟨hl, hd⟩
    cases nodes with
    | nil => cases hl
    | cons node nodes' =>
      refine ⟨node, nodes', rfl, hd 0 (by simp) (by simp), by simpa using hl, fun i hi hi' => ?_⟩
      have h := hd (i + 1) (by simpa using hi) (by simpa using hi')
      rwa [show index + (i + 1) = index + 1 + i by omega] at h
  · rintro ⟨node, nodes', rfl, ha, hl, hd⟩
    refine ⟨by simpa using hl, fun i hi hi' => ?_⟩
    cases i with
    | zero => exact ha
    | succ i =>
      have h := hd i (by simpa using hi) (by simpa using hi')
      rwa [show index + 1 + i = index + (i + 1) by omega] at h

theorem denotesLevel_array_iff {items : List Json} {nodes : List Node} :
    (Json.array items).DenotesLevel nodes ↔
      items.length % 2 = 1 ∧ DenotesFrom 0 items nodes := by
  constructor
  · rintro ⟨odd, length, connectives, parts⟩
    refine ⟨odd, length, fun i h h' => ?_⟩
    rw [Nat.zero_add]
    exact ⟨connectives i h h', parts i h h'⟩
  · rintro ⟨odd, length, hd⟩
    have hat i (h : i < items.length) (h' : i < nodes.length) := Nat.zero_add i ▸ hd i h h'
    exact .intro odd length (fun i h h' => (hat i h h').1) fun i h h' => (hat i h h').2

/-! What is in notation denotes something, and nothing else does. -/

theorem isScalar_iff {j : Json} : j.IsScalar ↔ ∃ value, j.DenotesValue value := by
  constructor
  · intro h
    cases j with
    | null => exact ⟨_, .null⟩
    | number n => exact ⟨_, Value.denotes_ofNumber n⟩
    | string s => exact ⟨_, .text s⟩
    | _ => exact h.elim
  · rintro ⟨value, h⟩
    cases h <;> trivial

theorem isOperand_iff {j : Json} : j.IsOperand ↔ ∃ operand, j.DenotesOperand operand := by
  constructor
  · rintro (h | ⟨items, rfl, h⟩)
    · obtain ⟨value, hv⟩ := isScalar_iff.mp h
      exact ⟨_, .scalar hv⟩
    · obtain ⟨values, hv⟩ := exists_forall₂_iff.mpr fun item hi => isScalar_iff.mp (h item hi)
      exact ⟨_, .list hv⟩
  · rintro ⟨operand, h⟩
    cases h with
    | scalar hv => exact .inl (isScalar_iff.mpr ⟨_, hv⟩)
    | list hv =>
      have hi := exists_forall₂_iff.mp ⟨_, hv⟩
      exact .inr ⟨_, rfl, fun item hm => isScalar_iff.mpr (hi item hm)⟩

theorem exists_denotesGroup_iff {members : List (String × Json)} :
    (∃ g, DenotesGroup members g) ↔
      ∀ member ∈ Keyed.lastValues members, member.2.IsOperand := by
  constructor
  · rintro ⟨g, h⟩ member hm
    obtain ⟨_, _, operand, _, ho⟩ := exists_forall₂_iff.mp ⟨_, h⟩ member hm
    exact isOperand_iff.mpr ⟨operand, ho⟩
  · intro h
    have hentry : ∀ member ∈ Keyed.lastValues members, ∃ entry : String × Option Operand,
        entry.1 = member.1 ∧ ∃ operand, entry.2 = some operand ∧
          member.2.DenotesOperand operand := by
      intro member hm
      obtain ⟨operand, ho⟩ := isOperand_iff.mp (h member hm)
      exact ⟨(member.1, some operand), rfl, operand, rfl, ho⟩
    obtain ⟨entries, he⟩ := exists_forall₂_iff.mpr hentry
    exact ⟨⟨entries, nodup_keys_of_forall₂ (he.imp fun _ _ h => h.1)⟩, he⟩

theorem isConnective_iff {j : Json} : j.IsConnective ↔ ∃ node, j.DenotesConnective node :=
  ⟨fun ⟨c, h⟩ => ⟨.connective c, c, rfl, h⟩, fun ⟨_, c, _, h⟩ => ⟨c, h⟩⟩

mutual

theorem DenotesLevel.isLevel {j : Json} {nodes : List Node} : j.DenotesLevel nodes → j.IsLevel
  | .intro odd length connectives parts =>
    .intro odd (fun i h hi => isConnective_iff.mpr ⟨_, connectives i h (length ▸ h) hi⟩)
      fun i h hi => (parts i h (length ▸ h) hi).isPart

theorem DenotesPart.isPart {j : Json} {node : Node} : j.DenotesPart node → j.IsPart
  | .group entries => .group (exists_denotesGroup_iff.mp ⟨_, entries⟩)
  | .nested level => .nested level.isLevel

end

mutual

theorem IsLevel.exists_denotes {j : Json} : j.IsLevel → ∃ nodes, j.DenotesLevel nodes
  | @IsLevel.intro items odd connectives parts => by
    have hat (i : Fin items.length) : ∃ node, items[i].DenotesAt i node := by
      rcases Nat.mod_two_eq_zero_or_one i with h | h
      · obtain ⟨node, hn⟩ := (parts i i.2 h).exists_denotes
        exact ⟨node, denotesAt_iff.mpr ⟨iff_of_false hn.not_isString (by omega), .inr hn⟩⟩
      · obtain ⟨node, hn⟩ := isConnective_iff.mp (connectives i i.2 h)
        exact ⟨node, denotesAt_iff.mpr ⟨iff_of_true hn.isString h, .inl hn⟩⟩
    choose node hnode using hat
    refine ⟨List.ofFn node, denotesLevel_array_iff.mpr ⟨odd, List.length_ofFn, fun i h h' => ?_⟩⟩
    rw [Nat.zero_add, List.getElem_ofFn]
    exact hnode ⟨i, h⟩

theorem IsPart.exists_denotes {j : Json} : j.IsPart → ∃ node, j.DenotesPart node
  | .group operands => by
    obtain ⟨g, hg⟩ := exists_denotesGroup_iff.mpr operands
    exact ⟨.group g, .group hg⟩
  | .nested level => by
    obtain ⟨nodes, hn⟩ := level.exists_denotes
    exact ⟨.nested nodes, .nested hn⟩

end

theorem isLevel_iff {j : Json} : j.IsLevel ↔ ∃ nodes, j.DenotesLevel nodes :=
  ⟨IsLevel.exists_denotes, fun ⟨_, h⟩ => h.isLevel⟩

mutual

theorem DenotesLevel.wellShaped {j : Json} {nodes : List Node} :
    j.DenotesLevel nodes → Alternates nodes ∧ AllWellShaped nodes
  | .intro odd length connectives parts => by
    refine ⟨⟨length ▸ odd, fun i h => ?_⟩, allWellShaped_iff.mpr fun node hn => ?_⟩
    · have h' := length ▸ h
      rcases Nat.mod_two_eq_zero_or_one i with hi | hi
      · exact iff_of_false (parts i h' h hi).not_isConnective (by omega)
      · exact iff_of_true (connectives i h' h hi).isConnective hi
    · obtain ⟨i, h, rfl⟩ := List.mem_iff_getElem.mp hn
      have h' := length ▸ h
      rcases Nat.mod_two_eq_zero_or_one i with hi | hi
      · exact (parts i h' h hi).wellShaped
      · obtain ⟨c, hc, _⟩ := connectives i h' h hi
        rw [hc]
        trivial

theorem DenotesPart.wellShaped {j : Json} {node : Node} : j.DenotesPart node → node.WellShaped
  | .group _ => trivial
  | .nested level => by
    rw [Node.WellShaped]
    exact level.wellShaped

end

end Json

end Criteria
