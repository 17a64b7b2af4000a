import HeaderTypes.Header.Diagnosis
import Mathlib.Data.Set.Card

namespace HeaderTypes

namespace SyntaxNode

/-- What holds of a part whenever it holds of its children holds of every part. -/
@[elab_as_elim]
theorem induction {motive : SyntaxNode → Prop}
    (step : ∀ part, (∀ child ∈ part.children, motive child) → motive part)
    (root : SyntaxNode) : motive root :=
  root.rec (motive_2 := fun children => ∀ child ∈ children, motive child)
    (fun isError isMissing children each => step (node isError isMissing children) each)
    (List.forall_mem_nil _) (fun _ _ first rest => List.forall_mem_cons.mpr ⟨first, rest⟩)

/-- The part at a place, which says in which child to go on at each part on the way down. -/
def at? (root : SyntaxNode) : List Nat → Option SyntaxNode
  | [] => some root
  | index :: place => root.children[index]?.bind (at? · place)

section Places
variable (property : SyntaxNode → Bool)

/-- The places of the parts with a property. -/
def places (root : SyntaxNode) : Set (List Nat) :=
  {place | ∃ part, root.at? place = some part ∧ property part}

/-- The places in the parts of a list, each behind a number for its part. The first part has the
number `offset`. -/
def placesFrom (offset : Nat) (parts : List SyntaxNode) : Set (List Nat) :=
  {place | ∃ index rest part, place = (offset + index) :: rest ∧ parts[index]? = some part ∧
    rest ∈ part.places property}

theorem places_eq (root : SyntaxNode) :
    root.places property =
      (if property root then {[]} else ∅) ∪ placesFrom property 0 root.children := by
  ext place
  cases place with
  | nil => by_cases holds : property root <;> simp [places, placesFrom, at?, holds]
  | cons index rest =>
    have below : index :: rest ∈ root.places property ↔
        index :: rest ∈ placesFrom property 0 root.children := by
      constructor
      · rintro ⟨part, found, holds⟩
        obtain ⟨child, atIndex, inside⟩ := Option.bind_eq_some_iff.mp found
        exact ⟨index, rest, child, by rw [Nat.zero_add], atIndex, part, inside, holds⟩
      · rintro ⟨number, _, child, same, atIndex, part, inside, holds⟩
        obtain ⟨rfl, rfl⟩ := List.cons.inj same
        rw [← Nat.zero_add number] at atIndex
        exact ⟨part, Option.bind_eq_some_iff.mpr ⟨child, atIndex, inside⟩, holds⟩
    by_cases holds : property root <;> simp [below, holds]

theorem placesFrom_cons (offset : Nat) (part : SyntaxNode) (parts : List SyntaxNode) :
    placesFrom property offset (part :: parts) =
      (offset :: ·) '' part.places property ∪ placesFrom property (offset + 1) parts := by
  ext place
  constructor
  · rintro ⟨_ | index, rest, found, rfl, atIndex, inside⟩
    · cases Option.some.inj atIndex
      exact .inl ⟨rest, inside, rfl⟩
    · exact .inr ⟨index, rest, found, by rw [Nat.add_right_comm, Nat.add_assoc], atIndex, inside⟩
  · rintro (⟨rest, inside, rfl⟩ | ⟨index, rest, found, rfl, atIndex, inside⟩)
    · exact ⟨0, rest, part, rfl, rfl, inside⟩
    · exact ⟨index + 1, rest, found, by rw [Nat.add_right_comm, Nat.add_assoc], atIndex, inside⟩

theorem countPIn_eq (parts : List SyntaxNode) :
    countPIn property parts = (parts.map (countP property)).sum := by
  induction parts with
  | nil => rfl
  | cons part parts ih => rw [countPIn, ih, List.map_cons, List.sum_cons]

theorem encard_placesFrom (offset : Nat) {parts : List SyntaxNode}
    (each : ∀ part ∈ parts, (part.places property).encard = part.countP property) :
    (placesFrom property offset parts).encard = countPIn property parts := by
  induction parts generalizing offset with
  | nil => simp [placesFrom, countPIn]
  | cons part parts ih =>
    obtain ⟨first, others⟩ := List.forall_mem_cons.mp each
    have apart : Disjoint ((offset :: ·) '' part.places property)
        (placesFrom property (offset + 1) parts) := by
      rw [Set.disjoint_left]
      rintro _ ⟨_, _, rfl⟩ ⟨index, rest, _, same, _⟩
      have number := (List.cons.inj same).1
      omega
    rw [placesFrom_cons, Set.encard_union_eq apart, List.cons_injective.encard_image, first,
      ih _ others, countPIn, Nat.cast_add]

/-- No part with a property is left out, and none counts twice. -/
theorem encard_places (root : SyntaxNode) :
    (root.places property).encard = root.countP property := by
  induction root using induction with
  | step root ih =>
    have apart : Disjoint (if property root then {[]} else ∅)
        (placesFrom property 0 root.children) := by
      rw [Set.disjoint_left]
      rintro _ top ⟨index, rest, _, rfl, _⟩
      split at top <;> cases top
    rw [places_eq, Set.encard_union_eq apart, encard_placesFrom property 0 ih, countP_eq,
      Nat.cast_add]
    split <;> simp

theorem countP_eq_zero_iff (root : SyntaxNode) :
    root.countP property = 0 ↔ ¬ (root.places property).Nonempty := by
  rw [Set.not_nonempty_iff_eq_empty, ← Set.encard_eq_zero, encard_places, Nat.cast_eq_zero]

end Places

/-- The same tree but for the order of the children of its parts. -/
inductive Rearranged : SyntaxNode → SyntaxNode → Prop
  | node {isError isMissing children between children'}
      (each : List.Forall₂ Rearranged children between) (order : between.Perm children') :
      Rearranged (.node isError isMissing children) (.node isError isMissing children')

theorem Rearranged.refl (root : SyntaxNode) : Rearranged root root := by
  induction root using induction with
  | step root ih =>
    cases root
    exact .node (List.forall₂_same.mpr ih) (.refl _)

theorem Rearranged.countP_isFault {root other : SyntaxNode} (same : Rearranged root other) :
    other.countP isFault = root.countP isFault := by
  induction root using induction generalizing other with
  | step root ih =>
    obtain @⟨isError, isMissing, children, between, children', each, order⟩ := same
    have alike : List.Forall₂ (fun part part' => part'.countP isFault = part.countP isFault)
        children between :=
      ((List.forall₂_and_left ..).mpr ⟨ih, each⟩).imp fun _ _ both => both.1 both.2
    have counts : between.map (SyntaxNode.countP isFault) =
        children.map (SyntaxNode.countP isFault) := by
      rw [← List.forall₂_eq_eq_eq, List.forall₂_map_left_iff, List.forall₂_map_right_iff]
      exact alike.flip
    rw [countP, countP, countPIn_eq, countPIn_eq, ← counts, (order.map _).sum_eq]
    rfl

end SyntaxNode

namespace FaultCount

/-- The number of faults that are still to be met. -/
def ahead (count : FaultCount) : Nat := SyntaxNode.countPIn (·.isFault) count.pending

/-- A fault that is met is no longer ahead. -/
theorem balance_next (count : FaultCount) :
    count.next.met + count.next.ahead = count.met + count.ahead := by
  obtain ⟨met, pending⟩ := count
  cases pending with
  | nil => rfl
  | cons part pending =>
    have met_next : (next ⟨met, part :: pending⟩).met = met + if part.isFault then 1 else 0 := by
      by_cases fault : part.isFault <;> simp [next, fault]
    rw [met_next, Nat.add_assoc]
    exact congrArg (met + ·) (countPIn_next (·.isFault) met part pending)

theorem balance_iterate (count : FaultCount) (rounds : Nat) :
    (next^[rounds] count).met + (next^[rounds] count).ahead = count.met + count.ahead := by
  induction rounds with
  | zero => rfl
  | succ rounds ih => rw [Function.iterate_succ_apply', balance_next, ih]

theorem remaining_iterate (count : FaultCount) (rounds : Nat) :
    (next^[rounds] count).remaining = count.remaining - rounds := by
  induction rounds with
  | zero => rfl
  | succ rounds ih => rw [Function.iterate_succ_apply', remaining_next, ih, Nat.sub_sub]

theorem pending_iterate_eq_nil_iff (count : FaultCount) (rounds : Nat) :
    (next^[rounds] count).pending = [] ↔ count.remaining ≤ rounds := by
  rw [← remaining_eq_zero_iff, remaining_iterate, Nat.sub_eq_zero_iff_le]

theorem finish_eq (count : FaultCount) : count.finish = count.met + count.ahead := by
  fun_induction finish count with
  | case1 met => rfl
  | case2 met part pending ih => rw [ih, balance_next]

/-- In the end all faults are met. -/
theorem met_iterate_of_pending {count : FaultCount} {rounds : Nat}
    (ended : (next^[rounds] count).pending = []) : (next^[rounds] count).met = count.finish := by
  have balance := count.balance_iterate rounds
  rw [ahead, ended, ← finish_eq] at balance
  exact balance

end FaultCount

namespace SyntaxNode

theorem faults_eq (root : SyntaxNode) : root.faults = root.countP isFault := by
  rw [faults, FaultCount.finish_eq, FaultCount.ahead, FaultCount.start, countPIn, countPIn,
    Nat.zero_add, Nat.add_zero]

/-- What is not gone through is free of faults if a flag is right. -/
theorem errorCount_of_flagged_iff {grammar : Grammar} {text : String}
    (honest : (grammar text).flagged ↔ ((grammar text).root.places isFault).Nonempty) :
    grammar.errorCount text = (grammar text).root.faults := by
  rw [Grammar.errorCount]
  cases flagged : (grammar text).flagged with
  | true => rfl
  | false =>
    have clean : (grammar text).root.countP isFault = 0 :=
      (countP_eq_zero_iff ..).mpr (by rw [← honest, flagged]; exact Bool.false_ne_true)
    rw [faults_eq, clean]
    rfl

/-- The count of faults ends with the round in which the last part is looked at, in as many rounds
as there are parts. It follows the recursive rule, and every place counts once at which a part is a
fault, in one way or in both, whatever the order of children. So to go through flagged texts alone
changes no count, if a text is flagged just when some part is a fault. -/
theorem faults_counted (root : SyntaxNode) :
    (∀ rounds : Nat, let count := FaultCount.next^[rounds] (.start root)
      (count.pending = [] ↔ (root.places fun _ => true).encard ≤ rounds) ∧
      (count.pending = [] → count.met = root.faults)) ∧
    root.faults = (if root.isFault then 1 else 0) + (root.children.map faults).sum ∧
    (root.places isFault).encard = root.faults ∧
    (∀ other, Rearranged root other → other.faults = root.faults) ∧
    ∀ (grammar : Grammar) (text : String), (grammar text).root = root →
      ((grammar text).flagged ↔ (root.places isFault).Nonempty) →
      grammar.errorCountOf (.text text) = .ok root.faults := by
  refine ⟨fun rounds => ⟨?_, FaultCount.met_iterate_of_pending⟩, ?_, ?_, fun other same => ?_,
    fun grammar text parsed honest => ?_⟩
  · rw [FaultCount.pending_iterate_eq_nil_iff, encard_places, Nat.cast_le]
    rfl
  · rw [faults_eq, countP_eq, countPIn_eq, funext faults_eq]
  · rw [encard_places, faults_eq]
  · rw [faults_eq, faults_eq, same.countP_isFault]
  · subst parsed
    exact congrArg Except.ok (errorCount_of_flagged_iff honest)

/-- A fault with two more in it, of which the deeper one is a fault in both ways. -/
def someTree : SyntaxNode :=
  .node true false [.node false true [], .node false false [.node true true [], .clean]]

theorem faults_counted_someTree :
    let reversed : SyntaxNode :=
      .node true false [.node false false [.clean, .node true true []], .node false true []]
    let grammar : Grammar := fun _ => ⟨someTree, true⟩
    (FaultCount.next^[5] (.start someTree)).pending = [] ∧ someTree.faults = 3 ∧
      Rearranged someTree reversed ∧ reversed.faults = 3 ∧
      ((grammar "struct").flagged ↔ (someTree.places isFault).Nonempty) ∧
      grammar.errorCountOf (.text "struct") = .ok 3 := by
  intro reversed grammar
  obtain ⟨rounds, -, -, order, early⟩ := faults_counted someTree
  have three : someTree.faults = 3 := ((rounds 5).2 rfl).symm
  have inner : Rearranged (.node false false [.node true true [], .clean])
      (.node false false [.clean, .node true true []]) :=
    .node (List.forall₂_same.mpr fun part _ => .refl part) (.swap ..)
  have same : Rearranged someTree reversed := .node (.cons (.refl _) (.cons inner .nil)) (.swap ..)
  have marked : (grammar "struct").flagged ↔ (someTree.places isFault).Nonempty :=
    iff_of_true rfl ⟨[], someTree, rfl, rfl⟩
  exact ⟨rfl, three, same, three ▸ order reversed same, marked,
    three ▸ early grammar "struct" rfl marked⟩

end SyntaxNode

end HeaderTypes
