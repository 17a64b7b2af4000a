import HeaderTypes.Files.Tree

namespace HeaderTypes.Files.Tree
open Text (Loose)

theorem lookup_replace (nodes : List (Route × Node)) (route other : Route) (node : Node) :
    (nodes.map fun entry => if entry.1 = route then (route, node) else entry).lookup other =
      if other = route then (nodes.lookup route).map fun _ => node else nodes.lookup other := by
  induction nodes with
  | nil => simp
  | cons entry nodes ih =>
    rw [List.map_cons, List.lookup_cons, List.lookup_cons, List.lookup_cons, ih]
    by_cases same : entry.1 = route
    · subst same
      by_cases here : other = entry.1
      · simp [here]
      · simp [here, beq_false_of_ne here]
    · have apart : (route == entry.1) = false := beq_false_of_ne (Ne.symm same)
      by_cases here : other = route
      · subst here
        simp [same, apart]
      · simp [same, here]

/-- What is put at a route is there, and nothing else has changed. -/
theorem node?_put {tree : Tree} {route : Route} (below : route ≠ []) (node : Node) (other : Route) :
    (tree.put route node).node? other = if other = route then some node else tree.node? other := by
  unfold put
  split
  · rename_i taken
    obtain ⟨old, found⟩ := Option.isSome_iff_exists.mp taken
    simp only [node?, lookup_replace, found, Option.map_some]
    split <;> split <;> simp_all
  · rename_i free
    have none : tree.nodes.lookup route = none := Option.not_isSome_iff_eq_none.mp free
    simp only [node?, List.lookup_append, List.lookup_cons, List.lookup_nil]
    by_cases here : other = route
    · subst here
      simp [below, none]
    · simp [here, beq_false_of_ne here]

theorem workingDirectory_put (tree : Tree) (route : Route) (node : Node) :
    (tree.put route node).workingDirectory = tree.workingDirectory := by
  unfold put
  split <;> rfl

/-- All that has changed is that there are more directories. -/
structure AddsDirectories (before after : Tree) : Prop where
  workingDirectory : after.workingDirectory = before.workingDirectory
  node? (route : Route) :
    after.node? route = before.node? route ∨
      before.node? route = none ∧ after.node? route = some .directory

theorem AddsDirectories.refl (tree : Tree) : tree.AddsDirectories tree := ⟨rfl, fun _ => Or.inl rfl⟩

theorem AddsDirectories.trans {a b c : Tree} (first : a.AddsDirectories b)
    (second : b.AddsDirectories c) : a.AddsDirectories c where
  workingDirectory := second.workingDirectory.trans first.workingDirectory
  node? route := by
    rcases first.node? route with same | ⟨free, made⟩ <;>
      rcases second.node? route with same' | ⟨free', made'⟩
    · exact Or.inl (same'.trans same)
    · exact Or.inr ⟨same.symm.trans free', made'⟩
    · exact Or.inr ⟨free, same'.trans made⟩
    · exact Or.inr ⟨free, made'⟩

theorem makeDirectory_adds {tree made : Tree} {path : Loose}
    (ok : tree.makeDirectory path = .ok made) : tree.AddsDirectories made := by
  unfold makeDirectory at ok
  split at ok
  · cases ok
  · rename_i route name _
    repeat' split at ok
    all_goals cases ok
    rename_i taken
    have free := Option.not_isSome_iff_eq_none.mp taken
    refine ⟨workingDirectory_put .., fun other => ?_⟩
    rw [node?_put (List.append_ne_nil_of_right_ne_nil route (List.cons_ne_nil name []))]
    split
    · rename_i here
      exact Or.inr ⟨here ▸ free, rfl⟩
    · exact Or.inl rfl

theorem makeDirectories_adds (room : Nat) (tree : Tree) (path : Loose) :
    tree.AddsDirectories (makeDirectories room tree path).1 := by
  induction room generalizing tree path with
  | zero => exact .refl tree
  | succ room ih =>
    unfold makeDirectories
    generalize above path = parts
    obtain ⟨head, last⟩ := parts
    dsimp only
    generalize (!head.isEmpty && !last.isEmpty && (tree.find? head).isNone) = missing
    -- what comes first makes the directories above, or nothing
    have first : tree.AddsDirectories
        (if missing then makeDirectories room tree head else (tree, none)).1 := by
      cases missing with
      | true => exact ih tree head
      | false => exact .refl tree
    generalize (if missing then makeDirectories room tree head else (tree, none)) = begun at first ⊢
    obtain ⟨between, fault⟩ := begun
    dsimp only at first ⊢
    split
    · exact first
    · split
      · exact first
      · split
        · rename_i made ok
          exact first.trans (makeDirectory_adds ok)
        · exact first

theorem ensureDirectory_adds (tree : Tree) (path : Loose) :
    tree.AddsDirectories (tree.ensureDirectory path).1 :=
  makeDirectories_adds deepest tree path

/-- All that has changed is that there are more directories and that the place
to which a path leads from there holds a file. -/
def WritesFile (before after : Tree) (path : Loose) (content : List UInt8) : Prop :=
  ∃ made route name, before.AddsDirectories made ∧ made.place path = .ok (route, name) ∧
    after.workingDirectory = made.workingDirectory ∧
    ∀ other, after.node? other =
      if other = route ++ [name] then some (.file content) else made.node? other

theorem writesFile_of_write {before made written : Tree} {path : Loose} {content : List UInt8}
    (adds : before.AddsDirectories made) (wrote : made.write path content = .ok written) :
    before.WritesFile written path content := by
  unfold write at wrote
  split at wrote
  · cases wrote
  · cases wrote
  · rename_i route name placed
    repeat' split at wrote
    all_goals cases wrote
    have below : route ++ [name] ≠ [] :=
      List.append_ne_nil_of_right_ne_nil route (List.cons_ne_nil name [])
    exact ⟨made, route, name, adds, placed, workingDirectory_put .., node?_put below _⟩

end HeaderTypes.Files.Tree
