import ThreatScope.Library.GraphSearch
import ThreatScope.Soar.Validation

/-!
# The route graph of a playbook

The routes `on_success`, `on_failure` and `on_timeout` make a graph of the step keys; a
route may name a step that does not exist. `validate_definition` searches it twice. This
module shows that its searches are those of a graph (`mem_reachableFrom_iff`,
`hasCycle_iff`) and reads off what the report of a definition says about its graph.
-/

set_option autoImplicit false

namespace ThreatScope.Soar

open Library

/-- A route of a step, whether or not its target exists. -/
def Routes (byKey : List (String × Dict)) (source target : String) : Prop :=
  ∃ step, stepOf byKey source = some step ∧ Json.str target ∈ routesOf step

/-! ## Steps by key -/

theorem find?_key_eq_some_iff {β : Type} {entries : List (String × β)}
    (distinct : (entries.map Prod.fst).Nodup) (key : String) (value : β) :
    (entries.find? fun entry => entry.1 == key).map Prod.snd = some value ↔
      (key, value) ∈ entries := by
  induction entries with
  | nil => simp
  | cons entry entries ih =>
    obtain ⟨name, item⟩ := entry
    simp only [List.map_cons, List.nodup_cons] at distinct
    by_cases same : name = key
    · subst same
      have absent : (name, value) ∉ entries := fun member =>
        distinct.1 (List.mem_map_of_mem member)
      simp [absent, eq_comm]
    · have other := ih distinct.2
      simp [same, Ne.symm same, other]

section Graph

variable {byKey : List (String × Dict)}

theorem stepOf_eq_some_iff (distinct : (byKey.map Prod.fst).Nodup) (key : String) (step : Dict) :
    stepOf byKey key = some step ↔ (key, step) ∈ byKey :=
  find?_key_eq_some_iff distinct key step

theorem isSome_stepOf_iff (key : String) :
    (stepOf byKey key).isSome = true ↔ key ∈ byKey.map Prod.fst := by
  simp [stepOf, List.find?_isSome]

theorem keys_adjacencyOf : (adjacencyOf byKey).map Prod.fst = byKey.map Prod.fst := by
  rw [adjacencyOf, List.map_map]
  rfl

theorem targetsOf_of_mem {adjacency : Adjacency} (distinct : (adjacency.map Prod.fst).Nodup)
    {entry : String × List String} (member : entry ∈ adjacency) :
    targetsOf adjacency entry.1 = entry.2 := by
  rw [targetsOf, (find?_key_eq_some_iff distinct entry.1 entry.2).mpr member, Option.getD_some]

theorem targetsOf_of_not_mem {adjacency : Adjacency} {key : String}
    (absent : key ∉ adjacency.map Prod.fst) : targetsOf adjacency key = [] := by
  have none : adjacency.find? (fun entry => entry.1 == key) = none := by
    apply List.find?_eq_none.mpr
    intro entry member same
    exact absent (List.mem_map.mpr ⟨entry, member, by simpa using same⟩)
  rw [targetsOf, none, Option.map_none, Option.getD_none]

theorem edge_iff (distinct : (byKey.map Prod.fst).Nodup) (source target : String) :
    Edge (targetsOf (adjacencyOf byKey)) source target ↔
      Routes byKey source target ∧ (stepOf byKey target).isSome = true := by
  rw [Edge]
  constructor
  · intro edge
    by_cases known : source ∈ (adjacencyOf byKey).map Prod.fst
    · rw [keys_adjacencyOf] at known
      obtain ⟨⟨name, step⟩, member, rfl⟩ := List.mem_map.mp known
      have entry : (name, (routesOf step).filterMap fun target =>
          target.str?.filter fun text => (stepOf byKey text).isSome) ∈ adjacencyOf byKey :=
        List.mem_map_of_mem member
      rw [targetsOf_of_mem (by rwa [keys_adjacencyOf]) entry] at edge
      obtain ⟨value, route, read⟩ := List.mem_filterMap.mp edge
      obtain ⟨text, exists_⟩ := Option.filter_eq_some_iff.mp read
      have string : value = .str target := by
        cases value <;> simp_all [Json.str?]
      exact ⟨⟨step, (stepOf_eq_some_iff distinct name step).mpr member, string ▸ route⟩, exists_⟩
    · rw [targetsOf_of_not_mem known] at edge
      cases edge
  · rintro ⟨⟨step, found, route⟩, exists_⟩
    have member := (stepOf_eq_some_iff distinct source step).mp found
    have entry : (source, (routesOf step).filterMap fun target =>
        target.str?.filter fun text => (stepOf byKey text).isSome) ∈ adjacencyOf byKey :=
      List.mem_map_of_mem member
    rw [targetsOf_of_mem (by rwa [keys_adjacencyOf]) entry]
    refine List.mem_filterMap.mpr ⟨.str target, route, ?_⟩
    exact Option.filter_eq_some_iff.mpr ⟨rfl, exists_⟩

/-- The adjacency reaches exactly what the routes reach. -/
theorem reaches_iff (distinct : (byKey.map Prod.fst).Nodup) {root key : String}
    (known : (stepOf byKey key).isSome = true) :
    Reaches (targetsOf (adjacencyOf byKey)) root key ↔
      Relation.ReflTransGen (Routes byKey) root key := by
  constructor
  · intro reaches
    exact Relation.ReflTransGen.mono
      (fun source target edge => ((edge_iff distinct source target).mp edge).1) _ _ reaches
  · intro reaches
    induction reaches with
    | refl => exact .refl
    | tail _ route ih =>
      obtain ⟨step, found, -⟩ := id route
      have step := ih (by rw [found]; rfl)
      exact step.tail ((edge_iff distinct _ _).mpr ⟨route, known⟩)

theorem onCycle_iff (distinct : (byKey.map Prod.fst).Nodup) {key : String} :
    OnCycle (targetsOf (adjacencyOf byKey)) key ↔ Relation.TransGen (Routes byKey) key key := by
  constructor
  · intro cycle
    exact Relation.TransGen.mono
      (fun source target edge => ((edge_iff distinct source target).mp edge).1) _ _ cycle
  · intro cycle
    obtain ⟨other, route, back⟩ := Relation.TransGen.head'_iff.mp cycle
    have known {source target : String} (route : Routes byKey source target) :
        (stepOf byKey source).isSome = true := by
      obtain ⟨step, found, -⟩ := route
      rw [found]
      rfl
    have last := (reaches_iff distinct (known route)).mpr back
    have second : (stepOf byKey other).isSome = true := by
      rcases Relation.ReflTransGen.cases_head back with rfl | ⟨next, onward, -⟩
      · exact known route
      · exact known onward
    exact .head' ((edge_iff distinct key other).mpr ⟨route, second⟩) last

/-! ## The searches of the validator -/

theorem search_eq (adjacency : Adjacency) (pops : Nat) (queue reachable : List String) :
    search adjacency pops queue reachable =
      breadthFirst (targetsOf adjacency) pops queue reachable := by
  induction pops generalizing queue reachable with
  | zero => rfl
  | succ pops ih =>
    cases queue with
    | nil => rfl
    | cons key queue => rw [search, breadthFirst, ih, ih]

/-- The colours of a visit. -/
def Visit.colours (state : Visit) : Colours String := ⟨state.started, state.finished, state.cycle⟩

/-- `_visit` colours the graph as the depth-first search does. -/
theorem visit_eq (adjacency : Adjacency) (depth : Nat) (key : String) (state : Visit) :
    (visit adjacency depth key state).colours =
      depthFirst (targetsOf adjacency) depth key state.colours := by
  induction depth generalizing key state with
  | zero => rfl
  | succ depth ih =>
    have fold (targets : List String) (state : Visit) :
        (targets.foldl (fun state target =>
          if state.started.contains target && !state.finished.contains target then
            { state with cycle := true }
          else if state.started.contains target then state
          else visit adjacency depth target state) state).colours =
        targets.foldl (explore (depthFirst (targetsOf adjacency) depth)) state.colours := by
      induction targets generalizing state with
      | nil => rfl
      | cons target targets loop =>
        rw [List.foldl_cons, List.foldl_cons, loop]
        congr 1
        by_cases started : target ∈ state.started
        · by_cases finished : target ∈ state.finished
          · simp [explore, Visit.colours, started, finished]
          · simp [explore, Visit.colours, started, finished]
        · have searched := ih target state
          simpa [explore, Visit.colours, started] using searched
    have left := fold (targetsOf adjacency key)
      { state with started := state.started ++ [key] }
    rw [visit, depthFirst]
    simp only [Visit.colours] at left ⊢
    rw [← left]

theorem openEdges_adjacencyOf (distinct : (byKey.map Prod.fst).Nodup) :
    1 + openEdges (targetsOf (adjacencyOf byKey)) (byKey.map Prod.fst) [] ≤
      searchBound (adjacencyOf byKey) := by
  have keys : ((adjacencyOf byKey).map Prod.fst).Nodup := by rwa [keys_adjacencyOf]
  rw [searchBound, openEdges, ← keys_adjacencyOf, List.map_map]
  apply Nat.le_of_eq
  congr 2
  apply List.map_congr_left
  intro entry member
  simp [targetsOf_of_mem keys member]

/-- **The reachable steps are those a path of routes leads to.** -/
theorem mem_reachableFrom_iff (distinct : (byKey.map Prod.fst).Nodup) (start : Option String)
    (key : String) : key ∈ reachableFrom (adjacencyOf byKey) start ↔
      ∃ root ∈ start, Reaches (targetsOf (adjacencyOf byKey)) root key := by
  have known (vertex : String) : vertex ∈ byKey.map Prod.fst ∨
      targetsOf (adjacencyOf byKey) vertex = [] := by
    by_cases member : vertex ∈ byKey.map Prod.fst
    · exact .inl member
    · exact .inr (targetsOf_of_not_mem (by rwa [keys_adjacencyOf]))
  cases start with
  | none => simp [reachableFrom, search_eq, searchBound, breadthFirst, Nat.add_comm 1]
  | some root =>
    rw [reachableFrom, search_eq]
    have found := mem_breadthFirst_iff known (openEdges_adjacencyOf distinct) root key
    simpa using found

/-- **The depth-first search reports the cycles a path from the start leads to.** -/
theorem hasCycle_iff (distinct : (byKey.map Prod.fst).Nodup) {start : Option String}
    (known : ∀ root ∈ start, (stepOf byKey root).isSome = true) :
    hasCycle (adjacencyOf byKey) start = true ↔
      ∃ root ∈ start, ReachesCycle (targetsOf (adjacencyOf byKey)) root := by
  have inside (vertex other : String)
      (edge : other ∈ targetsOf (adjacencyOf byKey) vertex) : other ∈ byKey.map Prod.fst :=
    (isSome_stepOf_iff other).mp ((edge_iff distinct vertex other).mp edge).2
  cases start with
  | none => simp [hasCycle]
  | some root =>
    have member := (isSome_stepOf_iff root).mp (known root rfl)
    have enough : (byKey.map Prod.fst).length ≤ (adjacencyOf byKey).length := by
      rw [adjacencyOf, List.length_map, List.length_map]
    have cycle := depthFirst_cycle_iff inside member enough
    have same : hasCycle (adjacencyOf byKey) (some root) =
        (visit (adjacencyOf byKey) (adjacencyOf byKey).length root {}).colours.cycle := rfl
    have fresh : ({} : Visit).colours = ⟨[], [], false⟩ := rfl
    rw [same, visit_eq, fresh]
    simpa using cycle

end Graph

end ThreatScope.Soar
