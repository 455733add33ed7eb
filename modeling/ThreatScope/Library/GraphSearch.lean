import Mathlib

/-!
# Searching graphs and forests

A graph is given by the list of successors of every vertex. The breadth-first search from
a vertex, with enough steps, finds exactly the vertices it reaches
(`mem_breadthFirst_iff`). The depth-first search colours a vertex when it enters and when
it leaves it; an edge to a vertex that is entered and not left is a cycle, and with enough
depth the search from a vertex meets one exactly when the vertex reaches a cycle
(`depthFirst_cycle_iff`).

The breadth-first search is right because what it found is closed up to its queue. The
depth-first search finds only cycles because the entered vertices are a path to the
current one, and it misses none because it otherwise leaves every vertex after all its
successors (`Ordered`), and such an order has no cycle.
-/

set_option autoImplicit false

namespace ThreatScope.Library

universe u

variable {α : Type u} (next : α → List α)

/-! ## Walks -/

section Walks

variable {edge : α → α → Prop} {root : α} {rest : List α}

theorem reaches_of_mem_walk (walk : (root :: rest).IsChain edge) :
    ∀ vertex ∈ root :: rest, Relation.ReflTransGen edge root vertex := by
  intro vertex member
  rcases List.mem_cons.mp member with rfl | later
  · exact .refl
  · have path := (walk.imp fun _ _ => Relation.TransGen.single).rel_cons later
    exact path.to_reflTransGen

/-- **A walk from a vertex that reaches no cycle visits every vertex at most once.** -/
theorem nodup_of_walk (walk : (root :: rest).IsChain edge)
    (acyclic : ∀ vertex, Relation.ReflTransGen edge root vertex →
      ¬ Relation.TransGen edge vertex vertex) : (root :: rest).Nodup := by
  induction rest generalizing root with
  | nil => simp
  | cons second rest ih =>
    obtain ⟨first, later⟩ := List.isChain_cons_cons.mp walk
    apply List.nodup_cons.mpr
    constructor
    · intro again
      have loop := (walk.imp fun _ _ => Relation.TransGen.single).rel_cons again
      exact acyclic root .refl loop
    · exact ih later fun vertex reaches => acyclic vertex (.head first reaches)

end Walks

/-! ## The graph of a successor function -/

/-- A successor of a vertex. -/
def Edge (source target : α) : Prop := target ∈ next source

/-- A vertex that a path leads to. -/
abbrev Reaches (source target : α) : Prop := Relation.ReflTransGen (Edge next) source target

/-- A vertex on a cycle. -/
abbrev OnCycle (vertex : α) : Prop := Relation.TransGen (Edge next) vertex vertex

theorem Reaches.mem (closed : α → Prop) {source target : α} (reaches : Reaches next source target)
    (steps : ∀ vertex, closed vertex → ∀ other ∈ next vertex, closed other)
    (member : closed source) : closed target := by
  induction reaches with
  | refl => exact member
  | tail _ edge ih => exact steps _ ih _ edge

/-- The vertex reaches a cycle. -/
def ReachesCycle (vertex : α) : Prop :=
  ∃ other, Reaches next vertex other ∧ OnCycle next other

section Walks

variable {next}

theorem ReachesCycle.of_edge {vertex other : α} (edge : other ∈ next vertex)
    (cycle : ReachesCycle next other) : ReachesCycle next vertex := by
  obtain ⟨last, reaches, loop⟩ := cycle
  exact ⟨last, .head edge reaches, loop⟩

end Walks

section Searches

variable [BEq α]

/-! ## Breadth first -/

/-- The breadth-first search from a queue, with the number of vertices it may take out. -/
def breadthFirst : Nat → List α → List α → List α
  | 0, _, found => found
  | _, [], found => found
  | pops + 1, vertex :: queue, found =>
    if found.contains vertex then breadthFirst pops queue found
    else breadthFirst pops (queue ++ next vertex) (found ++ [vertex])

/-- How many edges leave the given vertices that are not found yet. -/
def openEdges (vertices found : List α) : Nat :=
  (vertices.map fun vertex => if found.contains vertex then 0 else (next vertex).length).sum

/-- The colours of the depth-first search and whether it met a cycle. -/
structure Colours (α : Type u) where
  started : List α
  finished : List α
  cycle : Bool

/-- Look at a successor of the current vertex. -/
def explore (enter : α → Colours α → Colours α) (state : Colours α) (target : α) : Colours α :=
  if state.started.contains target && !state.finished.contains target then
    { state with cycle := true }
  else if state.started.contains target then state
  else enter target state

/-- The depth-first search of a vertex, with the depth it may reach. -/
def depthFirst : Nat → α → Colours α → Colours α
  | 0, _, state => state
  | depth + 1, vertex, state =>
    let left := (next vertex).foldl (explore (depthFirst depth))
      { state with started := state.started ++ [vertex] }
    { left with finished := left.finished ++ [vertex] }

section Breadth

variable [LawfulBEq α] {next}

omit [LawfulBEq α] in
/-- The search finds only what the root reaches. -/
theorem reaches_of_mem_breadthFirst {pops : Nat} {queue found : List α} {root : α}
    (waiting : ∀ vertex ∈ queue, Reaches next root vertex)
    (already : ∀ vertex ∈ found, Reaches next root vertex) :
    ∀ vertex ∈ breadthFirst next pops queue found, Reaches next root vertex := by
  induction pops generalizing queue found with
  | zero => exact already
  | succ pops ih =>
    cases queue with
    | nil => exact already
    | cons head queue =>
      have later : ∀ vertex ∈ queue, Reaches next root vertex :=
        fun vertex member => waiting vertex (.tail _ member)
      have first := waiting head (List.mem_cons_self ..)
      rw [breadthFirst]
      split
      · exact ih later already
      · apply ih
        · intro vertex member
          rcases List.mem_append.mp member with old | new
          · exact later vertex old
          · exact first.tail new
        · intro vertex member
          rcases List.mem_append.mp member with old | new
          · exact already vertex old
          · rwa [List.mem_singleton.mp new]

/-- A vertex that is found takes its own edges out of the open ones. -/
theorem openEdges_found {vertices found : List α} {vertex : α}
    (known : vertex ∈ vertices ∨ next vertex = []) (fresh : vertex ∉ found) :
    openEdges next vertices (found ++ [vertex]) + (next vertex).length ≤
      openEdges next vertices found := by
  have less (other : α) : (if (found ++ [vertex]).contains other then 0 else
      (next other).length) ≤ if found.contains other then 0 else (next other).length := by
    by_cases inside : other ∈ found
    · simp [inside]
    · simp only [List.contains_eq_mem, inside, decide_false, Bool.false_eq_true, if_false]
      split <;> omega
  have fewer (vertices : List α) : openEdges next vertices (found ++ [vertex]) ≤
      openEdges next vertices found :=
    List.sum_le_sum fun other _ => less other
  rcases known with member | none
  · induction vertices with
    | nil => cases member
    | cons head vertices ih =>
      simp only [openEdges, List.map_cons, List.sum_cons] at ih ⊢
      rcases List.mem_cons.mp member with rfl | later
      · have tail := fewer vertices
        simp only [openEdges] at tail
        simp only [List.contains_eq_mem, List.mem_append, List.mem_singleton, or_true,
          decide_true, if_true, fresh, decide_false, Bool.false_eq_true, if_false] at tail ⊢
        omega
      · have tail := ih later
        have here := less head
        omega
  · rw [none, List.length_nil, Nat.add_zero]
    exact fewer vertices

/-- With a pop for everything queued and open, what is found is closed. -/
theorem breadthFirst_closed {vertices : List α}
    (known : ∀ vertex, vertex ∈ vertices ∨ next vertex = []) {pops : Nat} (queue found : List α)
    (enough : queue.length + openEdges next vertices found ≤ pops)
    (closed : ∀ vertex ∈ found, ∀ other ∈ next vertex, other ∈ found ∨ other ∈ queue) :
    (∀ vertex ∈ queue, vertex ∈ breadthFirst next pops queue found) ∧
      (∀ vertex ∈ found, vertex ∈ breadthFirst next pops queue found) ∧
      ∀ vertex ∈ breadthFirst next pops queue found, ∀ other ∈ next vertex,
        other ∈ breadthFirst next pops queue found := by
  induction pops generalizing queue found with
  | zero =>
    have none : queue = [] := List.eq_nil_of_length_eq_zero (by omega)
    subst none
    exact ⟨fun _ none => absurd none List.not_mem_nil, fun _ member => member,
      fun vertex member other edge =>
        (closed vertex member other edge).resolve_right List.not_mem_nil⟩
  | succ pops ih =>
    cases queue with
    | nil =>
      exact ⟨fun _ none => absurd none List.not_mem_nil, fun _ member => member,
        fun vertex member other edge =>
          (closed vertex member other edge).resolve_right List.not_mem_nil⟩
    | cons head queue =>
      rw [List.length_cons] at enough
      rw [breadthFirst]
      split
      · rename_i old
        have old : head ∈ found := by simpa using old
        obtain ⟨waiting, already, steps⟩ := ih queue found (by omega)
          (fun vertex member other edge => by
            rcases closed vertex member other edge with inside | inside
            · exact .inl inside
            · rcases List.mem_cons.mp inside with rfl | later
              · exact .inl old
              · exact .inr later)
        refine ⟨fun vertex member => ?_, already, steps⟩
        rcases List.mem_cons.mp member with rfl | later
        · exact already _ old
        · exact waiting vertex later
      · rename_i fresh
        have fresh : head ∉ found := by simpa using fresh
        have fewer := openEdges_found (known head) fresh
        obtain ⟨waiting, already, steps⟩ := ih (queue ++ next head) (found ++ [head])
          (by rw [List.length_append]; omega)
          (fun vertex member other edge => by
            rcases List.mem_append.mp member with inside | new
            · rcases closed vertex inside other edge with inside | inside
              · exact .inl (List.mem_append_left _ inside)
              · rcases List.mem_cons.mp inside with rfl | later
                · exact .inl (List.mem_append_right _ (List.mem_singleton_self _))
                · exact .inr (List.mem_append_left _ later)
            · rw [List.mem_singleton.mp new] at edge
              exact .inr (List.mem_append_right _ edge))
        refine ⟨fun vertex member => ?_, fun vertex member => ?_, steps⟩
        · rcases List.mem_cons.mp member with rfl | later
          · exact already _ (List.mem_append_right _ (List.mem_singleton_self _))
          · exact waiting vertex (List.mem_append_left _ later)
        · exact already vertex (List.mem_append_left _ member)

/-- **The breadth-first search finds exactly what its root reaches.** -/
theorem mem_breadthFirst_iff {vertices : List α}
    (known : ∀ vertex, vertex ∈ vertices ∨ next vertex = []) {pops : Nat}
    (enough : 1 + openEdges next vertices [] ≤ pops) (root vertex : α) :
    vertex ∈ breadthFirst next pops [root] [] ↔ Reaches next root vertex := by
  constructor
  · apply reaches_of_mem_breadthFirst
    · intro vertex member
      rw [List.mem_singleton.mp member]
    · intro vertex member
      cases member
  · intro reaches
    obtain ⟨waiting, -, steps⟩ := breadthFirst_closed known [root] [] enough
      (fun vertex member => by cases member)
    exact reaches.mem next (· ∈ _) steps (waiting root (List.mem_singleton_self _))

end Breadth

/-! ## Depth first -/

namespace Colours

variable {before middle after : Colours α} {vertex : α}

/-- Entered and not left. -/
def Gray (state : Colours α) (vertex : α) : Prop :=
  vertex ∈ state.started ∧ vertex ∉ state.finished

/-- Only entered vertices are left. -/
def WellColoured (state : Colours α) : Prop := ∀ vertex ∈ state.finished, vertex ∈ state.started

/-- What a search leaves of the state it starts from. -/
structure Extends (before after : Colours α) : Prop where
  started : ∀ vertex ∈ before.started, vertex ∈ after.started
  finished : ∀ vertex ∈ before.finished, vertex ∈ after.finished
  gray : ∀ vertex, after.Gray vertex ↔ before.Gray vertex
  cycle : before.cycle = true → after.cycle = true
  coloured : after.WellColoured

omit [BEq α] in
theorem Extends.refl (coloured : before.WellColoured) : Extends before before :=
  ⟨fun _ member => member, fun _ member => member, fun _ => .rfl, id, coloured⟩

omit [BEq α] in
theorem Extends.trans (first : Extends before middle) (second : Extends middle after) :
    Extends before after where
  started vertex member := second.started vertex (first.started vertex member)
  finished vertex member := second.finished vertex (first.finished vertex member)
  gray vertex := (second.gray vertex).trans (first.gray vertex)
  cycle met := second.cycle (first.cycle met)
  coloured := second.coloured

omit [BEq α] in
theorem Extends.clear (extension : Extends before after) (clear : after.cycle = false) :
    before.cycle = false := by
  rw [← Bool.not_eq_true]
  intro met
  rw [extension.cycle met] at clear
  cases clear

/-- Enter a vertex. -/
def enter (state : Colours α) (vertex : α) : Colours α :=
  { state with started := state.started ++ [vertex] }

/-- Leave a vertex. -/
def leave (state : Colours α) (vertex : α) : Colours α :=
  { state with finished := state.finished ++ [vertex] }

omit [BEq α] in
theorem enter_wellColoured (coloured : before.WellColoured) :
    (before.enter vertex).WellColoured :=
  fun other member => List.mem_append_left _ (coloured other member)

omit [BEq α] in
theorem gray_enter (coloured : before.WellColoured) (fresh : vertex ∉ before.started) (other : α) :
    (before.enter vertex).Gray other ↔ before.Gray other ∨ other = vertex := by
  have open_ : vertex ∉ before.finished := fun member => fresh (coloured vertex member)
  simp only [Gray, enter, List.mem_append, List.mem_singleton]
  constructor
  · rintro ⟨old | rfl, out⟩
    · exact .inl ⟨old, out⟩
    · exact .inr rfl
  · rintro (⟨old, out⟩ | rfl)
    · exact ⟨.inl old, out⟩
    · exact ⟨.inr rfl, open_⟩

omit [BEq α] in
theorem Extends.leave (coloured : before.WellColoured) (fresh : vertex ∉ before.started)
    (within : Extends (before.enter vertex) after) : Extends before (after.leave vertex) where
  started other member := within.started other (List.mem_append_left _ member)
  finished other member := List.mem_append_left _ (within.finished other member)
  gray other := by
    have inside := (within.gray other).trans (gray_enter coloured fresh other)
    have apart : before.Gray other → other ≠ vertex := by
      rintro gray rfl
      exact fresh gray.1
    have left : (after.leave vertex).Gray other ↔ after.Gray other ∧ other ≠ vertex := by
      simp only [Gray, Colours.leave, List.mem_append, List.mem_singleton, not_or, and_assoc]
    rw [left, inside]
    exact ⟨fun both => both.1.resolve_right both.2, fun gray => ⟨.inl gray, apart gray⟩⟩
  cycle met := within.cycle met
  coloured other member := by
    rcases List.mem_append.mp member with old | new
    · exact within.coloured other old
    · rw [List.mem_singleton.mp new]
      exact within.started vertex (List.mem_append_right _ (List.mem_singleton_self _))

end Colours

open Colours

theorem depthFirst_succ (depth : Nat) (vertex : α) (state : Colours α) :
    depthFirst next (depth + 1) vertex state =
      ((next vertex).foldl (explore (depthFirst next depth)) (state.enter vertex)).leave vertex :=
  rfl

section Depth

variable [LawfulBEq α] {next}

/-- Looking at a successor: a gray one is a cycle, a finished one is passed over, a new one
is searched. -/
theorem explore_cases (enter : α → Colours α → Colours α) (state : Colours α) (target : α) :
    (state.Gray target ∧ explore enter state target = { state with cycle := true }) ∨
      (target ∈ state.finished ∧ explore enter state target = state) ∨
      (target ∉ state.started ∧ explore enter state target = enter target state) := by
  unfold explore
  by_cases started : target ∈ state.started
  · by_cases finished : target ∈ state.finished
    · exact .inr (.inl ⟨finished, by simp [started, finished]⟩)
    · exact .inl ⟨⟨started, finished⟩, by simp [started, finished]⟩
  · exact .inr (.inr ⟨started, by simp [started]⟩)

theorem explore_extends {enter : α → Colours α → Colours α} {state : Colours α}
    (extending : ∀ vertex state, WellColoured state → vertex ∉ state.started →
      Extends state (enter vertex state))
    (coloured : state.WellColoured) (target : α) : Extends state (explore enter state target) := by
  rcases explore_cases enter state target with ⟨-, same⟩ | ⟨-, same⟩ | ⟨fresh, same⟩
  · rw [same]
    exact ⟨fun _ member => member, fun _ member => member, fun _ => .rfl, fun _ => rfl, coloured⟩
  · rw [same]
    exact .refl coloured
  · rw [same]
    exact extending target state coloured fresh

/-- Exploring a list of targets extends the search, if entering each does. -/
theorem foldl_explore_extends {enter : α → Colours α → Colours α} {state : Colours α}
    (extending : ∀ vertex state, WellColoured state → vertex ∉ state.started →
      Extends state (enter vertex state))
    (coloured : state.WellColoured) (targets : List α) :
    Extends state (targets.foldl (explore enter) state) := by
  induction targets generalizing state with
  | nil => exact .refl coloured
  | cons target targets ih =>
    have first := explore_extends extending coloured target
    exact first.trans (ih first.coloured)

variable (next) in
/-- **The search of a vertex extends the colours and leaves the gray vertices.** -/
theorem depthFirst_extends (depth : Nat) (vertex : α) (state : Colours α)
    (coloured : state.WellColoured) (fresh : vertex ∉ state.started) :
    Extends state (depthFirst next depth vertex state) := by
  induction depth generalizing vertex state with
  | zero => exact .refl coloured
  | succ depth ih =>
    rw [depthFirst_succ]
    exact Extends.leave coloured fresh
      (foldl_explore_extends ih (enter_wellColoured coloured) (next vertex))

/-! ### Every cycle it meets is one -/

/-- **A cycle the search meets is one**, when the gray vertices lead to the vertex. -/
theorem reachesCycle_of_depthFirst (depth : Nat) (vertex : α) (state : Colours α)
    (coloured : state.WellColoured) (fresh : vertex ∉ state.started)
    (path : ∀ other, state.Gray other → Reaches next other vertex)
    (met : (depthFirst next depth vertex state).cycle = true) :
    state.cycle = true ∨ ReachesCycle next vertex := by
  induction depth generalizing vertex state with
  | zero => exact .inl met
  | succ depth ih =>
    have entered : (state.enter vertex).WellColoured := enter_wellColoured coloured
    -- the gray vertices of every state of the loop are those of the state it starts in
    have loop (targets : List α) (inside : ∀ target ∈ targets, target ∈ next vertex)
        (middle : Colours α) (extension : Extends (state.enter vertex) middle)
        (met : (targets.foldl (explore (depthFirst next depth)) middle).cycle = true) :
        middle.cycle = true ∨ ReachesCycle next vertex := by
      induction targets generalizing middle with
      | nil => exact .inl met
      | cons target targets loop =>
        have edge : Edge next vertex target := inside target (List.mem_cons_self ..)
        have gray (other : α) (isGray : middle.Gray other) : Reaches next other vertex := by
          rcases (gray_enter coloured fresh other).mp ((extension.gray other).mp isGray)
            with old | rfl
          · exact path other old
          · exact .refl
        have step := explore_extends (depthFirst_extends next depth)
          extension.coloured target
        have later : ∀ target ∈ targets, target ∈ next vertex :=
          fun target member => inside target (.tail _ member)
        rcases loop later _ (extension.trans step) met with met | cycle
        · rcases explore_cases (depthFirst next depth) middle target with
            ⟨isGray, -⟩ | ⟨-, same⟩ | ⟨new, same⟩
          · exact .inr ⟨target, .single edge, .tail' (gray target isGray) edge⟩
          · rw [same] at met
            exact .inl met
          · rw [same] at met
            rcases ih target middle extension.coloured new
              (fun other isGray => (gray other isGray).tail edge) met with old | cycle
            · exact .inl old
            · exact .inr (cycle.of_edge edge)
        · exact .inr cycle
    rw [depthFirst_succ] at met
    exact loop (next vertex) (fun _ member => member) (state.enter vertex) (.refl entered) met

/-! ### It meets every cycle -/

/-- An order in which every vertex stands after its successors. -/
inductive Ordered (next : α → List α) : List α → Prop
  | nil : Ordered next []
  | concat {order : List α} {vertex : α} (front : Ordered next order)
      (after : ∀ other ∈ next vertex, other ∈ order) (fresh : vertex ∉ order) :
      Ordered next (order ++ [vertex])

omit [BEq α] [LawfulBEq α] in
theorem Ordered.closed {order : List α} (ordered : Ordered next order) :
    ∀ vertex ∈ order, ∀ other ∈ next vertex, other ∈ order := by
  induction ordered with
  | nil => exact fun vertex member => absurd member List.not_mem_nil
  | concat front after fresh ih =>
    intro vertex member other edge
    rcases List.mem_append.mp member with old | new
    · exact List.mem_append_left _ (ih vertex old other edge)
    · rw [List.mem_singleton.mp new] at edge
      exact List.mem_append_left _ (after other edge)

omit [BEq α] [LawfulBEq α] in
/-- **An ordered vertex is on no cycle.** -/
theorem Ordered.not_onCycle {order : List α} (ordered : Ordered next order) :
    ∀ vertex ∈ order, ¬ OnCycle next vertex := by
  induction ordered with
  | nil => exact fun vertex member => absurd member List.not_mem_nil
  | concat front after fresh ih =>
    intro vertex member cycle
    rcases List.mem_append.mp member with old | new
    · exact ih vertex old cycle
    · rw [List.mem_singleton.mp new] at cycle
      -- the first edge of the cycle leads into the closed front
      obtain ⟨other, edge, back⟩ := Relation.TransGen.head'_iff.mp cycle
      exact fresh (Reaches.mem next (· ∈ _) back front.closed (after other edge))

/-- How many of the given vertices are not entered. -/
def unentered (vertices : List α) (state : Colours α) : Nat :=
  vertices.countP fun vertex => !state.started.contains vertex

theorem unentered_le {vertices : List α} {before after : Colours α}
    (grows : ∀ vertex ∈ before.started, vertex ∈ after.started) :
    unentered vertices after ≤ unentered vertices before := by
  apply List.countP_mono_left
  intro vertex _
  simp only [Bool.not_eq_true', List.contains_eq_mem, decide_eq_false_iff_not]
  exact fun out inside => out (grows vertex inside)

theorem unentered_enter {vertices : List α} {state : Colours α} {vertex : α}
    (member : vertex ∈ vertices) (fresh : vertex ∉ state.started) :
    unentered vertices (state.enter vertex) < unentered vertices state := by
  induction vertices with
  | nil => cases member
  | cons head vertices ih =>
    have fewer : unentered vertices (state.enter vertex) ≤ unentered vertices state :=
      unentered_le fun other inside => List.mem_append_left _ inside
    simp only [unentered, List.countP_cons] at ih fewer ⊢
    rcases List.mem_cons.mp member with rfl | later
    · simp only [Colours.enter, List.contains_eq_mem, List.mem_append, List.mem_singleton,
        or_true, decide_true, fresh, decide_false, Bool.not_true, Bool.not_false,
        Bool.false_eq_true, if_false, if_true] at fewer ⊢
      omega
    · have rest := ih later
      by_cases inside : head ∈ state.started
      · simp only [Colours.enter, List.contains_eq_mem, List.mem_append, inside, true_or,
          decide_true, Bool.not_true, Bool.false_eq_true, if_false] at rest ⊢
        omega
      · simp only [Colours.enter, List.contains_eq_mem, inside, decide_false, Bool.not_false,
          if_true] at rest ⊢
        split <;> omega

/-- **A search that meets no cycle leaves every vertex after its successors**, when it may
go as deep as there are vertices to enter. -/
theorem ordered_of_depthFirst {vertices : List α}
    (inside : ∀ vertex, ∀ other ∈ next vertex, other ∈ vertices) (depth : Nat) (vertex : α)
    (state : Colours α) (coloured : state.WellColoured) (fresh : vertex ∉ state.started)
    (member : vertex ∈ vertices) (enough : unentered vertices state ≤ depth)
    (ordered : Ordered next state.finished)
    (clear : (depthFirst next depth vertex state).cycle = false) :
    Ordered next (depthFirst next depth vertex state).finished ∧
      vertex ∈ (depthFirst next depth vertex state).finished := by
  induction depth generalizing vertex state with
  | zero =>
    have fewer := unentered_enter member fresh
    omega
  | succ depth ih =>
    have fewer := unentered_enter member fresh
    have entered : (state.enter vertex).WellColoured := enter_wellColoured coloured
    have extending := depthFirst_extends next depth
    have loop (targets : List α) (known : ∀ target ∈ targets, target ∈ vertices)
        (middle : Colours α) (extension : Extends (state.enter vertex) middle)
        (ordered : Ordered next middle.finished)
        (clear : (targets.foldl (explore (depthFirst next depth)) middle).cycle = false) :
        Ordered next (targets.foldl (explore (depthFirst next depth)) middle).finished ∧
          ∀ target ∈ targets,
            target ∈ (targets.foldl (explore (depthFirst next depth)) middle).finished := by
      induction targets generalizing middle with
      | nil => exact ⟨ordered, fun target none => absurd none List.not_mem_nil⟩
      | cons target targets loop =>
        have step := explore_extends extending extension.coloured target
        have rest := foldl_explore_extends extending step.coloured targets
        have stepClear := rest.clear clear
        -- without a cycle the successor is finished after the look at it
        have here : Ordered next (explore (depthFirst next depth) middle target).finished ∧
            target ∈ (explore (depthFirst next depth) middle target).finished := by
          rcases explore_cases (depthFirst next depth) middle target with
            ⟨-, same⟩ | ⟨finished, same⟩ | ⟨new, same⟩
          · rw [same] at stepClear
            cases stepClear
          · rw [same]
            exact ⟨ordered, finished⟩
          · rw [same] at stepClear ⊢
            have most : unentered vertices middle ≤ unentered vertices (state.enter vertex) :=
              unentered_le extension.started
            exact ih target middle extension.coloured new (known target (List.mem_cons_self ..))
              (by omega) ordered stepClear
        obtain ⟨order, found⟩ := loop (fun target member => known target (.tail _ member)) _
          (extension.trans step) here.1 clear
        refine ⟨order, fun other among => ?_⟩
        rcases List.mem_cons.mp among with rfl | later
        · exact rest.finished _ here.2
        · exact found other later
    rw [depthFirst_succ] at clear ⊢
    obtain ⟨order, found⟩ := loop (next vertex) (inside vertex) (state.enter vertex) (.refl entered)
      ordered clear
    have extension := foldl_explore_extends extending entered (next vertex)
    have open_ : vertex ∉ ((next vertex).foldl (explore (depthFirst next depth))
        (state.enter vertex)).finished :=
      ((extension.gray vertex).mpr ((gray_enter coloured fresh vertex).mpr (.inr rfl))).2
    exact ⟨.concat order found open_, List.mem_append_right _ (List.mem_singleton_self _)⟩

/-- **The depth-first search meets a cycle exactly when its root reaches one.** -/
theorem depthFirst_cycle_iff {vertices : List α}
    (inside : ∀ vertex, ∀ other ∈ next vertex, other ∈ vertices) {root : α}
    (member : root ∈ vertices) {depth : Nat} (enough : vertices.length ≤ depth) :
    (depthFirst next depth root ⟨[], [], false⟩).cycle = true ↔ ReachesCycle next root := by
  have coloured : WellColoured (⟨[], [], false⟩ : Colours α) :=
    fun vertex none => absurd none List.not_mem_nil
  have fresh : root ∉ (⟨[], [], false⟩ : Colours α).started := List.not_mem_nil
  constructor
  · intro met
    rcases reachesCycle_of_depthFirst depth root _ coloured fresh
      (fun other gray => absurd gray.1 List.not_mem_nil) met with wrong | cycle
    · cases wrong
    · exact cycle
  · rintro ⟨other, reaches, cycle⟩
    rw [← Bool.not_eq_false]
    intro clear
    have few : unentered vertices (⟨[], [], false⟩ : Colours α) ≤ depth :=
      List.countP_le_length.trans enough
    obtain ⟨ordered, found⟩ := ordered_of_depthFirst inside depth root _ coloured fresh member
      few .nil clear
    exact ordered.not_onCycle other (reaches.mem next (· ∈ _) ordered.closed found) cycle

end Depth

end Searches

/-!
## Forests of pointers

Nodes that point to at most one other node form a forest when every node is settled: its
pointers lead to a root. Pointing any nodes to a root keeps them all settled, whatever they
pointed to before (`Settled.redirect`); nodes that only point to each other are never
settled (`not_settled`).
-/

variable {κ : Type u}

/-- Following the pointers of a node ends at a root. `parent node` is `none` where there is no
such node, and `some none` where the node points nowhere. -/
inductive Settled (parent : κ → Option (Option κ)) : κ → Prop
  | root {node : κ} (here : parent node = some none) : Settled parent node
  | child {node next : κ} (here : parent node = some (some next)) (settled : Settled parent next) :
      Settled parent node

variable {parent redirected : κ → Option (Option κ)}

/-- **Nodes may be pointed to a root.** -/
theorem Settled.redirect (moved : κ → Prop) {target : κ} (root : redirected target = some none)
    (moves : ∀ node, moved node → redirected node = some (some target))
    (kept : ∀ node, ¬moved node → parent node ≠ none → redirected node = parent node) {node : κ}
    (settled : Settled parent node) : Settled redirected node := by
  induction settled with
  | @root node here =>
    by_cases move : moved node
    · exact .child (moves node move) (.root root)
    · exact .root ((kept node move (by simp [here])).trans here)
  | @child node next here _ ih =>
    by_cases move : moved node
    · exact .child (moves node move) (.root root)
    · exact .child ((kept node move (by simp [here])).trans here) ih

theorem Settled.congr (kept : ∀ node, parent node ≠ none → redirected node = parent node)
    {node : κ} (settled : Settled parent node) : Settled redirected node := by
  induction settled with
  | root here => exact .root ((kept _ (by simp [here])).trans here)
  | child here _ ih => exact .child ((kept _ (by simp [here])).trans here) ih

/-- **Nodes that point among themselves are not settled.** -/
theorem not_settled (closed : κ → Prop)
    (cycle : ∀ node, closed node → ∃ next, parent node = some (some next) ∧ closed next)
    {node : κ} (settled : Settled parent node) : ¬closed node := by
  induction settled with
  | root here =>
    intro member
    obtain ⟨next, points, -⟩ := cycle _ member
    cases here.symm.trans points
  | child here _ ih =>
    intro member
    obtain ⟨other, points, further⟩ := cycle _ member
    obtain rfl := Option.some.inj (Option.some.inj (here.symm.trans points))
    exact ih further

end ThreatScope.Library
