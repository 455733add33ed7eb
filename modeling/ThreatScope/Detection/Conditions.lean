import ThreatScope.Detection.Quantifiers

/-!
# The grammar of a condition

`_parse_condition` reads a condition by recursive descent, with a depth that every function
passes on and only `expression` bounds. `Written` is the grammar without a reader: which tokens
are written for a tree, under which depth. The reader accepts exactly what is written
(`condition_read_iff_written`), so that every accepted condition has one tree.

A condition without a `not` is monotone: when more selections hold, a match remains a match
(`matches_monotone`).
-/

set_option autoImplicit false

namespace ThreatScope.Detection

open Library AccessControl

/-! ## The grammar -/

/-- What a run of tokens is written as. -/
inductive Rank where
  | unary
  | conjunction
  | expression

/-- The tokens that are written for a tree, under the depth at which they are read. -/
inductive Written (tables : UnicodeTables) (names : List String) :
    Rank → Nat → List String → Node → Prop where
  | selection {depth : Nat} {token : String} (listed : names.contains token = true)
      (plain : tables.lowered token ≠ "not") (opening : token ≠ "(") :
      Written tables names .unary depth [token] (.selection token)
  | of {depth : Nat} {token word pattern : String} {amount : Amount}
      (number : amount? tables token = some amount) (of : tables.lowered word = "of")
      (some : expandPattern names pattern ≠ []) (plain : tables.lowered token ≠ "not") :
      Written tables names .unary depth [token, word, pattern]
        (.of amount (expandPattern names pattern))
  | not {depth : Nat} {token : String} {tokens : List String} {node : Node}
      (word : tables.lowered token = "not")
      (inner : Written tables names .unary (depth + 1) tokens node) :
      Written tables names .unary depth (token :: tokens) (.not node)
  | group {depth : Nat} {tokens : List String} {node : Node}
      (inner : Written tables names .expression (depth + 1) tokens node) :
      Written tables names .unary depth ("(" :: (tokens ++ [")"])) node
  | factor {depth : Nat} {tokens : List String} {node : Node}
      (inner : Written tables names .unary (depth + 1) tokens node) :
      Written tables names .conjunction depth tokens node
  | and {depth : Nat} {before after : List String} {token : String} {first second : Node}
      (left : Written tables names .conjunction depth before first)
      (word : tables.lowered token = "and")
      (right : Written tables names .unary (depth + 1) after second) :
      Written tables names .conjunction depth (before ++ token :: after) (.and first second)
  | term {depth : Nat} {tokens : List String} {node : Node} (shallow : depth ≤ maxDepth)
      (inner : Written tables names .conjunction (depth + 1) tokens node) :
      Written tables names .expression depth tokens node
  | or {depth : Nat} {before after : List String} {token : String} {first second : Node}
      (left : Written tables names .expression depth before first)
      (word : tables.lowered token = "or")
      (right : Written tables names .conjunction (depth + 1) after second) :
      Written tables names .expression depth (before ++ token :: after) (.or first second)

section Descent

variable {tables : UnicodeTables} {names : List String}

/-! ## What is read is written -/

mutual

theorem written_of_expression {depth : Nat} {tokens : List String}
    {result : Node × { rest : List String // rest.length < tokens.length }}
    (read : expression tables names depth tokens = .ok result) :
    ∃ before, tokens = before ++ result.2.1 ∧
      Written tables names .expression depth before result.1 := by
  rw [expression] at read
  split at read
  · cases read
  rename_i shallow
  split at read
  · cases read
  rename_i node rest first
  split at read
  · cases read
  rename_i tree after looped
  cases read
  have shorter := rest.2
  obtain ⟨before, tail, written⟩ := written_of_conjunction first
  obtain ⟨more, tail', whole⟩ := written_of_orLoop looped (.term (not_lt.mp shallow) written)
  refine ⟨before ++ more, ?_, whole⟩
  rw [List.append_assoc, ← tail']
  exact tail
termination_by 4 * tokens.length + 2

/-- So for the loop over `or`, whose left side is read already. -/
theorem written_of_orLoop {depth : Nat} {node : Node} {tokens before : List String}
    {result : Node × { rest : List String // rest.length ≤ tokens.length }}
    (read : orLoop tables names depth node tokens = .ok result)
    (left : Written tables names .expression depth before node) :
    ∃ more, tokens = more ++ result.2.1 ∧
      Written tables names .expression depth (before ++ more) result.1 := by
  cases tokens with
  | nil =>
    rw [orLoop] at read
    cases read
    exact ⟨[], rfl, (List.append_nil before).symm ▸ left⟩
  | cons token others =>
    rw [orLoop] at read
    split at read
    · rename_i word
      split at read
      · cases read
      rename_i second rest conjoined
      split at read
      · cases read
      rename_i tree after looped
      cases read
      have shorter := rest.2
      obtain ⟨right, tail, written⟩ := written_of_conjunction conjoined
      obtain ⟨more, tail', whole⟩ := written_of_orLoop looped (.or left word written)
      refine ⟨token :: right ++ more, ?_, ?_⟩
      · rw [List.append_assoc, ← tail']
        exact congrArg _ tail
      · rw [List.append_assoc] at whole
        exact whole
    · cases read
      exact ⟨[], rfl, (List.append_nil before).symm ▸ left⟩
termination_by 4 * tokens.length + 1
decreasing_by
  all_goals
    subst tokens
    simp only [List.length_cons]
    omega

theorem written_of_conjunction {depth : Nat} {tokens : List String}
    {result : Node × { rest : List String // rest.length < tokens.length }}
    (read : conjunction tables names depth tokens = .ok result) :
    ∃ before, tokens = before ++ result.2.1 ∧
      Written tables names .conjunction depth before result.1 := by
  rw [conjunction] at read
  split at read
  · cases read
  rename_i node rest first
  split at read
  · cases read
  rename_i tree after looped
  cases read
  have shorter := rest.2
  obtain ⟨before, tail, written⟩ := written_of_unary first
  obtain ⟨more, tail', whole⟩ := written_of_andLoop looped (.factor written)
  refine ⟨before ++ more, ?_, whole⟩
  rw [List.append_assoc, ← tail']
  exact tail
termination_by 4 * tokens.length + 1

/-- So for the loop over `and`. -/
theorem written_of_andLoop {depth : Nat} {node : Node} {tokens before : List String}
    {result : Node × { rest : List String // rest.length ≤ tokens.length }}
    (read : andLoop tables names depth node tokens = .ok result)
    (left : Written tables names .conjunction depth before node) :
    ∃ more, tokens = more ++ result.2.1 ∧
      Written tables names .conjunction depth (before ++ more) result.1 := by
  cases tokens with
  | nil =>
    rw [andLoop] at read
    cases read
    exact ⟨[], rfl, (List.append_nil before).symm ▸ left⟩
  | cons token others =>
    rw [andLoop] at read
    split at read
    · rename_i word
      split at read
      · cases read
      rename_i second rest next
      split at read
      · cases read
      rename_i tree after looped
      cases read
      have shorter := rest.2
      obtain ⟨right, tail, written⟩ := written_of_unary next
      obtain ⟨more, tail', whole⟩ := written_of_andLoop looped (.and left word written)
      refine ⟨token :: right ++ more, ?_, ?_⟩
      · rw [List.append_assoc, ← tail']
        exact congrArg _ tail
      · rw [List.append_assoc] at whole
        exact whole
    · cases read
      exact ⟨[], rfl, (List.append_nil before).symm ▸ left⟩
termination_by 4 * tokens.length + 1
decreasing_by
  all_goals
    subst tokens
    simp only [List.length_cons]
    omega

/-- What `_unary` reads is written by the grammar, in front of what it leaves. -/
theorem written_of_unary {depth : Nat} {tokens : List String}
    {result : Node × { rest : List String // rest.length < tokens.length }}
    (read : unary tables names depth tokens = .ok result) :
    ∃ before, tokens = before ++ result.2.1 ∧
      Written tables names .unary depth before result.1 := by
  have named {token : String} {others : List String}
      {found : Node × { rest : List String // rest.length < (token :: others).length }}
      (read : selectionNamed names token others = .ok found)
      (plain : tables.lowered token ≠ "not") (opening : token ≠ "(") :
      ∃ before, token :: others = before ++ found.2.1 ∧
        Written tables names .unary depth before found.1 := by
    unfold selectionNamed at read
    split at read
    · rename_i listed
      cases read
      exact ⟨[token], rfl, .selection listed plain opening⟩
    · cases read
  cases tokens with
  | nil =>
    rw [unary] at read
    cases read
  | cons token others =>
    rw [unary] at read
    split at read
    · rename_i word
      split at read
      · cases read
      rename_i node rest inner
      cases read
      obtain ⟨before, tail, written⟩ := written_of_unary inner
      exact ⟨token :: before, congrArg _ tail, .not word written⟩
    rename_i plain
    split at read
    · rename_i opening
      subst opening
      split at read
      · cases read
      · rename_i node rest shorter inner
        cases read
        obtain ⟨before, tail, written⟩ := written_of_expression inner
        refine ⟨"(" :: (before ++ [")"]), ?_, .group written⟩
        rw [List.cons_append, List.append_assoc]
        exact congrArg _ tail
      · cases read
    rename_i opening
    cases number : amount? tables token with
    | none =>
      simp only [number] at read
      exact named read plain opening
    | some amount =>
      match others with
      | [] =>
        simp only [number] at read
        exact named read plain opening
      | [word] =>
        simp only [number] at read
        exact named read plain opening
      | word :: pattern :: rest =>
        simp only [number] at read
        split at read
        · rename_i of
          split at read
          · cases read
          · rename_i first matched expanded
            cases read
            refine ⟨[token, word, pattern], rfl, ?_⟩
            rw [← expanded]
            exact .of number of (expanded ▸ List.cons_ne_nil _ _) plain
        · exact named read plain opening
termination_by 4 * tokens.length
decreasing_by
  all_goals
    subst tokens
    simp only [List.length_cons]
    omega

end

/-! ## What is written is read -/

/-- The reader does not take a text's first token to be one of these words. -/
def Stops (tables : UnicodeTables) (words rest : List String) : Prop :=
  ∀ word ∈ rest.head?, tables.lowered word ∉ words

theorem andLoop_of_stops {depth : Nat} {node : Node} {rest : List String}
    (stops : Stops tables ["of", "and"] rest) :
    andLoop tables names depth node rest = .ok (node, ⟨rest, Nat.le_refl _⟩) := by
  cases rest with
  | nil => rw [andLoop]
  | cons token others =>
    have other : tables.lowered token ≠ "and" := fun same => stops token rfl (by simp [same])
    rw [andLoop, if_neg other]

/-- What the reader of a rank does with tokens and whatever follows them: it takes exactly the
tokens, and where the rank has a loop goes on with it. -/
def Reads (tables : UnicodeTables) (names : List String) (depth : Nat) (tokens : List String)
    (node : Node) : Rank → Prop
  | .unary => ∀ rest, Stops tables ["of"] rest →
      ∃ shorter, unary tables names depth (tokens ++ rest) = .ok (node, ⟨rest, shorter⟩)
  | .conjunction => ∀ rest, Stops tables ["of"] rest →
      ∀ tree after, andLoop tables names depth node rest = .ok (tree, after) →
        ∃ shorter, conjunction tables names depth (tokens ++ rest) =
          .ok (tree, ⟨after.1, shorter⟩)
  | .expression => ∀ rest, Stops tables ["of", "and"] rest →
      ∀ tree after, orLoop tables names depth node rest = .ok (tree, after) →
        ∃ shorter, expression tables names depth (tokens ++ rest) =
          .ok (tree, ⟨after.1, shorter⟩)

theorem Stops.weaken {rest : List String} (stops : Stops tables ["of", "and"] rest) :
    Stops tables ["of"] rest :=
  fun word first inside => stops word first
    (List.mem_cons.mpr (.inl (List.mem_singleton.mp inside)))

theorem stops_cons {token : String} {words others : List String}
    (other : tables.lowered token ∉ words) : Stops tables words (token :: others) := by
  rintro word first
  cases first
  exact other

/-- What follows a factor that is read to the end of its conjunction. -/
theorem Reads.conjunction_all {depth : Nat} {tokens : List String} {node : Node}
    (reads : Reads tables names depth tokens node .conjunction) {rest : List String}
    (stops : Stops tables ["of", "and"] rest) :
    ∃ shorter, conjunction tables names depth (tokens ++ rest) = .ok (node, ⟨rest, shorter⟩) :=
  reads rest stops.weaken node ⟨rest, Nat.le_refl _⟩ (andLoop_of_stops stops)

/-- By induction on what is written: a case for each way to write a tree. -/
theorem Written.reads {rank : Rank} {depth : Nat} {tokens : List String} {node : Node}
    (written : Written tables names rank depth tokens node) :
    Reads tables names depth tokens node rank := by
  induction written with
  | @selection depth token listed plain opening =>
    intro rest stops
    have named : selectionNamed names token rest =
        .ok (.selection token, ⟨rest, Nat.lt_succ_self _⟩) := if_pos listed
    rw [List.singleton_append, unary, if_neg plain, if_neg opening]
    cases amount? tables token with
    | none => exact ⟨_, named⟩
    | some amount =>
      match rest with
      | [] => exact ⟨_, named⟩
      | [word] => exact ⟨_, named⟩
      | word :: pattern :: others =>
        have other : tables.lowered word ≠ "of" := fun same => stops word rfl (by simp [same])
        simp only [if_neg other]
        exact ⟨Nat.lt_succ_self _, named⟩
  | @of depth token word pattern amount number of some plain =>
    intro rest _
    have opening : token ≠ "(" := by
      rintro rfl
      rw [amount?_parenthesis] at number
      cases number
    rw [List.cons_append, List.cons_append, List.cons_append, unary, if_neg plain,
      if_neg opening]
    simp only [number, of, if_true]
    cases expanded : expandPattern names pattern with
    | nil => exact absurd expanded some
    | cons first matched => exact ⟨by simp only [List.length_cons, List.nil_append]; omega, rfl⟩
  | not word inner ih =>
    intro rest stops
    obtain ⟨shorter, read⟩ := ih rest stops
    rw [List.cons_append, unary, if_pos word, read]
    exact ⟨_, rfl⟩
  | @group depth tokens node inner ih =>
    intro rest stops
    have closing : tables.lowered ")" = ")" := by simp [UnicodeTables.lowered]
    have ended : orLoop tables names (depth + 1) node (")" :: rest) =
        .ok (node, ⟨")" :: rest, Nat.le_refl _⟩) := by
      rw [orLoop, closing, if_neg (by decide)]
    obtain ⟨shorter, read⟩ := ih (")" :: rest)
      (stops_cons (by rw [closing]; decide)) node _ ended
    have same : tokens ++ [")"] ++ rest = tokens ++ ")" :: rest := by simp
    have opening : tables.lowered "(" ≠ "not" := by rw [lowered_parenthesis]; decide
    rw [List.cons_append, same, unary, if_neg opening, if_pos rfl, read]
    exact ⟨_, rfl⟩
  | factor inner ih =>
    intro rest stops tree after looped
    obtain ⟨shorter, read⟩ := ih rest stops
    rw [conjunction, read]
    simp only
    rw [looped]
    exact ⟨Nat.lt_of_le_of_lt after.2 shorter, rfl⟩
  | @and depth before after token first second left word right ihLeft ihRight =>
    intro rest stops tree others looped
    obtain ⟨shorter, read⟩ := ihRight rest stops
    have whole : andLoop tables names depth first (token :: (after ++ rest)) =
        .ok (tree, ⟨others.1, others.2.trans (Nat.le_of_lt (Nat.lt_succ_of_lt shorter))⟩) := by
      rw [andLoop, if_pos word]
      simp only [read, looped]
    rw [List.append_assoc, List.cons_append]
    exact ihLeft _ (stops_cons (by rw [word]; decide)) tree _ whole
  | term shallow inner ih =>
    intro rest stops tree after looped
    obtain ⟨shorter, read⟩ := Reads.conjunction_all ih stops
    rw [expression, if_neg (not_lt.mpr shallow), read]
    simp only
    rw [looped]
    exact ⟨Nat.lt_of_le_of_lt after.2 shorter, rfl⟩
  | @or depth before after token first second left word right ihLeft ihRight =>
    intro rest stops tree others looped
    obtain ⟨shorter, read⟩ := Reads.conjunction_all ihRight stops
    have whole : orLoop tables names depth first (token :: (after ++ rest)) =
        .ok (tree, ⟨others.1, others.2.trans (Nat.le_of_lt (Nat.lt_succ_of_lt shorter))⟩) := by
      rw [orLoop, if_pos word]
      simp only [read, looped]
    rw [List.append_assoc, List.cons_append]
    exact ihLeft _ (stops_cons (by rw [word]; decide)) tree _ whole

/-- **The reader of conditions decides the grammar**: a condition is accepted with a tree exactly
when its tokens say all that it says, and are written for that tree. -/
theorem condition_read_iff_written (tables : UnicodeTables) (names : List String)
    (condition : String) (tree : Node) :
    parseCondition tables names condition = .ok tree ↔
      tables.lowered (String.join (conditionTokens tables condition)) =
          tables.lowered (String.ofList (condition.toList.filter fun c => !Text.isSpace c)) ∧
        Written tables names .expression 0 (conditionTokens tables condition) tree := by
  unfold parseCondition
  generalize conditionTokens tables condition = tokens
  simp only
  split
  · rename_i differ
    exact iff_of_false (fun read => nomatch read) fun both => differ both.1
  rename_i same
  rw [not_not] at same
  constructor
  · intro accepted
    split at accepted
    · cases accepted
    rename_i node rest read
    split at accepted
    · rename_i ended
      cases accepted
      obtain ⟨before, tail, written⟩ := written_of_expression read
      rw [List.isEmpty_iff.mp ended, List.append_nil] at tail
      exact ⟨same, tail ▸ written⟩
    · cases accepted
  · rintro ⟨-, written⟩
    have reads := written.reads [] (fun _ none => nomatch none) tree ⟨[], Nat.le_refl _⟩
      (by rw [orLoop])
    rw [List.append_nil] at reads
    obtain ⟨shorter, read⟩ := reads
    simp only [read]
    rfl

end Descent

/-! ## Conditions without a negation -/

section Positive

variable {tables : UnicodeTables} {names : List String}

/-- **A tree written without a negation is monotone.** -/
theorem Written.resolve_mono {rank : Rank} {depth : Nat} {tokens : List String} {node : Node}
    (written : Written tables names rank depth tokens node)
    (positive : ∀ token ∈ tokens, tables.lowered token ≠ "not") {few more : String → Bool}
    (implies : ∀ name, few name = true → more name = true) (holds : node.resolve few = true) :
    node.resolve more = true := by
  induction written with
  | selection => exact implies _ holds
  | @of depth token word pattern amount =>
    rw [resolve_of] at holds ⊢
    cases amount with
    | all =>
      exact List.all_eq_true.mpr fun name inside =>
        implies name (List.all_eq_true.mp holds name inside)
    | atLeast count =>
      have counted := List.countP_mono_left (l := expandPattern names pattern)
        fun name _ => implies name
      exact decide_eq_true ((of_decide_eq_true holds).trans counted)
  | not word => exact absurd word (positive _ List.mem_cons_self)
  | group inner ih =>
    exact ih (fun token inside =>
      positive token (List.mem_cons_of_mem _ (List.mem_append_left _ inside))) holds
  | factor inner ih => exact ih positive holds
  | term shallow inner ih => exact ih positive holds
  | and left word right ihLeft ihRight =>
    obtain ⟨first, second⟩ := (Bool.and_eq_true _ _).mp holds
    refine (Bool.and_eq_true _ _).mpr ⟨ihLeft ?_ first, ihRight ?_ second⟩
    · exact fun token inside => positive token (List.mem_append_left _ inside)
    · exact fun token inside =>
        positive token (List.mem_append_right _ (List.mem_cons_of_mem _ inside))
  | or left word right ihLeft ihRight =>
    refine (Bool.or_eq_true _ _).mpr (((Bool.or_eq_true _ _).mp holds).imp ?_ ?_)
    · exact ihLeft fun token inside => positive token (List.mem_append_left _ inside)
    · exact ihRight fun token inside =>
        positive token (List.mem_append_right _ (List.mem_cons_of_mem _ inside))

variable {env : DetectionRuntime} {rule : NormalizedRule} {event : Event}

/-- An evaluation returns the result of the tree, and the selections that hold. -/
theorem evaluate_returns {evaluation : Evaluation}
    (returned : evaluate env rule event = .ok evaluation) :
    ∃ tree outcomes, parseCondition env.tables rule.names rule.condition = .ok tree ∧
      outcomes.map Prod.fst = rule.names ∧
        evaluation.result = tree.resolve (outcomeAt outcomes) ∧
          ∀ name, name ∈ evaluation.selections ↔ (name, true) ∈ outcomes := by
  unfold evaluate at returned
  split at returned
  · cases returned
  rename_i results terms
  have names := names_of_termResults terms
  simp only [names] at returned
  split at returned
  · cases returned
  rename_i tree read
  cases returned
  refine ⟨tree, outcomesOf results, read, names, rfl, fun name => ?_⟩
  rw [List.mem_insertionSort, List.mem_map]
  constructor
  · rintro ⟨⟨_, held⟩, inside, rfl⟩
    obtain ⟨inside, holds⟩ := List.mem_filter.mp inside
    exact (show held = true from holds) ▸ inside
  · intro inside
    exact ⟨_, List.mem_filter.mpr ⟨inside, rfl⟩, rfl⟩

/-- With distinct names, the outcome of a name is the one listed with it. -/
theorem outcomeAt_iff {outcomes : List (String × Bool)}
    (distinct : (outcomes.map Prod.fst).Nodup) (name : String) :
    outcomeAt outcomes name = true ↔ (name, true) ∈ outcomes := by
  unfold outcomeAt
  cases found : outcomes.find? fun outcome => outcome.1 == name with
  | none =>
    refine iff_of_false (by simp) fun inside => ?_
    simpa using List.find?_eq_none.mp found _ inside
  | some outcome =>
    obtain ⟨other, held⟩ := outcome
    have inside := List.mem_of_find?_eq_some found
    obtain rfl : other = name := by simpa using List.find?_some found
    rw [Option.map_some, Option.getD_some]
    constructor
    · rintro (rfl : held = true)
      exact inside
    · intro holds
      exact congrArg Prod.snd (List.inj_on_of_nodup_map distinct inside holds rfl)

/-- **A match survives more selections**, when the condition has no `not`: for any
two events whose evaluations return, if the selections that hold on the first hold on the second
and the rule matches the first, it matches the second. -/
theorem matches_monotone (distinct : rule.names.Nodup)
    (positive : ∀ token ∈ conditionTokens env.tables rule.condition,
      env.tables.lowered token ≠ "not")
    {first second : Event} {before after : Evaluation}
    (returned : evaluate env rule first = .ok before)
    (returned' : evaluate env rule second = .ok after)
    (more : ∀ name ∈ before.selections, name ∈ after.selections) (held : before.result = true) :
    after.result = true := by
  obtain ⟨tree, outcomes, read, names, result, selections⟩ := evaluate_returns returned
  obtain ⟨tree', outcomes', read', names', result', selections'⟩ := evaluate_returns returned'
  obtain rfl : tree = tree' := Except.ok.inj (read.symm.trans read')
  obtain ⟨-, written⟩ := (condition_read_iff_written _ _ _ _).mp read
  rw [result']
  rw [result] at held
  refine written.resolve_mono positive (fun name holds => ?_) held
  rw [outcomeAt_iff (names' ▸ distinct), ← selections']
  rw [outcomeAt_iff (names ▸ distinct), ← selections] at holds
  exact more name holds

/-- A rule on the address of a mail or on the name of a host. -/
def mailOrHostRule : NormalizedRule :=
  ⟨[("mail", [⟨"source.email", .iexact, .str "billing@example.org", false, false⟩]),
    ("host", [⟨"host.name", .iexact, .str "gateway", false, false⟩])], "mail or host"⟩

/-- An event with the address, on a host. -/
def mailEvent (host : String) : Event := fun name =>
  if name = "source.email" then .json (.str "billing@example.org")
  else if name = "host.name" then .json (.str host) else .none

theorem matches_monotone_mail :
    ∃ before after, evaluate asciiRuntime mailOrHostRule (mailEvent "relay") = .ok before ∧
      evaluate asciiRuntime mailOrHostRule (mailEvent "gateway") = .ok after ∧
        after.result = true := by
  obtain ⟨before, returned⟩ := exists_of_toBool
    (x := evaluate asciiRuntime mailOrHostRule (mailEvent "relay")) (by decide +kernel)
  obtain ⟨after, returned'⟩ := exists_of_toBool
    (x := evaluate asciiRuntime mailOrHostRule (mailEvent "gateway")) (by decide +kernel)
  have found : ((evaluate asciiRuntime mailOrHostRule (mailEvent "relay")).toOption.map
      fun found => (found.result, found.selections)) = some (true, ["mail"]) := by
    decide +kernel
  have found' : ((evaluate asciiRuntime mailOrHostRule (mailEvent "gateway")).toOption.map
      Evaluation.selections) = some ["host", "mail"] := by
    decide +kernel
  rw [returned] at found
  rw [returned'] at found'
  obtain ⟨held, selections⟩ := Prod.mk.inj (Option.some.inj found)
  refine ⟨before, after, returned, returned', ?_⟩
  refine matches_monotone (by decide) (by decide +kernel) returned returned' ?_ held
  rw [selections, show after.selections = _ from Option.some.inj found']
  decide

end Positive

end ThreatScope.Detection
