import Mathlib

/-!
# Credentials that are accepted once

Two abstract mechanisms make a credential single use.

A **watermark** keeps, for each key, the largest value accepted under it and
accepts only larger ones. A key whose mark is lost accepts nothing any more.
The values accepted under a key are then strictly increasing
(`Watermarked.accept`, `Watermarked.keep`).

A **token pool** hands out tokens to owners, consumes them one at a time and
withdraws all tokens of an owner at once. When no token is handed out twice, no
token is consumed twice (`PoolRun.consumed_nodup`), and a token handed out
before its owner's tokens are withdrawn is not consumed afterwards
(`PoolRun.not_consumed_after_withdrawal`).
-/

set_option autoImplicit false

namespace ThreatScope.Library

universe u v

/-! ## Watermarks -/

section Watermarks

variable {κ : Type u} {ν : Type v} [DecidableEq κ]

/-- The values accepted under a key, oldest first. -/
def acceptedUnder (key : κ) (log : List (κ × ν)) : List ν :=
  (log.filter fun entry => entry.1 = key).map Prod.snd

@[simp] theorem acceptedUnder_nil (key : κ) : acceptedUnder key ([] : List (κ × ν)) = [] := rfl

theorem acceptedUnder_append (key : κ) (first second : List (κ × ν)) :
    acceptedUnder key (first ++ second) = acceptedUnder key first ++ acceptedUnder key second := by
  simp only [acceptedUnder, List.filter_append, List.map_append]

theorem acceptedUnder_singleton (key other : κ) (value : ν) :
    acceptedUnder key [(other, value)] = if other = key then [value] else [] := by
  by_cases same : other = key
  · simp [acceptedUnder, same]
  · simp [acceptedUnder, same]

variable [LinearOrder ν]

/-- The accepted values of every key increase, and every mark that is still
kept is at least as large as every value accepted under its key. A kept key
without a mark has accepted nothing. -/
structure Watermarked (log : List (κ × ν)) (mark : κ → Option (Option ν)) : Prop where
  increasing : ∀ key, (acceptedUnder key log).Pairwise (· < ·)
  covered : ∀ key kept, mark key = some kept →
    ∀ value ∈ acceptedUnder key log, ∃ last, kept = some last ∧ value ≤ last

theorem Watermarked.initial (mark : κ → Option (Option ν)) :
    Watermarked ([] : List (κ × ν)) mark where
  increasing := fun _ => List.Pairwise.nil
  covered := fun _ _ _ _ member => absurd member (List.not_mem_nil)

theorem Watermarked.keep {log : List (κ × ν)} {mark after : κ → Option (Option ν)}
    (marked : Watermarked log mark)
    (kept : ∀ key last, after key = some last → mark key = some last ∨ acceptedUnder key log = []) :
    Watermarked log after where
  increasing := marked.increasing
  covered := by
    intro key last found value member
    rcases kept key last found with same | empty
    · exact marked.covered key last same value member
    · rw [empty] at member
      cases member

/-- **Accepting a value above the mark keeps the accepted values increasing.** -/
theorem Watermarked.accept {log : List (κ × ν)} {mark after : κ → Option (Option ν)}
    (marked : Watermarked log mark) {key : κ} {value : ν} {last : Option ν}
    (found : mark key = some last) (above : ∀ bound, last = some bound → bound < value)
    (moved : ∀ kept, after key = some kept → kept = some value)
    (others : ∀ other, other ≠ key → ∀ kept, after other = some kept →
      mark other = some kept ∨ acceptedUnder other log = []) :
    Watermarked (log ++ [(key, value)]) after where
  increasing := by
    intro other
    rw [acceptedUnder_append, acceptedUnder_singleton]
    by_cases same : key = other
    · subst same
      rw [if_pos rfl, List.pairwise_append]
      refine ⟨marked.increasing key, List.pairwise_singleton _ _, ?_⟩
      intro earlier member later new
      rw [List.mem_singleton.mp new]
      obtain ⟨bound, isLast, below⟩ := marked.covered key last found earlier member
      exact lt_of_le_of_lt below (above bound isLast)
    · rw [if_neg same, List.append_nil]
      exact marked.increasing other
  covered := by
    intro other kept read earlier member
    rw [acceptedUnder_append, acceptedUnder_singleton] at member
    by_cases same : key = other
    · subst same
      rw [if_pos rfl] at member
      refine ⟨value, moved kept read, ?_⟩
      rcases List.mem_append.mp member with old | new
      · obtain ⟨bound, isLast, below⟩ := marked.covered key last found earlier old
        exact le_of_lt (lt_of_le_of_lt below (above bound isLast))
      · exact le_of_eq (List.mem_singleton.mp new)
    · rw [if_neg same, List.append_nil] at member
      rcases others other (Ne.symm same) kept read with old | empty
      · exact marked.covered other kept old earlier member
      · rw [empty] at member
        cases member

end Watermarks

/-! ## Token pools -/

/-- What happens to the tokens of a pool. -/
inductive TokenEvent (ω : Type u) (τ : Type v) where
  | issued (owner : ω) (tokens : List τ)
  | consumed (owner : ω) (token : τ)
  | withdrawn (owner : ω)

section Pools

variable {ω : Type u} {τ : Type v}

/-- The tokens a log hands out. -/
def issuedTokens (log : List (TokenEvent ω τ)) : List τ :=
  log.flatMap fun event => match event with
    | .issued _ tokens => tokens
    | _ => []

/-- The tokens a log consumes, oldest first. -/
def consumedTokens (log : List (TokenEvent ω τ)) : List τ :=
  log.flatMap fun event => match event with
    | .consumed _ token => [token]
    | _ => []

theorem issuedTokens_append (first second : List (TokenEvent ω τ)) :
    issuedTokens (first ++ second) = issuedTokens first ++ issuedTokens second :=
  List.flatMap_append

theorem consumedTokens_append (first second : List (TokenEvent ω τ)) :
    consumedTokens (first ++ second) = consumedTokens first ++ consumedTokens second :=
  List.flatMap_append

theorem issuedTokens_cons_withdrawn (owner : ω) (rest : List (TokenEvent ω τ)) :
    issuedTokens (.withdrawn owner :: rest) = issuedTokens rest := rfl

theorem mem_issuedTokens {log : List (TokenEvent ω τ)} {owner : ω} {tokens : List τ} {token : τ}
    (issued : TokenEvent.issued owner tokens ∈ log) (member : token ∈ tokens) :
    token ∈ issuedTokens log :=
  List.mem_flatMap.mpr ⟨_, issued, member⟩

theorem issuedTo_unique {log : List (TokenEvent ω τ)} (distinct : (issuedTokens log).Nodup)
    {first second : ω} {tokens others : List τ} {token : τ}
    (one : TokenEvent.issued first tokens ∈ log) (here : token ∈ tokens)
    (two : TokenEvent.issued second others ∈ log) (there : token ∈ others) : first = second := by
  induction log with
  | nil => cases one
  | cons event rest ih =>
    simp only [issuedTokens, List.flatMap_cons] at distinct
    obtain ⟨-, later, separate⟩ := List.nodup_append.mp distinct
    rcases List.mem_cons.mp one with rfl | early
    · rcases List.mem_cons.mp two with same | late
      · cases same
        rfl
      · exact absurd rfl (separate token here token (mem_issuedTokens late there))
    · rcases List.mem_cons.mp two with rfl | late
      · exact absurd rfl (separate token there token (mem_issuedTokens early here))
      · exact ih later early late

/-- What an event allows to be available afterwards. A pool may always lose
tokens. -/
def TokenEvent.Allows (before : ω → τ → Prop) (after : ω → τ → Prop) : TokenEvent ω τ → Prop
  | .issued owner tokens =>
    ∀ other token, after other token → before other token ∨ (other = owner ∧ token ∈ tokens)
  | .consumed owner token =>
    before owner token ∧ ∀ other kept, after other kept →
      before other kept ∧ ¬ (other = owner ∧ kept = token)
  | .withdrawn owner =>
    ∀ other token, after other token → before other token ∧ other ≠ owner

/-- A run of a pool along a log. -/
inductive PoolRun : (ω → τ → Prop) → List (TokenEvent ω τ) → (ω → τ → Prop) → Prop where
  | done {before after : ω → τ → Prop} (shrinks : ∀ owner token, after owner token →
      before owner token) : PoolRun before [] after
  | next {before middle after : ω → τ → Prop} {event : TokenEvent ω τ}
      {rest : List (TokenEvent ω τ)} (allowed : event.Allows before middle)
      (run : PoolRun middle rest after) : PoolRun before (event :: rest) after

/-- No token is available to two owners or handed out twice, now or later in
the log. -/
structure FreshTokens (pool : ω → τ → Prop) (log : List (TokenEvent ω τ)) : Prop where
  unique : ∀ {first second : ω} {token : τ}, pool first token → pool second token → first = second
  distinct : (issuedTokens log).Nodup
  apart : ∀ owner token, pool owner token → token ∉ issuedTokens log

namespace FreshTokens

/-- An event that is allowed leaves the rest of the log fresh. -/
theorem step {pool middle : ω → τ → Prop} {event : TokenEvent ω τ}
    {rest : List (TokenEvent ω τ)} (fresh : FreshTokens pool (event :: rest))
    (allowed : event.Allows pool middle) : FreshTokens middle rest := by
  have distinct := fresh.distinct
  have apart := fresh.apart
  simp only [issuedTokens, List.flatMap_cons] at distinct apart
  obtain ⟨-, later, separate⟩ := List.nodup_append.mp distinct
  cases event with
  | issued owner tokens =>
    have new : ∀ other token, pool other token → token ∉ tokens := fun other token held member =>
      apart other token held (List.mem_append_left _ member)
    refine ⟨?_, later, ?_⟩
    · intro first second token here there
      rcases allowed first token here with old | ⟨rfl, issued⟩
      · rcases allowed second token there with other | ⟨rfl, issued⟩
        · exact fresh.unique old other
        · exact absurd issued (new first token old)
      · rcases allowed second token there with other | ⟨rfl, -⟩
        · exact absurd issued (new second token other)
        · rfl
    · intro other token held member
      rcases allowed other token held with old | ⟨-, issued⟩
      · exact apart other token old (List.mem_append_right _ member)
      · exact separate token issued token member rfl
  | consumed owner token =>
    refine ⟨?_, later, ?_⟩
    · intro first second kept here there
      exact fresh.unique (allowed.2 first kept here).1 (allowed.2 second kept there).1
    · intro other kept held member
      exact apart other kept (allowed.2 other kept held).1 (List.mem_append_right _ member)
  | withdrawn owner =>
    refine ⟨?_, later, ?_⟩
    · intro first second kept here there
      exact fresh.unique (allowed first kept here).1 (allowed second kept there).1
    · intro other kept held member
      exact apart other kept (allowed other kept held).1 (List.mem_append_right _ member)

end FreshTokens

namespace PoolRun

variable {before middle after : ω → τ → Prop} {first second log : List (TokenEvent ω τ)}

theorem refl (pool : ω → τ → Prop) : PoolRun pool [] pool := .done fun _ _ held => held

theorem single {event : TokenEvent ω τ} (allowed : event.Allows before after) :
    PoolRun before [event] after := .next allowed (refl after)

theorem weaken {larger : ω → τ → Prop} (run : PoolRun before log after)
    (shrinks : ∀ owner token, before owner token → larger owner token) :
    PoolRun larger log after := by
  cases run with
  | done kept => exact .done fun owner token held => shrinks owner token (kept owner token held)
  | next allowed rest =>
    rename_i middle event log
    refine .next ?_ rest
    cases event with
    | issued owner tokens =>
      exact fun other token held => (allowed other token held).imp_left (shrinks other token)
    | consumed owner token =>
      exact ⟨shrinks owner token allowed.1, fun other kept held =>
        ⟨shrinks other kept (allowed.2 other kept held).1, (allowed.2 other kept held).2⟩⟩
    | withdrawn owner =>
      exact fun other token held =>
        ⟨shrinks other token (allowed other token held).1, (allowed other token held).2⟩

theorem append (one : PoolRun before first middle) (two : PoolRun middle second after) :
    PoolRun before (first ++ second) after := by
  induction one with
  | done shrinks => exact two.weaken shrinks
  | next allowed _ ih => exact .next allowed (ih two)

theorem split (run : PoolRun before (first ++ second) after) :
    ∃ middle, PoolRun before first middle ∧ PoolRun middle second after := by
  induction first generalizing before with
  | nil => exact ⟨before, refl before, run⟩
  | cons event rest ih =>
    cases run with
    | next allowed later =>
      obtain ⟨middle, one, two⟩ := ih later
      exact ⟨middle, .next allowed one, two⟩

/-- What is consumed was in the pool or was issued. -/
theorem consumed_source (run : PoolRun before log after) {token : τ}
    (member : token ∈ consumedTokens log) :
    (∃ owner, before owner token) ∨ token ∈ issuedTokens log := by
  induction run with
  | done _ => cases member
  | next allowed run ih =>
    rename_i before middle after event rest
    simp only [consumedTokens, issuedTokens, List.flatMap_cons, List.mem_append] at member ⊢
    cases event with
    | issued owner tokens =>
      rcases member with none | later
      · cases none
      · rcases ih later with ⟨other, held⟩ | issued
        · rcases allowed other token held with old | ⟨-, new⟩
          · exact .inl ⟨other, old⟩
          · exact .inr (.inl new)
        · exact .inr (.inr issued)
    | consumed owner used =>
      rcases member with now | later
      · rw [List.mem_singleton.mp now]
        exact .inl ⟨owner, allowed.1⟩
      · rcases ih later with ⟨other, held⟩ | issued
        · exact .inl ⟨other, (allowed.2 other token held).1⟩
        · exact .inr (.inr issued)
    | withdrawn owner =>
      rcases member with none | later
      · cases none
      · rcases ih later with ⟨other, held⟩ | issued
        · exact .inl ⟨other, (allowed other token held).1⟩
        · exact .inr (.inr issued)

/-- What is available in the end was available at the start or handed out to
the same owner, provided tokens are fresh. -/
theorem available_source (run : PoolRun before log after) {owner : ω} {token : τ}
    (held : after owner token) :
    before owner token ∨ ∃ tokens, TokenEvent.issued owner tokens ∈ log ∧ token ∈ tokens := by
  induction run with
  | done shrinks => exact .inl (shrinks owner token held)
  | next allowed run ih =>
    rename_i before middle after event rest
    rcases ih held with early | ⟨tokens, issued, member⟩
    · cases event with
      | issued other tokens =>
        rcases allowed owner token early with old | ⟨rfl, new⟩
        · exact .inl old
        · exact .inr ⟨tokens, List.mem_cons_self .., new⟩
      | consumed other used => exact .inl (allowed.2 owner token early).1
      | withdrawn other => exact .inl (allowed owner token early).1
    · exact .inr ⟨tokens, List.mem_cons_of_mem _ issued, member⟩

/-- **Fresh tokens are consumed at most once.** -/
theorem consumed_nodup (run : PoolRun before log after) (fresh : FreshTokens before log) :
    (consumedTokens log).Nodup := by
  induction run with
  | done _ => exact List.nodup_nil
  | next allowed run ih =>
    rename_i before middle after event rest
    have later := ih (fresh.step allowed)
    cases event with
    | issued owner tokens => exact later
    | withdrawn owner => exact later
    | consumed owner token =>
      refine List.nodup_cons.mpr ⟨fun again => ?_, later⟩
      rcases run.consumed_source again with ⟨other, held⟩ | issued
      · obtain ⟨still, different⟩ := allowed.2 other token held
        exact different ⟨fresh.unique still allowed.1, rfl⟩
      · refine fresh.apart owner token allowed.1 ?_
        simp only [issuedTokens, List.flatMap_cons]
        exact List.mem_append_right _ issued

/-- **A token its owner held or was handed before a withdrawal is not consumed
after it.** -/
theorem not_consumed_after_withdrawal {owner : ω} {token : τ}
    (run : PoolRun before (first ++ .withdrawn owner :: second) after)
    (fresh : FreshTokens before (first ++ .withdrawn owner :: second))
    (source : before owner token ∨
      ∃ tokens, TokenEvent.issued owner tokens ∈ first ∧ token ∈ tokens) :
    token ∉ consumedTokens second := by
  intro consumed
  have distinct := fresh.distinct
  have apart := fresh.apart
  simp only [issuedTokens_append, issuedTokens_cons_withdrawn] at distinct apart
  obtain ⟨one, two, separate⟩ := List.nodup_append.mp distinct
  obtain ⟨middle, early, late⟩ := run.split
  cases late with
  | next allowed rest =>
    rename_i withdrawnPool
    rcases rest.consumed_source consumed with ⟨other, held⟩ | issued
    · obtain ⟨stillHeld, different⟩ := allowed other token held
      refine different ?_
      rcases source with start | ⟨tokens, given, member⟩
      · rcases early.available_source stillHeld with old | ⟨others, given, member⟩
        · exact fresh.unique old start
        · exact absurd (List.mem_append_left _ (mem_issuedTokens given member))
            (apart owner token start)
      · rcases early.available_source stillHeld with old | ⟨others, again, also⟩
        · exact absurd (List.mem_append_left _ (mem_issuedTokens given member))
            (apart other token old)
        · exact issuedTo_unique one again also given member
    · rcases source with start | ⟨tokens, given, member⟩
      · exact apart owner token start (List.mem_append_right _ issued)
      · exact separate token (mem_issuedTokens given member) token issued rfl

end PoolRun

end Pools

end ThreatScope.Library
