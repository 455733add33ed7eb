import Mathlib.Data.List.Induction
import Mathlib.Data.List.Basic

/-!
# Hash chains

A chain numbers its entries from one; each entry holds the digest of its own payload and
the digest of the entry before it, and the payload fixes the number and that earlier
digest. A chain is sound when a reader who recomputes everything finds no difference
(`Sound`), and it stays sound when an entry made for its end is added (`sound_concat`).

The last digest binds the whole chain: two sound chains of the same length that end in the
same digest have the same payloads, unless the hash collides on two of them
(`payloads_eq_of_last`). Since the last payload holds the number of its entry, the same
digest at the end already gives the same length (`length_eq_of_last`).
-/

set_option autoImplicit false

namespace ThreatScope.Library

universe u v w

/-- How the entries of a chain are read. -/
structure HashChain (ε : Type u) (π : Type v) (η : Type w) where
  /-- The digest of a payload. -/
  hash : π → η
  payload : ε → π
  number : ε → Int
  /-- The digest of the entry before. -/
  prior : ε → Option η
  digest : ε → η
  /-- The payload holds the number and the earlier digest. -/
  bound : ∀ first second, payload first = payload second →
    number first = number second ∧ prior first = prior second

namespace HashChain

variable {ε : Type u} {π : Type v} {η : Type w} (chain : HashChain ε π η)

/-- The digest at the end of a chain. -/
def last (entries : List ε) : Option η := entries.getLast?.map chain.digest

/-- The entry continues a chain of the given length and last digest. -/
def Follows (length : Nat) (previous : Option η) (entry : ε) : Prop :=
  chain.number entry = length + 1 ∧ chain.prior entry = previous ∧
    chain.digest entry = chain.hash (chain.payload entry)

/-- The entries continue a chain of the given length and last digest. -/
def SoundFrom : Nat → Option η → List ε → Prop
  | _, _, [] => True
  | length, previous, entry :: rest =>
    chain.Follows length previous entry ∧ SoundFrom (length + 1) (chain.digest entry) rest

/-- The entries are a chain. -/
def Sound (entries : List ε) : Prop := chain.SoundFrom 0 none entries

/-- The hash does not collide on the payloads of the two chains. -/
def CollisionFree (first second : List ε) : Prop :=
  ∀ entry ∈ first, ∀ other ∈ second,
    chain.hash (chain.payload entry) = chain.hash (chain.payload other) →
      chain.payload entry = chain.payload other

@[simp] theorem last_concat (entries : List ε) (entry : ε) :
    chain.last (entries ++ [entry]) = some (chain.digest entry) := by
  rw [last, List.getLast?_concat, Option.map_some]

theorem soundFrom_concat (length : Nat) (previous : Option η) (entries : List ε) (entry : ε) :
    chain.SoundFrom length previous (entries ++ [entry]) ↔
      chain.SoundFrom length previous entries ∧
        chain.Follows (length + entries.length) ((chain.last entries).or previous) entry := by
  induction entries generalizing length previous with
  | nil => simp [SoundFrom, last]
  | cons head entries ih =>
    have after : (chain.last (head :: entries)).or previous =
        (chain.last entries).or (some (chain.digest head)) := by
      cases entries with
      | nil => rfl
      | cons next entries => simp [last, List.getLast?_cons]
    rw [List.cons_append, SoundFrom, SoundFrom, ih, after, List.length_cons, and_assoc,
      Nat.add_assoc, Nat.add_comm 1]

/-- **A sound chain stays sound exactly when the new entry follows its end.** -/
theorem sound_concat (entries : List ε) (entry : ε) :
    chain.Sound (entries ++ [entry]) ↔
      chain.Sound entries ∧ chain.Follows entries.length (chain.last entries) entry := by
  rw [Sound, soundFrom_concat, Nat.zero_add, Option.or_none, Sound]

section Binding

variable {chain} {first second : List ε}

/-- The entries at the end of two sound chains with the same digest have the same payload. -/
theorem payload_eq_of_digest {entry other : ε} {length longer : Nat} {previous earlier : Option η}
    (follows : chain.Follows length previous entry) (also : chain.Follows longer earlier other)
    (free : chain.hash (chain.payload entry) = chain.hash (chain.payload other) →
      chain.payload entry = chain.payload other)
    (same : chain.digest entry = chain.digest other) :
    chain.payload entry = chain.payload other := by
  apply free
  rw [← follows.2.2, ← also.2.2, same]

/-- **The last digest binds the payloads of a chain of known length.** -/
theorem payloads_eq_of_last (free : chain.CollisionFree first second) (sound : chain.Sound first)
    (also : chain.Sound second) (length : first.length = second.length)
    (same : chain.last first = chain.last second) :
    first.map chain.payload = second.map chain.payload := by
  induction first using List.reverseRecOn generalizing second with
  | nil => rw [List.eq_nil_of_length_eq_zero length.symm]
  | append_singleton first entry ih =>
    cases second using List.reverseRecOn with
    | nil => simp at length
    | append_singleton second other =>
      rw [last_concat, last_concat, Option.some.injEq] at same
      obtain ⟨sound, follows⟩ := (chain.sound_concat first entry).mp sound
      obtain ⟨also, alsoFollows⟩ := (chain.sound_concat second other).mp also
      have payload := payload_eq_of_digest follows alsoFollows
        (free entry (by simp) other (by simp)) same
      -- the payload fixes the digest the next step of the induction needs
      have earlier : chain.last first = chain.last second := by
        rw [← follows.2.1, ← alsoFollows.2.1, (chain.bound entry other payload).2]
      have lengths : first.length = second.length := by simpa using length
      have front := ih (fun entry member other inside =>
        free entry (List.mem_append_left _ member) other (List.mem_append_left _ inside))
        sound also lengths earlier
      simp [front, payload]

/-- **The last digest binds the length of a chain.** -/
theorem length_eq_of_last (free : chain.CollisionFree first second) (sound : chain.Sound first)
    (also : chain.Sound second) (same : chain.last first = chain.last second) :
    first.length = second.length := by
  cases first using List.reverseRecOn with
  | nil =>
    cases second using List.reverseRecOn with
    | nil => rfl
    | append_singleton second other => simp [last] at same
  | append_singleton first entry =>
    cases second using List.reverseRecOn with
    | nil => simp [last] at same
    | append_singleton second other =>
      rw [last_concat, last_concat, Option.some.injEq] at same
      have follows := ((chain.sound_concat first entry).mp sound).2
      have alsoFollows := ((chain.sound_concat second other).mp also).2
      have payload := payload_eq_of_digest follows alsoFollows
        (free entry (by simp) other (by simp)) same
      have numbers := (chain.bound entry other payload).1
      rw [follows.1, alsoFollows.1] at numbers
      simp only [List.length_append, List.length_singleton]
      omega

theorem pairwise_of_soundFrom {length : Nat} {previous : Option η} {entries : List ε}
    (sound : chain.SoundFrom length previous entries) :
    entries.Pairwise (fun entry other => chain.number entry ≤ chain.number other) ∧
      ∀ entry ∈ entries, (length : Int) < chain.number entry := by
  induction entries generalizing length previous with
  | nil => exact ⟨.nil, fun _ member => by cases member⟩
  | cons head entries ih =>
    obtain ⟨follows, rest⟩ := sound
    obtain ⟨ordered, above⟩ := ih rest
    have number := follows.1
    constructor
    · apply List.pairwise_cons.mpr
      refine ⟨fun entry member => ?_, ordered⟩
      have bound := above entry member
      omega
    · intro entry member
      rcases List.mem_cons.mp member with rfl | later
      · omega
      · have bound := above entry later
        omega

theorem digest_of_mem {length : Nat} {previous : Option η} {entries : List ε} {entry : ε}
    (sound : chain.SoundFrom length previous entries) (member : entry ∈ entries) :
    chain.digest entry = chain.hash (chain.payload entry) := by
  induction entries generalizing length previous with
  | nil => cases member
  | cons head entries ih =>
    rcases List.mem_cons.mp member with rfl | later
    · exact sound.1.2.2
    · exact ih sound.2 later

theorem digests_eq_of_payloads (sound : chain.Sound first) (also : chain.Sound second)
    (same : first.map chain.payload = second.map chain.payload) :
    first.map chain.digest = second.map chain.digest := by
  have computed {entries : List ε} (sound : chain.Sound entries) :
      entries.map chain.digest = (entries.map chain.payload).map chain.hash := by
    rw [List.map_map]
    exact List.map_congr_left fun entry member => digest_of_mem sound member
  rw [computed sound, computed also, same]

end Binding

end HashChain

end ThreatScope.Library
