import Atomwall.Base.KeyMap
import Atomwall.Platform.Libraries

/-! `ChallengeStore`: WebAuthn challenges by ceremony key, with the order they were started in. -/

namespace Atomwall

abbrev Challenge := List UInt8

structure ChallengeEntry where
  challenge : Challenge
  expiresAt : Int

structure Stamp where
  key : String
  expiresAt : Int

structure ChallengeStore where
  entries : KeyMap String ChallengeEntry := ∅
  order : List Stamp := []

namespace ChallengeStore

def kMaxEntries : Nat := 10000

/-- The entry the stamp was made for, dropped unless its key was started again since. -/
def dropStamped (entries : KeyMap String ChallengeEntry) (oldest : Stamp) :
    KeyMap String ChallengeEntry :=
  match entries.lookup oldest.key with
  | some e => if e.expiresAt = oldest.expiresAt then entries.erase oldest.key else entries
  | none => entries

/-- The loop of `start`: stamps leave from the front while there are too many or they have expired. -/
def drain (now : Int) (entries : KeyMap String ChallengeEntry) : List Stamp → ChallengeStore
  | [] => ⟨entries, []⟩
  | oldest :: rest =>
    if kMaxEntries < rest.length + 1 ∨ oldest.expiresAt ≤ now then
      drain now (dropStamped entries oldest) rest
    else ⟨entries, oldest :: rest⟩

variable (s : ChallengeStore) (m : Moment)

def start (key : String) (challenge : Challenge) : ChallengeStore :=
  let expiresAt := m.now + minutes 2
  drain m.now (s.entries.insert key ⟨challenge, expiresAt⟩) (s.order ++ [⟨key, expiresAt⟩])

def consume (key : String) : Option Challenge × ChallengeStore :=
  match s.entries.lookup key with
  | none => (none, s)
  | some e =>
    (if e.expiresAt < m.now then none else some e.challenge, { s with entries := s.entries.erase key })

variable {s m}

theorem lookup_dropStamped {entries : KeyMap String ChallengeEntry} {oldest : Stamp} {key : String}
    {e : ChallengeEntry} (h : (dropStamped entries oldest).lookup key = some e) :
    entries.lookup key = some e := by
  unfold dropStamped at h
  split at h
  · split at h
    · rw [KeyMap.lookup_erase_ite] at h
      split at h
      · cases h
      · exact h
    · exact h
  · exact h

theorem lookup_drain {now : Int} {entries : KeyMap String ChallengeEntry} {order : List Stamp}
    {key : String} {e : ChallengeEntry} (h : (drain now entries order).entries.lookup key = some e) :
    entries.lookup key = some e := by
  induction order generalizing entries with
  | nil => exact h
  | cons oldest rest ih =>
    unfold drain at h
    split at h
    · exact lookup_dropStamped (ih h)
    · exact h

theorem lookup_start {key other : String} {challenge : Challenge} {e : ChallengeEntry}
    (h : (s.start m key challenge).entries.lookup other = some e) :
    (other = key ∧ e = ⟨challenge, m.now + minutes 2⟩) ∨ s.entries.lookup other = some e := by
  have inserted := lookup_drain h
  rw [KeyMap.lookup_insert_ite] at inserted
  split at inserted
  · next same => exact Or.inl ⟨same, (Option.some.inj inserted).symm⟩
  · exact Or.inr inserted

theorem consume_some {key : String} {challenge : Challenge} {next : ChallengeStore}
    (h : s.consume m key = (some challenge, next)) :
    ∃ e, s.entries.lookup key = some e ∧ e.challenge = challenge ∧ m.now ≤ e.expiresAt ∧
      next.entries = s.entries.erase key := by
  unfold consume at h
  split at h
  · cases h
  · next e found =>
    by_cases old : e.expiresAt < m.now
    · simp [old] at h
    · simp only [old, if_false, Prod.mk.injEq, Option.some.injEq] at h
      exact ⟨e, found, h.1, Int.not_lt.mp old, by rw [← h.2]⟩

theorem lookup_consume {key other : String} {e : ChallengeEntry}
    (h : (s.consume m key).2.entries.lookup other = some e) :
    other ≠ key ∧ s.entries.lookup other = some e := by
  unfold consume at h
  split at h
  · next absent =>
    refine ⟨fun same => ?_, h⟩
    rw [same, absent] at h
    cases h
  · rw [KeyMap.lookup_erase_ite] at h
    split at h
    · cases h
    · next apart => exact ⟨apart, h⟩

end ChallengeStore

end Atomwall
