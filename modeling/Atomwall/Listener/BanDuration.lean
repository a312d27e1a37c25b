import Atomwall.Config.YamlCodec
import Atomwall.Listener.AutoBan

/-!
How long an automatic ban lasts. `award_score` caps the hours that a hand-edited file may contain, and
leaves those that are not positive as they are.
-/

namespace Atomwall.Listener

/-- The nanoseconds of `system_clock` are 64 bits wide. -/
def InClock (ticks : Int) : Prop := -0x8000000000000000 ≤ ticks ∧ ticks ≤ 0x7FFFFFFFFFFFFFFF

instance (ticks : Int) : Decidable (InClock ticks) := inferInstanceAs (Decidable (_ ∧ _))

def Award.duration (a : Award) : Int := hours (min a.config.ban.banDurationHours kMaxBanDurationHours)

/-- The ban does something: neither its duration nor its end overflows, it ends after it began, and the
address is blocked until then. -/
structure Effective (text : AddressText) (a : Award) (trackers : ScoreTracker × IpBlockTracker)
    (block : TemporaryIpBlock) : Prop where
  duration : InClock a.duration
  sum : InClock block.expiresAt
  lasting : block.createdAt < block.expiresAt
  blocked : ∀ now, now < block.expiresAt →
    (awardScore text a.config a.readings a.clientIp a.checkName trackers).2.isBlocked now a.clientIp = true

variable {text : AddressText} {a : Award} {trackers : ScoreTracker × IpBlockTracker}
  {block : TemporaryIpBlock}

theorem Award.duration_le (a : Award) : a.duration ≤ 315360000000000000 := by
  unfold Award.duration hours minutes seconds kMaxBanDurationHours
  omega

theorem Award.duration_pos (a : Award) : 0 < a.duration ↔ 1 ≤ a.config.ban.banDurationHours := by
  unfold Award.duration hours minutes seconds kMaxBanDurationHours
  omega

theorem awardScore_exact (banned : a.block text trackers.1 = some block) :
    (awardScore text a.config a.readings a.clientIp a.checkName trackers).2.exact.lookup a.clientIp =
      some block := by
  have shape := (Award.block_some banned).2.2
  have own : block.address = a.clientIp := by rw [shape]
  rw [awardScore_eq, banned, ← own]
  exact add_exact_self (by rw [shape])

theorem awardScore_isBlocked {now : Int} (banned : a.block text trackers.1 = some block)
    (live : now < block.expiresAt) :
    (awardScore text a.config a.readings a.clientIp a.checkName trackers).2.isBlocked now a.clientIp =
      true := by
  unfold IpBlockTracker.isBlocked
  rw [awardScore_exact banned, Option.any_some, decide_eq_true live, Bool.true_or]

/-- Whatever the configuration and the trackers: a ban does something exactly when it lasts an hour at
least and the clock is not yet so near its end that the hours overflow it. -/
theorem ban_effective_iff (clock : InClock a.readings.ban)
    (banned : a.block text trackers.1 = some block) :
    Effective text a trackers block ↔
      1 ≤ a.config.ban.banDurationHours ∧ a.readings.ban + a.duration ≤ 0x7FFFFFFFFFFFFFFF := by
  have shape := (Award.block_some banned).2.2
  have created : block.createdAt = a.readings.ban := by rw [shape]
  have expires : block.expiresAt = a.readings.ban + a.duration := by
    rw [shape]
    rfl
  rw [← a.duration_pos]
  constructor
  · intro effective
    have lasting := effective.lasting
    have sum := effective.sum.2
    omega
  · intro given
    obtain ⟨positive, fits⟩ := given
    have capped := a.duration_le
    unfold InClock at clock
    refine ⟨⟨by omega, by omega⟩, ⟨by omega, by omega⟩, by omega, fun now live => ?_⟩
    exact awardScore_isBlocked banned live

def banYaml (banDurationHours : String) : Yaml.Library where
  load := fun _ => some (Yaml.object [("ban", Yaml.object [("enabled", .scalar "true"),
    ("threshold", .scalar "40"), ("ban_duration_hours", .scalar banDurationHours)])])
  emit := fun _ => ""
  doubleText := fun _ => ".nan"
  readDouble := fun _ => none

def overLimit (banDurationHours : Int) : Award where
  config := { ban := { enabled := true, threshold := 40, banDurationHours } }
  readings := ⟨minutes 2, minutes 2, minutes 2, minutes 2, minutes 2⟩
  clientIp := offender
  checkName := "speed_check"

def overLimitBlock (banDurationHours : Int) : TemporaryIpBlock where
  text := "192.0.2.10"
  address := offender
  source := "score"
  scoreAtBlock := 40
  createdAt := minutes 2
  expiresAt := minutes 2 + hours (min banDurationHours kMaxBanDurationHours)

theorem overLimit_block (banDurationHours : Int) :
    (overLimit banDurationHours).block (fun _ => "192.0.2.10") (ScoreTracker.make 1) =
      some (overLimitBlock banDurationHours) := rfl

theorem ban_effective_day :
    Effective (fun _ => "192.0.2.10") (overLimit 24) (ScoreTracker.make 1, {}) (overLimitBlock 24) ↔
      1 ≤ (24 : Int) ∧ (overLimit 24).readings.ban + (overLimit 24).duration ≤ 0x7FFFFFFFFFFFFFFF :=
  ban_effective_iff (by decide) (overLimit_block 24)

/-- A file with no hours of ban: the ban is over when it begins, and the score is reset all the same. -/
theorem zero_hours_ban_nothing :
    ¬ ∀ (makeAddress : MakeAddress) (yaml : Yaml.Library) (now : Int) (yamlText : String)
        (text : AddressText) (a : Award) (trackers : ScoreTracker × IpBlockTracker)
        (block : TemporaryIpBlock),
        parseYamlConfig makeAddress yaml now yamlText = .ok a.config → a.config.ban.enabled = true →
        InClock a.readings.ban → a.block text trackers.1 = some block →
        Effective text a trackers block := by
  intro claim
  have effective := claim (fun _ => none) (banYaml "0") 0 "" (fun _ => "192.0.2.10") (overLimit 0)
    (ScoreTracker.make 1, {}) (overLimitBlock 0) rfl rfl (by decide) (overLimit_block 0)
  have lasting := effective.lasting
  revert lasting
  decide

end Atomwall.Listener
