import Mathlib.Tactic.Tauto
import UptimeMonitor.Notify.Dispatch

/-!
# When a channel is to be told

Word that a monitor is down is held back while its incident is younger than the threshold of a
channel. The threshold is compared as a number with a sign, which is negative from `2 ^ 63` on, so
that the longest thresholds hold nothing back.

- `SubscribedChannel.Wants`, `SubscribedChannel.HoldsBack`: a channel takes word of a status; it
  asks for it to be held back.
- `SubscribedChannel.Overflows`: the age of the incident reaches the threshold as it is compared.
- `shouldNotify_iff`: who is told, by the threshold as it is compared.
- `Instant.secondsSince_mono`: nothing grows younger, leap seconds aside.
- `shouldNotify_iff_holdsBack`: who is told, by the threshold as it is given.
- `not_forall_shouldNotify_iff`, `not_forall_shouldNotify_mono`: the longest thresholds and leap
  seconds are exceptions indeed.
-/

namespace UptimeMonitor

/-! ## Thresholds -/

/-- Below `2 ^ 63` a threshold is the number it is written as. -/
theorem signedThreshold_of_lt {threshold : Nat} (h : threshold < 0x8000000000000000) :
    signedThreshold threshold = threshold := by
  unfold signedThreshold
  rw [Int.bmod_def, Int.ofNat_eq_natCast]
  split <;> omega

/-- From `2 ^ 63` on a threshold is `2 ^ 64` less. -/
theorem signedThreshold_of_le {threshold : Nat} (hlow : 0x8000000000000000 ≤ threshold)
    (hhigh : threshold < 0x10000000000000000) :
    signedThreshold threshold = threshold - 0x10000000000000000 := by
  unfold signedThreshold
  rw [Int.bmod_def, Int.ofNat_eq_natCast]
  split <;> omega

/-- An age lies below the threshold as it is compared if it lies below the threshold, but for the
ages that a negative number is not above. -/
theorem lt_signedThreshold_iff {threshold : Nat} (h : threshold < 0x10000000000000000)
    {age : Int} :
    age < signedThreshold threshold ↔
      age < threshold ∧
        ¬ (0x8000000000000000 ≤ threshold ∧ threshold - 0x10000000000000000 ≤ age) := by
  rcases Nat.lt_or_ge threshold 0x8000000000000000 with hlow | hlow
  · rw [signedThreshold_of_lt hlow]
    omega
  · rw [signedThreshold_of_le hlow h]
    omega

/-! ## Ages -/

/-- Nothing grows younger, unless leap seconds are involved. -/
theorem Instant.secondsSince_mono {created now later : Instant} (h : now ≤ later)
    (hcreated : created.isLeap = false) (hnow : now.isLeap = false)
    (hlater : later.isLeap = false) : now.secondsSince created ≤ later.secondsSince created := by
  have hnanos : now.nanos < 1000000000 := Nat.lt_of_not_le (of_decide_eq_false hnow)
  unfold secondsSince
  simp only [hcreated, hnow, hlater, Bool.false_eq_true, and_false, if_false]
  refine Int.tdiv_le_tdiv (by decide) ?_
  rw [le_def] at h
  simp only [nanosPerSecond]
  omega

/-! ## Who is told -/

namespace SubscribedChannel

/-- The channel takes word of a status. -/
def Wants (sc : SubscribedChannel) (status : Status) : Prop :=
  sc.channel.active = true ∧ status ∈ sc.notifyOn

/-- The channel has word of a monitor that is down held back: an incident is open that is younger
than its threshold. -/
def HoldsBack (sc : SubscribedChannel) (status : Status) (incident : Option Incident)
    (now : Instant) : Prop :=
  status = .down ∧ 0 < sc.downtimeThresholdS ∧
    ∃ i, incident = some i ∧ i.isOpen = true ∧
      now.secondsSince i.createdAt < sc.downtimeThresholdS

/-- The threshold of the channel is compared as a negative number, and the incident is not younger
than that. -/
def Overflows (sc : SubscribedChannel) (incident : Option Incident) (now : Instant) : Prop :=
  0x8000000000000000 ≤ sc.downtimeThresholdS ∧
    ∃ i, incident = some i ∧
      (sc.downtimeThresholdS : Int) - 0x10000000000000000 ≤ now.secondsSince i.createdAt

end SubscribedChannel

section

variable {sc : SubscribedChannel} {status : Status} {incident : Option Incident} {now : Instant}

/-- A channel is told of what it wants to know, unless an incident is open that is younger than the
threshold as it is compared. -/
theorem shouldNotify_iff :
    shouldNotify sc status incident now = true ↔
      sc.Wants status ∧
        ¬ (status = .down ∧ 0 < sc.downtimeThresholdS ∧
          ∃ i, incident = some i ∧ i.isOpen = true ∧
            now.secondsSince i.createdAt < signedThreshold sc.downtimeThresholdS) := by
  unfold shouldNotify SubscribedChannel.Wants
  by_cases hwants : sc.channel.active = true ∧ status ∈ sc.notifyOn
  · rw [if_neg (by simpa using hwants), and_iff_right hwants]
    by_cases hdown : status = .down ∧ sc.downtimeThresholdS > 0
    · rw [if_pos hdown]
      cases incident with
      | none => simp
      | some i => cases hopen : i.isOpen <;> simp [hdown.1, hdown.2, hopen]
    · rw [if_neg hdown]
      exact iff_of_true rfl fun h => hdown ⟨h.1, h.2.1⟩
  · have hnot : (!sc.channel.active || !sc.notifyOn.contains status) = true := by
      rw [Bool.or_eq_true, Bool.not_eq_true', Bool.not_eq_true', List.contains_eq_mem,
        decide_eq_false_iff_not]
      by_cases hactive : sc.channel.active = true
      · exact .inr fun hmem => hwants ⟨hactive, hmem⟩
      · exact .inl (Bool.eq_false_iff.mpr hactive)
    rw [if_pos hnot]
    exact iff_of_false nofun fun h => hwants h.1

/-- A channel is told of what it wants to know, unless it has it held back by a threshold that does
not overflow. -/
theorem shouldNotify_iff_of_lt (hrange : sc.downtimeThresholdS < 0x10000000000000000) :
    shouldNotify sc status incident now = true ↔
      sc.Wants status ∧
        ¬ (sc.HoldsBack status incident now ∧ ¬ sc.Overflows incident now) := by
  rw [shouldNotify_iff]
  refine and_congr_right fun _ => not_congr ?_
  unfold SubscribedChannel.HoldsBack SubscribedChannel.Overflows
  constructor
  · rintro ⟨hdown, hpos, i, rfl, hopen, hage⟩
    obtain ⟨hyoung, hoverflow⟩ := (lt_signedThreshold_iff hrange).mp hage
    refine ⟨⟨hdown, hpos, i, rfl, hopen, hyoung⟩, ?_⟩
    rintro ⟨hhigh, i', hi', hold⟩
    obtain rfl := Option.some.inj hi'
    exact hoverflow ⟨hhigh, hold⟩
  · rintro ⟨⟨hdown, hpos, i, rfl, hopen, hyoung⟩, hoverflow⟩
    refine ⟨hdown, hpos, i, rfl, hopen, (lt_signedThreshold_iff hrange).mpr ⟨hyoung, ?_⟩⟩
    rintro ⟨hhigh, hold⟩
    exact hoverflow ⟨hhigh, i, rfl, hold⟩

/-- Who is told stays to be told, unless leap seconds are involved. -/
theorem shouldNotify_mono {later : Instant} (h : now ≤ later) (hnow : now.isLeap = false)
    (hlater : later.isLeap = false) (hcreated : ∀ i ∈ incident, i.createdAt.isLeap = false)
    (htold : shouldNotify sc status incident now = true) :
    shouldNotify sc status incident later = true := by
  rw [shouldNotify_iff] at htold ⊢
  obtain ⟨hwants, hdue⟩ := htold
  refine ⟨hwants, ?_⟩
  rintro ⟨hdown, hpos, i, hi, hopen, hyoung⟩
  -- an incident that is too young later is too young now
  have hage := Instant.secondsSince_mono h (hcreated i hi) hnow hlater
  exact hdue ⟨hdown, hpos, i, hi, hopen, Int.lt_of_le_of_lt hage hyoung⟩

end

/-- A channel is told of a status if it wants to know and does not have it held back, but for one
exception: where its threshold overflows, it is told of what it has held back. Leap seconds aside,
whoever is to be told at some time is to be told at all later ones. -/
theorem shouldNotify_iff_holdsBack {sc : SubscribedChannel}
    (hrange : sc.downtimeThresholdS < 0x10000000000000000) (status : Status)
    (incident : Option Incident) (now : Instant) :
    (shouldNotify sc status incident now = true ↔
      sc.Wants status ∧
        ¬ (sc.HoldsBack status incident now ∧ ¬ sc.Overflows incident now)) ∧
    ((shouldNotify sc status incident now = true ↔
        sc.Wants status ∧ ¬ sc.HoldsBack status incident now) ↔
      ¬ (sc.Wants status ∧ sc.HoldsBack status incident now ∧ sc.Overflows incident now)) ∧
    (∀ later, now ≤ later → now.isLeap = false → later.isLeap = false →
      (∀ i ∈ incident, i.createdAt.isLeap = false) →
      shouldNotify sc status incident now = true →
      shouldNotify sc status incident later = true) := by
  refine ⟨shouldNotify_iff_of_lt hrange, ?_, ?_⟩
  · rw [shouldNotify_iff_of_lt hrange]
    tauto
  · intro later h hnow hlater hcreated htold
    exact shouldNotify_mono h hnow hlater hcreated htold

/-! ## Exceptions -/

/-- A channel with a threshold that wants to know of monitors that are down. -/
def downChannel (threshold : Nat) : SubscribedChannel :=
  ⟨⟨"c", "c", .slack, [], true, ⟨0, 0⟩⟩, [.down], threshold⟩

/-- An incident that is open since a time. -/
def openSince (created : Instant) : Option Incident :=
  some ⟨"i", some "m", "m", .investigating, created, none⟩

/-- With a threshold of five minutes, a channel is told of an incident of as many, and is still to
be told a minute later. -/
theorem shouldNotify_iff_holdsBack_fiveMinutes :
    (downChannel 300).downtimeThresholdS < 0x10000000000000000 ∧
    (shouldNotify (downChannel 300) .down (openSince ⟨0, 0⟩) ⟨300, 0⟩ = true ↔
      (downChannel 300).Wants .down ∧
        ¬ ((downChannel 300).HoldsBack .down (openSince ⟨0, 0⟩) ⟨300, 0⟩ ∧
          ¬ (downChannel 300).Overflows (openSince ⟨0, 0⟩) ⟨300, 0⟩)) ∧
    (⟨300, 0⟩ : Instant) ≤ ⟨360, 0⟩ ∧ (⟨300, 0⟩ : Instant).isLeap = false ∧
    (⟨360, 0⟩ : Instant).isLeap = false ∧
    (∀ i ∈ openSince ⟨0, 0⟩, i.createdAt.isLeap = false) ∧
    shouldNotify (downChannel 300) .down (openSince ⟨0, 0⟩) ⟨300, 0⟩ = true ∧
    shouldNotify (downChannel 300) .down (openSince ⟨0, 0⟩) ⟨360, 0⟩ = true := by
  have hrange : (downChannel 300).downtimeThresholdS < 0x10000000000000000 := by decide
  have hle : (⟨300, 0⟩ : Instant) ≤ ⟨360, 0⟩ := by decide
  have hcreated : ∀ i ∈ openSince ⟨0, 0⟩, i.createdAt.isLeap = false := by
    intro i hi
    rw [← Option.some.inj hi]
    rfl
  have htold : shouldNotify (downChannel 300) .down (openSince ⟨0, 0⟩) ⟨300, 0⟩ = true := by decide
  obtain ⟨hlaw, -, hmono⟩ :=
    shouldNotify_iff_holdsBack hrange .down (openSince ⟨0, 0⟩) ⟨300, 0⟩
  exact ⟨hrange, hlaw, hle, rfl, rfl, hcreated, htold, hmono ⟨360, 0⟩ hle rfl rfl hcreated htold⟩

/-- With a threshold of `2 ^ 63` seconds, a channel is told of an incident of five minutes. -/
theorem not_forall_shouldNotify_iff :
    ¬ ∀ (sc : SubscribedChannel) (status : Status) (incident : Option Incident) (now : Instant),
      sc.downtimeThresholdS < 0x10000000000000000 →
      (shouldNotify sc status incident now = true ↔
        sc.Wants status ∧ ¬ sc.HoldsBack status incident now) := by
  intro hclaim
  have hlaw := hclaim (downChannel 0x8000000000000000) .down (openSince ⟨0, 0⟩) ⟨300, 0⟩ (by decide)
  have htold : shouldNotify (downChannel 0x8000000000000000) .down (openSince ⟨0, 0⟩) ⟨300, 0⟩ =
      true := by decide
  obtain ⟨-, hdue⟩ := hlaw.mp htold
  exact hdue ⟨rfl, by decide, _, rfl, rfl, by decide⟩

/-- At the end of a leap second, a channel is told of an incident of a minute, and right after it
the incident counts as younger than a minute. -/
theorem not_forall_shouldNotify_mono :
    ¬ ∀ (sc : SubscribedChannel) (status : Status) (incident : Option Incident)
        (now later : Instant), now ≤ later →
      shouldNotify sc status incident now = true →
      shouldNotify sc status incident later = true := by
  intro hclaim
  have hlater := hclaim (downChannel 60) .down (openSince ⟨0, 400000000⟩) ⟨59, 1900000000⟩
    ⟨60, 200000000⟩ (by decide) (by decide)
  exact absurd hlater (by decide)

end UptimeMonitor
