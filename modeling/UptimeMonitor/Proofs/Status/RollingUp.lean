import UptimeMonitor.Proofs.Status.Window

/-!
# Rolling up whole days

Counts of checks come before rollups, so that a rollup that is written shows only once the checks
of its day are gone. Where all of them go at once, what was the last word on a day stays it.

- `rolledUp`, `keptRaw`: what is left when some days are rolled up.
- `lastCounts?_rolledUp`: what was entered last for a day is entered last for it afterwards.
- `history_rolledUp`: neither view of the history changes.
-/

namespace UptimeMonitor

/-- The rollups when those of some days are written after them. -/
def rolledUp (monitorId : String) (rollups : List DailyRollup) (moved : List DailyCounts) :
    List DailyRollup :=
  rollups ++ moved.map (DailyRollup.ofCounts monitorId)

/-- The counts of checks that are left when those of some days are gone. -/
def keptRaw (raw moved : List DailyCounts) : List DailyCounts := raw.filter fun day => day ∉ moved

/-- Counts of a day as an entry. -/
def DailyCounts.entry (day : DailyCounts) : Date × StatusCounts := (day.date, day.counts)

/-- Where no day is without checks, all counts are entered after the rollups. -/
theorem historyEntries_of_sampled {raw : List DailyCounts}
    (hsampled : ∀ day ∈ raw, 0 < day.counts.total) (rollups : List DailyRollup) :
    historyEntries rollups raw =
      rollups.map (fun r => (r.date, r.counts)) ++ raw.map DailyCounts.entry := by
  have hfilter : (raw.filter fun day => day.counts.total > 0) = raw := by
    rw [List.filter_eq_self]
    intro day hday
    exact decide_eq_true (hsampled day hday)
  rw [historyEntries, hfilter]
  rfl

section

variable {raw moved : List DailyCounts}

/-- What is moved and what is kept is all there was. -/
theorem mem_moved_append_keptRaw (hmoved : moved ⊆ raw) {day : DailyCounts} :
    day ∈ moved ++ keptRaw raw moved ↔ day ∈ raw := by
  simp only [keptRaw, List.mem_append, List.mem_filter, decide_eq_true_eq]
  constructor
  · rintro (hday | ⟨hday, -⟩)
    · exact hmoved hday
    · exact hday
  · intro hday
    by_cases hmem : day ∈ moved
    · exact .inl hmem
    · exact .inr ⟨hday, hmem⟩

/-- What was entered last for a day is entered last for it afterwards. -/
theorem lastCounts?_rolledUp (hdates : (raw.map DailyCounts.date).Nodup)
    (hsampled : ∀ day ∈ raw, 0 < day.counts.total) (hmoved : moved ⊆ raw) (monitorId : String)
    (rollups : List DailyRollup) (date : Date) :
    lastCounts? (historyEntries (rolledUp monitorId rollups moved) (keptRaw raw moved)) date =
      lastCounts? (historyEntries rollups raw) date := by
  have hkept : ∀ day ∈ keptRaw raw moved, 0 < day.counts.total := by
    intro day hday
    exact hsampled day (List.mem_filter.mp hday).1
  -- rollups of moved days enter what the moved days themselves would enter
  have hentries : historyEntries (rolledUp monitorId rollups moved) (keptRaw raw moved) =
      rollups.map (fun r => (r.date, r.counts)) ++
        (moved ++ keptRaw raw moved).map DailyCounts.entry := by
    rw [historyEntries_of_sampled hkept, rolledUp, List.map_append, List.map_append, List.map_map,
      List.append_assoc]
    rfl
  have hsame : ∀ e ∈ (moved ++ keptRaw raw moved).map DailyCounts.entry,
      ∀ e' ∈ (moved ++ keptRaw raw moved).map DailyCounts.entry, e.1 = e'.1 → e.2 = e'.2 := by
    intro e he e' he' hdate
    obtain ⟨day, hday, rfl⟩ := List.mem_map.mp he
    obtain ⟨day', hday', rfl⟩ := List.mem_map.mp he'
    have hraw := (mem_moved_append_keptRaw hmoved).mp hday
    have hraw' := (mem_moved_append_keptRaw hmoved).mp hday'
    rw [List.inj_on_of_nodup_map hdates hraw hraw' hdate]
  have hmem : ∀ e, e ∈ (moved ++ keptRaw raw moved).map DailyCounts.entry ↔
      e ∈ raw.map DailyCounts.entry := by
    intro e
    simp only [List.mem_map, mem_moved_append_keptRaw hmoved]
  rw [hentries, historyEntries_of_sampled hsampled, lastCounts?_append, lastCounts?_append,
    lastCounts?_congr hmem hsame]

/-- Where the counts are of different days with checks, any of these days can be rolled up: with
their rollups written after those that there are, in whatever order, and their counts gone, neither
the history nor the counts of all days together change. -/
theorem history_rolledUp (today : Date) (monitorId : String) (rollups : List DailyRollup)
    (hdates : (raw.map DailyCounts.date).Nodup) (hsampled : ∀ day ∈ raw, 0 < day.counts.total)
    (hmoved : moved ⊆ raw) :
    dailyHistory today (rolledUp monitorId rollups moved) (keptRaw raw moved) =
        dailyHistory today rollups raw ∧
      historyCounts (rolledUp monitorId rollups moved) (keptRaw raw moved) =
        historyCounts rollups raw := by
  have hlast := lastCounts?_rolledUp hdates hsampled hmoved monitorId rollups
  exact ⟨dailyHistory_congr fun d _ => hlast d, historyCounts_congr hlast⟩

end

/-- Counts of three days. -/
def threeDays : List DailyCounts :=
  [⟨⟨3⟩, ⟨4, 3, 1, 0⟩, 200⟩, ⟨⟨4⟩, ⟨2, 1, 0, 1⟩, 80⟩, ⟨⟨5⟩, ⟨1, 1, 0, 0⟩, 30⟩]

/-- The last and the first of them. -/
def outerDays : List DailyCounts := [⟨⟨5⟩, ⟨1, 1, 0, 0⟩, 30⟩, ⟨⟨3⟩, ⟨4, 3, 1, 0⟩, 200⟩]

/-- A rollup of the first day that misses most of its checks. -/
def earlyRollup : DailyRollup := ⟨"m", ⟨3⟩, ⟨1, 1, 0, 0⟩, none⟩

/-- The outer days are rolled up, of which the first has a rollup already. -/
theorem history_rolledUp_threeDays :
    (threeDays.map DailyCounts.date).Nodup ∧ (∀ day ∈ threeDays, 0 < day.counts.total) ∧
    outerDays ⊆ threeDays ∧
    dailyHistory ⟨7⟩ (rolledUp "m" [earlyRollup] outerDays) (keptRaw threeDays outerDays) =
      dailyHistory ⟨7⟩ [earlyRollup] threeDays ∧
    historyCounts (rolledUp "m" [earlyRollup] outerDays) (keptRaw threeDays outerDays) =
      historyCounts [earlyRollup] threeDays := by
  have hdates : (threeDays.map DailyCounts.date).Nodup := by decide
  have hsampled : ∀ day ∈ threeDays, 0 < day.counts.total := by decide
  have hmoved : outerDays ⊆ threeDays := by decide
  exact ⟨hdates, hsampled, hmoved, history_rolledUp ⟨7⟩ "m" [earlyRollup] hdates hsampled hmoved⟩

end UptimeMonitor
