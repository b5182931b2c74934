import Mathlib.Data.List.Induction
import Mathlib.Data.List.Perm.Basic
import UptimeMonitor.Proofs.Store.WellFormed
import UptimeMonitor.Status.History

/-!
# The counts of a day in the history

The history of ninety days and the counts of all days together are two views of the same entries:
those of rollups, and after them those of checks. What was entered last for a day counts.

- `historyEntries`: the entries in their order.
- `lastCounts?`: what was entered last for a day.
- `dailyHistory_eq`: every day of the history shows what was entered last for it.
- `historyCounts_eq`: each day that something was entered for counts once, with what was entered
  last.
-/

namespace UptimeMonitor

/-! ## Sums of counts -/

namespace StatusCounts

@[ext] theorem ext {a b : StatusCounts} (htotal : a.total = b.total) (hup : a.up = b.up)
    (hdown : a.down = b.down) (hdegraded : a.degraded = b.degraded) : a = b := by
  cases a
  cases b
  simp only [mk.injEq]
  exact ⟨htotal, hup, hdown, hdegraded⟩

instance : RightCommutative fun a b : StatusCounts => a + b where
  right_comm a b c := by ext <;> simp only [total_add, up_add, down_add, degraded_add] <;> omega

/-- The order of the summands does not matter. -/
theorem sum_perm {as bs : List StatusCounts} (h : as.Perm bs) : sum as = sum bs := by
  unfold sum
  exact h.foldl_eq _

/-- Each component of a sum is the sum of that component. -/
theorem component_sum {f : StatusCounts → Nat} (hzero : f {} = 0)
    (hadd : ∀ a b : StatusCounts, f (a + b) = f a + f b) (cs : List StatusCounts) :
    f (sum cs) = (cs.map f).foldr (· + ·) 0 := by
  -- The sum is folded from the left, so the induction has to allow for any start.
  have key : ∀ (cs : List StatusCounts) (c : StatusCounts),
      f (cs.foldl (· + ·) c) = f c + (cs.map f).foldr (· + ·) 0 := by
    intro cs
    induction cs with
    | nil => exact fun c => rfl
    | cons a rest ih =>
      intro c
      rw [List.foldl_cons, ih, hadd, List.map_cons, List.foldr_cons]
      omega
  rw [sum, key, hzero]
  exact Nat.zero_add _

theorem total_sum (cs : List StatusCounts) :
    (sum cs).total = (cs.map total).foldr (· + ·) 0 :=
  component_sum rfl total_add cs

end StatusCounts

/-! ## Entries -/

/-- The counts by day in the order in which they are entered: those of rollups, then those of
checks. -/
def historyEntries (rollups : List DailyRollup) (raw : List DailyCounts) :
    List (Date × StatusCounts) :=
  rollups.map (fun r => (r.date, r.counts)) ++
    (raw.filter fun day => day.counts.total > 0).map fun day => (day.date, day.counts)

/-- What was entered last for a day. -/
def lastCounts? (entries : List (Date × StatusCounts)) (date : Date) : Option StatusCounts :=
  match entries with
  | [] => none
  | entry :: rest => (lastCounts? rest date).or (if entry.1 = date then some entry.2 else none)

theorem lastCounts?_append (first second : List (Date × StatusCounts)) (date : Date) :
    lastCounts? (first ++ second) date =
      (lastCounts? second date).or (lastCounts? first date) := by
  induction first with
  | nil => simp [lastCounts?]
  | cons entry rest ih => rw [List.cons_append, lastCounts?, lastCounts?, ih, Option.or_assoc]

theorem lastCounts?_concat (entries : List (Date × StatusCounts)) (date date' : Date)
    (c : StatusCounts) :
    lastCounts? (entries ++ [(date, c)]) date' =
      if date = date' then some c else lastCounts? entries date' := by
  rw [lastCounts?_append, lastCounts?, lastCounts?, Option.none_or]
  split <;> simp

theorem mem_of_lastCounts? {entries : List (Date × StatusCounts)} {date : Date}
    {c : StatusCounts} (h : lastCounts? entries date = some c) : (date, c) ∈ entries := by
  induction entries with
  | nil => exact nomatch h
  | cons entry rest ih =>
    rw [lastCounts?, Option.or_eq_some_iff] at h
    rcases h with hrest | ⟨-, hentry⟩
    · exact List.mem_cons_of_mem _ (ih hrest)
    · obtain ⟨rfl, hcounts⟩ := Option.ite_none_right_eq_some.mp hentry
      rw [← Option.some.inj hcounts]
      exact List.mem_cons_self

theorem lastCounts?_isSome {entries : List (Date × StatusCounts)} {date : Date}
    {c : StatusCounts} (h : (date, c) ∈ entries) : (lastCounts? entries date).isSome := by
  induction entries with
  | nil => exact nomatch h
  | cons entry rest ih =>
    rw [lastCounts?, Option.isSome_or, Bool.or_eq_true]
    rcases List.mem_cons.mp h with rfl | hrest
    · exact .inr (by simp)
    · exact .inl (ih hrest)

/-- Where all entries of a day are the same, they are what was entered last. -/
theorem lastCounts?_eq_some_iff {entries : List (Date × StatusCounts)}
    (h : ∀ e ∈ entries, ∀ e' ∈ entries, e.1 = e'.1 → e.2 = e'.2) {date : Date}
    {c : StatusCounts} : lastCounts? entries date = some c ↔ (date, c) ∈ entries := by
  constructor
  · exact mem_of_lastCounts?
  · intro hmem
    obtain ⟨c', hc'⟩ := Option.isSome_iff_exists.mp (lastCounts?_isSome hmem)
    have hsame : c' = c := h _ (mem_of_lastCounts? hc') _ hmem rfl
    rw [hc', hsame]

/-- Only the entries that there are matter, not their order, where those of one day are all the
same. -/
theorem lastCounts?_congr {entries entries' : List (Date × StatusCounts)}
    (hmem : ∀ e, e ∈ entries ↔ e ∈ entries')
    (hsame : ∀ e ∈ entries, ∀ e' ∈ entries, e.1 = e'.1 → e.2 = e'.2) (date : Date) :
    lastCounts? entries date = lastCounts? entries' date := by
  have hsame' : ∀ e ∈ entries', ∀ e' ∈ entries', e.1 = e'.1 → e.2 = e'.2 := by
    intro e he e' he'
    exact hsame e ((hmem e).mpr he) e' ((hmem e').mpr he')
  refine Option.ext fun c => ?_
  rw [lastCounts?_eq_some_iff hsame, lastCounts?_eq_some_iff hsame', hmem]

/-! ## The last ninety days -/

@[simp] theorem DayBucket.date_ofCounts (date : Date) (c : StatusCounts) :
    (ofCounts date c).date = date := by
  unfold ofCounts
  split <;> rfl

/-- The history has the ninety days up to its last one. -/
theorem mem_historyDates {today day : Date} :
    day ∈ historyDates today ↔ today.addDays (-90) < day ∧ day ≤ today := by
  unfold historyDates
  simp only [List.mem_map, List.mem_range, Date.le_def, Date.lt_def, Date.count_addDays,
    historyDays, Int.ofNat_eq_natCast]
  constructor
  · rintro ⟨i, hi, rfl⟩
    rw [Date.count_addDays]
    omega
  · rintro ⟨hfirst, hlast⟩
    refine ⟨(day.count - today.count + 89).toNat, by omega, Date.ext ?_⟩
    rw [Date.count_addDays]
    omega

/-- An entry changes the day it is for. -/
theorem placeCounts_map (dates : List Date) (counts : Date → StatusCounts) (date : Date)
    (c : StatusCounts) :
    placeCounts (dates.map fun d => .ofCounts d (counts d)) date c =
      dates.map fun d => .ofCounts d (if date = d then c else counts d) := by
  unfold placeCounts
  rw [List.map_map]
  refine List.map_congr_left fun d _ => ?_
  by_cases hd : d = date
  · simp [hd]
  · simp [hd, Ne.symm hd]

theorem foldl_placeCounts (dates : List Date) (entries : List (Date × StatusCounts))
    (counts : Date → StatusCounts) :
    entries.foldl (fun days e => placeCounts days e.1 e.2)
        (dates.map fun d => .ofCounts d (counts d)) =
      dates.map fun d => .ofCounts d ((lastCounts? entries d).getD (counts d)) := by
  induction entries generalizing counts with
  | nil => rfl
  | cons entry rest ih =>
    rw [List.foldl_cons, placeCounts_map, ih]
    refine List.map_congr_left fun d _ => ?_
    rw [lastCounts?]
    cases lastCounts? rest d with
    | some c => rfl
    | none => by_cases hd : entry.1 = d <;> simp [hd]

/-- Every day shows what was entered last for it. -/
theorem dailyHistory_eq (today : Date) (rollups : List DailyRollup) (raw : List DailyCounts) :
    dailyHistory today rollups raw =
      (historyDates today).map fun d =>
        .ofCounts d ((lastCounts? (historyEntries rollups raw) d).getD {}) := by
  have hempty : (historyDates today).map DayBucket.empty =
      (historyDates today).map fun d => DayBucket.ofCounts d {} := rfl
  -- The history starts from ninety empty days and places one entry after the other.
  rw [← foldl_placeCounts (historyDates today) (historyEntries rollups raw) fun _ => {},
    historyEntries, List.foldl_append, List.foldl_map, List.foldl_map, List.foldl_filter,
    ← hempty]
  simp only [decide_eq_true_eq]
  rfl

/-- What was entered last for the days of the history decides it. -/
theorem dailyHistory_congr {today : Date} {rollups rollups' : List DailyRollup}
    {raw raw' : List DailyCounts}
    (h : ∀ d ∈ historyDates today, lastCounts? (historyEntries rollups raw) d =
      lastCounts? (historyEntries rollups' raw') d) :
    dailyHistory today rollups raw = dailyHistory today rollups' raw' := by
  rw [dailyHistory_eq, dailyHistory_eq]
  refine List.map_congr_left fun d hd => ?_
  rw [h d hd]

/-! ## All days together -/

/-- Entering counts into a table puts them in, in the place of those of the same day. -/
theorem setCounts_eq_put (table : List (Date × StatusCounts)) (date : Date) (c : StatusCounts) :
    setCounts table date c = Keyed.put Prod.fst (date, c) table := by
  induction table with
  | nil => rfl
  | cons entry rest ih => rw [setCounts, Keyed.put, ih]

theorem countsByDay_eq (rollups : List DailyRollup) (raw : List DailyCounts) :
    countsByDay rollups raw =
      (historyEntries rollups raw).foldl (fun table e => setCounts table e.1 e.2) [] := by
  rw [historyEntries, List.foldl_append, List.foldl_map, List.foldl_map, List.foldl_filter]
  simp only [decide_eq_true_eq]
  rfl

/-- The days that something was entered for. -/
def enteredDays (rollups : List DailyRollup) (raw : List DailyCounts) : List Date :=
  (countsByDay rollups raw).map (·.1)

/-- A table of entries has each day once, with what was entered last. -/
theorem foldl_setCounts (entries : List (Date × StatusCounts)) :
    let table := entries.foldl (fun table e => setCounts table e.1 e.2) []
    (table.map (·.1)).Nodup ∧ ∀ date, Keyed.find? Prod.fst date table =
      (lastCounts? entries date).map fun c => (date, c) := by
  induction entries using List.reverseRecOn with
  | nil => exact ⟨List.nodup_nil, fun _ => rfl⟩
  | append_singleton entries entry ih =>
    obtain ⟨hnodup, hfind⟩ := ih
    simp only [List.foldl_append, List.foldl_cons, List.foldl_nil, setCounts_eq_put]
    simp only [setCounts_eq_put] at hnodup hfind
    refine ⟨Keyed.nodup_put hnodup, fun date => ?_⟩
    rw [Keyed.find?_put, hfind, lastCounts?_concat]
    by_cases hdate : entry.1 = date <;> simp [hdate]

section

variable (rollups : List DailyRollup) (raw : List DailyCounts)

/-- Every day counts once. -/
theorem nodup_enteredDays : (enteredDays rollups raw).Nodup := by
  unfold enteredDays
  rw [countsByDay_eq]
  exact (foldl_setCounts (historyEntries rollups raw)).1

/-- The table has a day with what was entered last for it. -/
theorem mem_countsByDay {date : Date} {c : StatusCounts} :
    (date, c) ∈ countsByDay rollups raw ↔
      lastCounts? (historyEntries rollups raw) date = some c := by
  obtain ⟨hnodup, hfind⟩ := foldl_setCounts (historyEntries rollups raw)
  rw [← countsByDay_eq] at hnodup hfind
  have hmem : Keyed.find? Prod.fst date (countsByDay rollups raw) = some (date, c) ↔
      (date, c) ∈ countsByDay rollups raw :=
    (Keyed.find?_eq_some_iff hnodup).trans (and_iff_left rfl)
  rw [← hmem, hfind, Option.map_eq_some_iff]
  constructor
  · rintro ⟨c', hc', heq⟩
    rw [hc', (Prod.mk.inj heq).2]
  · exact fun hc => ⟨c, hc, rfl⟩

/-- A day counts if something was entered for it. -/
theorem mem_enteredDays {date : Date} :
    date ∈ enteredDays rollups raw ↔
      (lastCounts? (historyEntries rollups raw) date).isSome = true := by
  unfold enteredDays
  rw [List.mem_map, Option.isSome_iff_exists]
  constructor
  · rintro ⟨⟨date, c⟩, hmem, rfl⟩
    exact ⟨c, (mem_countsByDay rollups raw).mp hmem⟩
  · rintro ⟨c, hc⟩
    exact ⟨(date, c), (mem_countsByDay rollups raw).mpr hc, rfl⟩

/-- Each day that something was entered for counts once, with what was entered last. -/
theorem historyCounts_eq :
    historyCounts rollups raw =
      StatusCounts.sum ((enteredDays rollups raw).map fun d =>
        (lastCounts? (historyEntries rollups raw) d).getD {}) := by
  unfold historyCounts enteredDays
  rw [List.map_map]
  congr 1
  refine List.map_congr_left fun entry hentry => ?_
  rw [Function.comp_apply, (mem_countsByDay rollups raw).mp hentry, Option.getD_some]

end

/-- What was entered last for the days decides on the counts of all days together. -/
theorem historyCounts_congr {rollups rollups' : List DailyRollup} {raw raw' : List DailyCounts}
    (h : ∀ d, lastCounts? (historyEntries rollups raw) d =
      lastCounts? (historyEntries rollups' raw') d) :
    historyCounts rollups raw = historyCounts rollups' raw' := by
  rw [historyCounts_eq, historyCounts_eq]
  simp only [h]
  -- the days are the same, though they may have been entered in another order
  refine StatusCounts.sum_perm (List.Perm.map _ ?_)
  rw [List.perm_ext_iff_of_nodup (nodup_enteredDays _ _) (nodup_enteredDays _ _)]
  intro d
  rw [mem_enteredDays, mem_enteredDays, h]

end UptimeMonitor
