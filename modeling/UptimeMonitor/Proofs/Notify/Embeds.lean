import Mathlib.Logic.Basic
import UptimeMonitor.Notify.Chat

/-!
# The size of embeds

A message with a field of more than `Discord.fieldLimit` characters is refused, and the notice is
lost with it. The text of an error is cut to fit; the address of a monitor goes out as it is, and is
the one thing that can make a message too large.

- `Date.length_chars_le`, `Instant.length_displayText_le`: how long a written time gets.
- `Discord.truncated_prefix`, `Discord.length_truncated`: what a text is cut to.
- `Notice.InRange`: the numbers and the time that a notice can hold.
- `Discord.fieldTexts`: the fields of a message, read from its document.
- `Discord.mem_fields`: the six fields that a message can have.
- `Discord.message_fits_iff`: a message fits exactly if the address does.
-/

namespace UptimeMonitor

/-! ## Written times -/

namespace Date

/-- A number of at most six digits is written with as many as it is padded to, or with six. -/
theorem length_padded_le {n : Nat} (width : Nat) (hwidth : width ≤ 6) (hn : n < 1000000) :
    (padded width n).length ≤ 6 := by
  have hdigits : (Nat.toDigits 10 n).length ≤ 6 :=
    (Nat.length_toDigits_le_iff (by decide) (by decide)).mpr hn
  unfold padded
  rw [List.length_append, List.length_replicate]
  omega

/-- A sign is added to the digits of a year at most. -/
theorem length_yearChars_le {y : Int} (hfirst : firstYear ≤ y) (hlast : y ≤ lastYear) :
    (yearChars y).length ≤ 7 := by
  unfold firstYear at hfirst
  unfold lastYear at hlast
  unfold yearChars
  split
  · exact Nat.le_succ_of_le (length_padded_le _ (by decide) (by omega))
  · exact Nat.succ_le_succ (length_padded_le _ (by decide) (by omega))

/-- Month and day of the month come from the day of an era, and an era has 146097 days. -/
theorem civil_lt (d : Date) : d.civil.month < 1000000 ∧ d.civil.day < 1000000 := by
  -- All that follows is made of this day by divisions, which never make it greater.
  have hday : (d.count + 719468 - 146097 * (d.count + 719468).fdiv 146097).toNat < 146097 := by
    rw [Int.fdiv_eq_ediv_of_nonneg _ (by decide)]
    omega
  unfold civil
  dsimp only
  generalize (d.count + 719468 - 146097 * (d.count + 719468).fdiv 146097).toNat = day at hday
  constructor
  · split <;> omega
  · omega

theorem length_chars_le {d : Date} (hfirst : firstYear ≤ d.civil.year)
    (hlast : d.civil.year ≤ lastYear) : d.chars.length ≤ 21 := by
  have hyear := length_yearChars_le hfirst hlast
  have hmonth := length_padded_le 2 (by decide) d.civil_lt.1
  have hday := length_padded_le 2 (by decide) d.civil_lt.2
  unfold chars
  simp only [List.length_append, List.length_cons]
  omega

end Date

namespace Instant

theorem length_clockChars_le (t : Instant) : t.clockChars.length ≤ 20 := by
  have hday : t.secondOfDay < 86400 := by
    unfold secondOfDay secondsPerDay
    rw [Int.fmod_eq_emod_of_nonneg _ (by decide)]
    omega
  have hhour : (Date.padded 2 (t.secondOfDay / 3600)).length ≤ 6 :=
    Date.length_padded_le 2 (by decide) (by omega)
  have hminute : (Date.padded 2 (t.secondOfDay / 60 % 60)).length ≤ 6 :=
    Date.length_padded_le 2 (by decide) (by omega)
  have hsecond : (Date.padded 2 (t.secondOfDay % 60 + if t.isLeap then 1 else 0)).length ≤ 6 :=
    Date.length_padded_le 2 (by decide) (by split <;> omega)
  unfold clockChars
  simp only [List.length_append, List.length_cons]
  omega

/-- The time for people is short, for all years that dates have. -/
theorem length_displayText_le {t : Instant} (hfirst : Date.firstYear ≤ t.date.civil.year)
    (hlast : t.date.civil.year ≤ Date.lastYear) : t.displayText.length ≤ 46 := by
  have hdate := Date.length_chars_le hfirst hlast
  have hclock := t.length_clockChars_le
  have hzone : " UTC".toList.length = 4 := by decide
  unfold displayText
  rw [String.length_ofList, List.length_append, List.length_cons, List.length_append, hzone]
  omega

end Instant

/-! ## Written numbers -/

/-- A word of 64 bits has at most twenty digits. -/
theorem length_toString_le {n : Nat} (hn : n < 0x10000000000000000) :
    (toString n).length ≤ 20 := by
  have hdigits : (Nat.toDigits 10 n).length ≤ 20 :=
    (Nat.length_toDigits_le_iff (by decide) (by decide)).mpr
      (Nat.lt_trans hn (by decide))
  show (String.ofList (Nat.toDigits 10 n)).length ≤ 20
  rwa [String.length_ofList]

/-- A time span has two numbers at most, neither greater than the seconds in it. -/
theorem length_durationText_le {seconds : Int} (h : seconds < 0x8000000000000000) :
    (durationText seconds).length ≤ 43 := by
  have hword : seconds.toNat < 0x10000000000000000 := by omega
  unfold durationText
  generalize seconds.toNat = s at hword
  -- Minutes and hours are parts of the seconds, and have no more digits than these may have.
  have hpart {n : Nat} (hn : n ≤ s) : (toString n).length ≤ 20 :=
    length_toString_le (Nat.lt_of_le_of_lt hn hword)
  dsimp only
  split
  · have hseconds := hpart (Nat.le_refl s)
    rw [String.length_append]
    show (toString s).length + 1 ≤ 43
    omega
  · split
    · have hminutes := hpart (Nat.div_le_self s 60)
      have hseconds := hpart (Nat.mod_le s 60)
      simp only [String.length_append]
      show (toString (s / 60)).length + 2 + (toString (s % 60)).length + 1 ≤ 43
      omega
    · have hhours := hpart (Nat.div_le_self s 3600)
      have hminutes := hpart (n := s % 3600 / 60)
        (Nat.le_trans (Nat.div_le_self _ 60) (Nat.mod_le s 3600))
      simp only [String.length_append]
      show (toString (s / 3600)).length + 2 + (toString (s % 3600 / 60)).length + 1 ≤ 43
      omega

/-- What a notice can hold: numbers of 64 bits, and a time in a year that dates have. -/
structure Notice.InRange (n : Notice) : Prop where
  responseTime : ∀ ms ∈ n.responseTimeMs, ms < 0x10000000000000000
  duration : ∀ seconds ∈ n.incidentDuration,
    -0x8000000000000000 ≤ seconds ∧ seconds < 0x8000000000000000
  year : Date.firstYear ≤ n.timestamp.date.civil.year ∧
    n.timestamp.date.civil.year ≤ Date.lastYear

instance (n : Notice) : Decidable n.InRange :=
  decidable_of_iff
    ((∀ ms ∈ n.responseTimeMs, ms < 0x10000000000000000) ∧
      (∀ seconds ∈ n.incidentDuration,
        -0x8000000000000000 ≤ seconds ∧ seconds < 0x8000000000000000) ∧
      Date.firstYear ≤ n.timestamp.date.civil.year ∧
      n.timestamp.date.civil.year ≤ Date.lastYear)
    ⟨fun ⟨h, h', h''⟩ => ⟨h, h', h''⟩, fun ⟨h, h', h''⟩ => ⟨h, h', h''⟩⟩

namespace Discord

/-! ## Texts that are cut -/

theorem toList_truncated (s : String) (limit : Nat) :
    (truncated s limit).toList = s.toList.take limit := by
  rw [truncated, String.toList_ofList]

/-- A text is cut at its end. -/
theorem truncated_prefix (s : String) (limit : Nat) : (truncated s limit).toList <+: s.toList := by
  rw [toList_truncated]
  exact List.take_prefix limit s.toList

/-- A text is cut to just as many characters as may stay. -/
theorem length_truncated (s : String) (limit : Nat) :
    (truncated s limit).length = min s.length limit := by
  rw [← String.length_toList, ← String.length_toList, toList_truncated, List.length_take,
    Nat.min_comm]

/-- A text within the limit stays as it is. -/
theorem truncated_eq_self {s : String} {limit : Nat} (h : s.length ≤ limit) :
    truncated s limit = s := by
  rw [truncated, List.take_of_length_le (by rwa [String.length_toList]), String.ofList_toList]

/-! ## The fields of a message -/

/-- The items of the array under a key. -/
def itemsAt (j : Json) (key : String) : List Json := ((j.get? key).bind Json.asArray?).getD []

/-- Name and value of the document of a field. -/
def fieldText? (field : Json) : Option (String × String) := do
  let name ← (field.get? "name").bind Json.asString?
  let value ← (field.get? "value").bind Json.asString?
  return (name, value)

/-- Name and value of every field in the embeds of a message. -/
def fieldTexts (message : Json) : List (String × String) :=
  (itemsAt message "embeds").flatMap fun embed => (itemsAt embed "fields").filterMap fieldText?

/-- A message has the fields of its notice. -/
theorem fieldTexts_message (n : Notice) :
    fieldTexts (message n) = (fields n).map fun f => (f.name, f.value) := by
  have hfields : ∀ fs : List Field, (fs.map Field.toJson).filterMap fieldText? =
      fs.map fun f => (f.name, f.value) := by
    intro fs
    induction fs with
    | nil => rfl
    | cons f rest ih =>
      rw [List.map_cons, List.map_cons, List.filterMap_cons, ih]
      rfl
  show List.flatMap _ [(embed n).toJson] = _
  rw [List.flatMap_singleton]
  exact hfields (fields n)

theorem mem_optionalField {name : String} {value : Option String} {inline : Bool} {f : Field} :
    f ∈ optionalField name value inline ↔ ∃ v, value = some v ∧ f = ⟨name, v, inline⟩ := by
  unfold optionalField
  rw [Option.mem_toList, Option.map_eq_some_iff]
  simp only [eq_comm]

/-- The fields that a notice can have. -/
theorem mem_fields {n : Notice} {f : Field} :
    f ∈ fields n ↔
      f = ⟨"Status", n.statusCapitals, true⟩ ∨ f = ⟨"Time", n.timestamp.displayText, true⟩ ∨
      (∃ url, n.url = some url ∧ f = ⟨"URL", url, false⟩) ∨
      (∃ ms, n.responseTimeMs = some ms ∧ f = ⟨"Response Time", s!"{ms}ms", true⟩) ∨
      (∃ error, n.errorMessage = some error ∧
        f = ⟨"Error", truncated error fieldLimit, false⟩) ∨
      ∃ downtime, n.downtime? = some downtime ∧ f = ⟨"Downtime", downtime, true⟩ := by
  unfold fields
  simp only [List.mem_append, mem_optionalField, List.mem_cons, List.not_mem_nil, or_false,
    Option.map_eq_some_iff, exists_exists_and_eq_and, or_assoc]

/-! ## What fits -/

theorem length_statusCapitals_le (n : Notice) : n.statusCapitals.length ≤ fieldLimit := by
  unfold Notice.statusCapitals
  cases n.status <;> decide

theorem length_downtime?_le {n : Notice} (hn : n.InRange) {downtime : String}
    (h : n.downtime? = some downtime) : downtime.length ≤ 43 := by
  unfold Notice.downtime? at h
  split at h
  · obtain ⟨seconds, hseconds, rfl⟩ := Option.map_eq_some_iff.mp h
    exact length_durationText_le (hn.duration seconds hseconds).2
  · exact nomatch h

/-- Only the address can be too long. -/
theorem length_value_le {n : Notice} (hn : n.InRange) {f : Field} (hf : f ∈ fields n)
    (hname : f.name ≠ "URL") : f.value.length ≤ fieldLimit := by
  rcases mem_fields.mp hf with rfl | rfl | ⟨url, -, rfl⟩ | ⟨ms, hms, rfl⟩ | ⟨error, -, rfl⟩ |
    ⟨downtime, hdowntime, rfl⟩
  · exact length_statusCapitals_le n
  · exact Nat.le_trans (Instant.length_displayText_le hn.year.1 hn.year.2) (by decide)
  · exact absurd rfl hname
  · have hdigits := length_toString_le (hn.responseTime ms hms)
    show (toString ms ++ "ms").length ≤ 1024
    rw [String.length_append]
    show (toString ms).length + 2 ≤ 1024
    omega
  · show (truncated error fieldLimit).length ≤ fieldLimit
    rw [length_truncated]
    exact Nat.min_le_right _ _
  · exact Nat.le_trans (length_downtime?_le hn hdowntime) (by decide)

/-! ## The address and the error -/

/-- The values of the fields with a name. -/
def valuesUnder (message : Json) (name : String) : List String :=
  ((fieldTexts message).filter fun f => f.1 = name).map Prod.snd

theorem mem_valuesUnder {message : Json} {name value : String} :
    value ∈ valuesUnder message name ↔ (name, value) ∈ fieldTexts message := by
  unfold valuesUnder
  rw [List.mem_map]
  constructor
  · rintro ⟨f, hf, rfl⟩
    obtain ⟨hmem, hname⟩ := List.mem_filter.mp hf
    rwa [← of_decide_eq_true hname]
  · intro hmem
    exact ⟨(name, value), List.mem_filter.mpr ⟨hmem, decide_eq_true rfl⟩, rfl⟩

/-- The address goes out as it is, and the error is cut to fit. -/
theorem valuesUnder_message (n : Notice) :
    valuesUnder (message n) "URL" = n.url.toList ∧
      valuesUnder (message n) "Error" =
        (n.errorMessage.map fun error => truncated error fieldLimit).toList := by
  rw [valuesUnder, valuesUnder, fieldTexts_message]
  unfold fields optionalField
  -- each of the other fields may be there or not
  cases n.url <;> cases n.responseTimeMs <;> cases n.errorMessage <;> cases n.downtime? <;>
    exact ⟨rfl, rfl⟩

theorem mem_fieldTexts_url {n : Notice} {value : String} :
    ("URL", value) ∈ fieldTexts (message n) ↔ n.url = some value := by
  rw [← mem_valuesUnder, (valuesUnder_message n).1, Option.mem_toList]

/-- What is too long is the address. -/
theorem url_of_fieldLimit_lt {n : Notice} (hn : n.InRange) {f : String × String}
    (hf : f ∈ fieldTexts (message n)) (hlong : fieldLimit < f.2.length) :
    f.1 = "URL" ∧ n.url = some f.2 := by
  obtain ⟨field, hfield, rfl⟩ := List.mem_map.mp (fieldTexts_message n ▸ hf)
  by_cases hname : field.name = "URL"
  · refine ⟨hname, mem_fieldTexts_url.mp ?_⟩
    rwa [← hname]
  · exact absurd hlong (Nat.not_lt.mpr (length_value_le hn hfield hname))

/-- The message of a notice has no field that is too long, unless it is the address: it is accepted
exactly if the address of the notice, if it has one, is within the limit. The error is in one field,
which holds as much of the beginning of its text as the limit allows, and all of a text within the
limit; without an error there is no such field. -/
theorem message_fits_iff {n : Notice} (hn : n.InRange) :
    ((∀ f ∈ fieldTexts (message n), f.2.length ≤ fieldLimit) ↔
      ∀ url ∈ n.url, url.length ≤ fieldLimit) ∧
    (∀ f ∈ fieldTexts (message n), fieldLimit < f.2.length → f.1 = "URL" ∧ n.url = some f.2) ∧
    (n.errorMessage = none → valuesUnder (message n) "Error" = []) ∧
    ∀ error, n.errorMessage = some error → ∃ value, valuesUnder (message n) "Error" = [value] ∧
      value.toList <+: error.toList ∧ value.length = min error.length fieldLimit ∧
      (error.length ≤ fieldLimit → value = error) := by
  refine ⟨⟨fun h url hurl => h _ (mem_fieldTexts_url.mpr hurl), fun h f hf => ?_⟩,
    fun f hf => url_of_fieldLimit_lt hn hf, ?_, ?_⟩
  · rcases Nat.lt_or_ge fieldLimit f.2.length with hlong | hfits
    · exact h f.2 (url_of_fieldLimit_lt hn hf hlong).2
    · exact hfits
  · intro hnone
    rw [(valuesUnder_message n).2, hnone]
    rfl
  · intro error herror
    refine ⟨truncated error fieldLimit, ?_, truncated_prefix error fieldLimit,
      length_truncated error fieldLimit, truncated_eq_self⟩
    rw [(valuesUnder_message n).2, herror]
    rfl

/-- A notice with an address that is too long for a field, and with an error that is, too. -/
def wordyNotice : Notice :=
  { Notice.sample ⟨0, 0⟩ with
    url := some (String.ofList ("https://example.com/".toList ++ List.replicate 1005 'a'))
    errorMessage := some (String.ofList (List.replicate 1500 'é')) }

/-- The address makes the message too large; the error is cut. -/
theorem message_fits_iff_wordyNotice :
    wordyNotice.InRange ∧
      (¬ ∀ f ∈ fieldTexts (message wordyNotice), f.2.length ≤ fieldLimit) ∧
      ∃ value, valuesUnder (message wordyNotice) "Error" = [value] ∧ value.length = 1024 := by
  have hrange : wordyNotice.InRange := by decide
  obtain ⟨hfits, -, -, herror⟩ := message_fits_iff hrange
  refine ⟨hrange, fun h => ?_, ?_⟩
  · -- The address has 1025 characters.
    have hlength := hfits.mp h _ rfl
    rw [String.length_ofList, List.length_append, List.length_replicate] at hlength
    exact absurd hlength (by decide)
  · obtain ⟨value, hvalue, -, hlength, -⟩ := herror _ rfl
    refine ⟨value, hvalue, ?_⟩
    rw [hlength, String.length_ofList, List.length_replicate]
    decide

/-- Not every message fits. -/
theorem not_forall_message_fits :
    ¬ ∀ n : Notice, n.InRange → ∀ f ∈ fieldTexts (message n), f.2.length ≤ fieldLimit := by
  intro h
  have hrange : wordyNotice.InRange := by decide
  have hurl : ("URL", String.ofList ("https://example.com/".toList ++ List.replicate 1005 'a')) ∈
      fieldTexts (message wordyNotice) := mem_fieldTexts_url.mpr rfl
  have hfits := h wordyNotice hrange _ hurl
  rw [String.length_ofList, List.length_append, List.length_replicate] at hfits
  exact absurd hfits (by decide)

end Discord

end UptimeMonitor
