import UptimeMonitor.Proofs.Json.Refilling
import UptimeMonitor.Store.Codec

/-!
# Statuses to be told about

The statuses of a subscription are written as a list of names, or as one text with commas between
the names. Both are read alike, whatever else is written for the subscription.

- `Status.ofText?_eq_get?`: a name is looked up without the blanks around it.
- `Status.listOfText_intercalate`: names with commas between them are looked up one by one.
- `Subscription.decode_refill`: the statuses of a subscription depend on one field alone, and all
  else does not depend on it.
- `Subscription.rereads_written`: a written subscription is read again.
- `Subscription.notifyOn_spellings`: both spellings are read alike, and what is written is read
  again.
-/

namespace UptimeMonitor

/-! ## Lists of statuses -/

namespace Status

theorem ofText?_eq_get? (s : String) : ofText? s = Members.get? named (Text.trim s) := by
  show ofChars? s.toList = _
  unfold ofChars? Text.trim
  generalize String.ofList (Text.trimChars s.toList) = name
  split
  · rfl
  · rfl
  · rfl
  · rename_i hup hdown hdegraded
    simp [named, Members.get?_cons, Ne.symm hup, Ne.symm hdown, Ne.symm hdegraded]

theorem ofText?_name (status : Status) : ofText? status.name = some status := by
  cases status <;> decide

/-- A text without commas is one name. -/
theorem listOfText_of_notMem {s : String} (h : ',' ∉ s.toList) :
    listOfText s = [s].filterMap ofText? := by
  unfold listOfText
  rw [Text.splitOn_of_notMem h]
  rfl

/-- A comma ends one list of statuses and begins the next. -/
theorem listOfText_append_comma (s t : String) :
    listOfText (s ++ "," ++ t) = listOfText s ++ listOfText t := by
  unfold listOfText
  have hlist : (s ++ "," ++ t).toList = s.toList ++ ',' :: t.toList := by simp
  rw [hlist, Text.splitOn_append_cons, List.filterMap_append]

/-- Names with commas between them are looked up one by one. -/
theorem listOfText_intercalate {items : List String} (h : ∀ item ∈ items, ',' ∉ item.toList) :
    listOfText (",".intercalate items) = items.filterMap ofText? := by
  induction items with
  | nil => decide
  | cons item rest ih =>
    obtain ⟨hitem, hrest⟩ := List.forall_mem_cons.mp h
    cases rest with
    | nil => rw [String.intercalate_singleton, listOfText_of_notMem hitem]
    | cons next rest =>
      rw [String.intercalate_cons_cons, listOfText_append_comma, listOfText_of_notMem hitem,
        ih hrest, ← List.filterMap_append, List.singleton_append]

/-! ### Reading -/

/-- The statuses of some names, blanks around them aside. Unknown names are dropped. -/
def ofNames (items : List String) : List Status :=
  items.filterMap fun item => Members.get? named (Text.trim item)

theorem ofNames_eq (items : List String) : ofNames items = items.filterMap ofText? :=
  List.filterMap_congr fun item _ => (ofText?_eq_get? item).symm

/-- The names of statuses are those of these statuses. -/
theorem ofNames_map_name (statuses : List Status) : ofNames (statuses.map name) = statuses := by
  rw [ofNames_eq, List.filterMap_map]
  refine (List.filterMap_congr fun status _ => ofText?_name status).trans ?_
  exact List.filterMap_some

theorem rereads_listed (items : List String) :
    Rereads decodeList 2 (.array (items.map .string)) (ofNames items) where
  plain := Json.itemsPlain_iff.mpr (List.forall_mem_map.mpr fun _ _ => trivial)
  nesting := by
    refine Nat.succ_lt_succ (Nat.lt_succ_of_le (Json.itemsNesting_le_iff.mpr ?_))
    exact List.forall_mem_map.mpr fun _ _ => Nat.le_refl 0
  decode := by
    have hnames : Decode.list Decode.text (Json.array (items.map .string)).toDraft = .ok items := by
      rw [Json.toDraft, Json.toDrafts_eq_map, Decode.list]
      refine Decode.mapM_eq_ok_of_forall₂ ?_
      rw [List.forall₂_map_left_iff, List.forall₂_map_left_iff, List.forall₂_same]
      exact fun _ _ => rfl
    show ((Decode.list Decode.text (Json.array (items.map .string)).toDraft).map _).mapError _ = _
    rw [hnames, ofNames_eq]
    rfl

theorem rereads_joined {items : List String} (h : ∀ item ∈ items, ',' ∉ item.toList) :
    Rereads decodeList 2 (.string (",".intercalate items)) (ofNames items) where
  plain := trivial
  nesting := Nat.zero_lt_succ 1
  decode := by rw [ofNames_eq, ← listOfText_intercalate h]; rfl

end Status

/-! ## Subscriptions -/

namespace Subscription

/-- A subscription is read where its fields are. -/
theorem decode_of_fields {d : Draft} {sub : Subscription} {r : Record}
    (hread : Record.read layout d = .ok r)
    (hmonitor : r.field "monitorId" Decode.text = .ok sub.monitorId)
    (hchannel : r.field "channelId" Decode.text = .ok sub.channelId)
    (hnotify : r.field "notifyOn" Status.decodeList = .ok sub.notifyOn)
    (hthreshold : r.fieldD "downtimeThresholdS" Decode.word64 0 = .ok sub.downtimeThresholdS) :
    decode d = .ok sub := by
  simp only [decode, hread, hmonitor, hchannel, hnotify, hthreshold, bind, Except.bind]
  rfl

/-- What is read for a subscription has the statuses that are given, and depends on them in nothing
else. -/
theorem decode_refill {x y : Draft} {xs ys : List Status} (hx : Status.decodeList x = .ok xs)
    (hy : Status.decodeList y = .ok ys) (d : Draft) :
    decode (layout.refill "notifyOn" y d) =
      (decode (layout.refill "notifyOn" x d)).map fun sub => { sub with notifyOn := ys } := by
  have hfits : ∀ f ∈ layout.fields, f.name = "notifyOn" → f.fits x = f.fits y := by
    simp only [layout, List.forall_mem_cons]
    refine ⟨?_, ?_, fun _ => ?_, ?_, List.forall_mem_nil _⟩
    · exact fun hname => absurd hname (by decide)
    · exact fun hname => absurd hname (by decide)
    · show (Status.decodeList x).map (fun _ => ()) = (Status.decodeList y).map fun _ => ()
      rw [hx, hy]
      rfl
    · exact fun hname => absurd hname (by decide)
  unfold decode
  rw [Record.read_refill hfits]
  cases hread : Record.read layout (layout.refill "notifyOn" x d) with
  | error e => rfl
  | ok r =>
    -- the record has one of the two values, if any, and the other fields do not see which
    have hslot : Members.get? r.slots "notifyOn" = (layout.find? d "notifyOn").map fun _ => x :=
      (Record.get?_slots hread (by decide)).trans (layout.find?_refill "notifyOn" x d)
    have hnotify : (r.refill "notifyOn" y).field "notifyOn" Status.decodeList =
        (r.field "notifyOn" Status.decodeList).map fun _ => ys := by
      unfold Record.field Record.refill
      rw [Members.get?_refill, if_pos rfl, hslot]
      cases layout.find? d "notifyOn" with
      | none => rfl
      | some field =>
        show Status.decodeList y = (Status.decodeList x).map fun _ => ys
        rw [hx, hy]
        rfl
    simp only [Except.map, bind, Except.bind, hnotify,
      Record.field_refill_of_ne (show "monitorId" ≠ "notifyOn" by decide),
      Record.field_refill_of_ne (show "channelId" ≠ "notifyOn" by decide),
      Record.fieldD_refill_of_ne (show "downtimeThresholdS" ≠ "notifyOn" by decide)]
    cases r.field "monitorId" Decode.text with
    | error e => rfl
    | ok monitorId =>
      cases r.field "channelId" Decode.text with
      | error e => rfl
      | ok channelId =>
        cases r.field "notifyOn" Status.decodeList with
        | error e => rfl
        | ok notifyOn => cases r.fieldD "downtimeThresholdS" Decode.word64 0 <;> rfl

/-- What is written for the fields of a subscription, with its statuses in some spelling. -/
def fields (sub : Subscription) (spelling : Json) : List (String × Option Json) :=
  [("monitorId", some (.string sub.monitorId)), ("channelId", some (.string sub.channelId)),
    ("notifyOn", some spelling), ("downtimeThresholdS", some (.ofNat sub.downtimeThresholdS))]

/-- A subscription as an object with its statuses in some spelling. -/
def written (sub : Subscription) (spelling : Json) : Json :=
  .object [("monitorId", .string sub.monitorId), ("channelId", .string sub.channelId),
    ("notifyOn", spelling), ("downtimeThresholdS", .ofNat sub.downtimeThresholdS)]

theorem written_eq_given (sub : Subscription) (spelling : Json) :
    sub.written spelling = .object (Members.given (sub.fields spelling)) := rfl

theorem toJson_eq_written (sub : Subscription) :
    sub.toJson = sub.written (.array ((sub.notifyOn.map Status.name).map .string)) := by
  rw [List.map_map]
  rfl

/-- A written subscription is read with the statuses that its spelling stands for. -/
theorem rereads_written {sub : Subscription}
    (hthreshold : sub.downtimeThresholdS < 0x10000000000000000) {spelling : Json}
    {statuses : List Status} (h : Rereads Status.decodeList 2 spelling statuses) :
    Rereads decode 3 (sub.written spelling) { sub with notifyOn := statuses } := by
  have hmonitor := Rereads.text 1 sub.monitorId
  have hchannel := Rereads.text 1 sub.channelId
  have hword := Rereads.word64 1 hthreshold
  have htakes : List.Forall₂ (Field.Takes 2) layout.fields (sub.fields spelling) :=
    .cons hmonitor.takes (.cons hchannel.takes (.cons h.takes (.cons hword.takes .nil)))
  rw [written_eq_given]
  refine Record.rereads_given (by decide) Nat.two_pos htakes fun d r hread hslots => ?_
  simp only [fields, List.forall_mem_cons] at hslots
  obtain ⟨hslotMonitor, hslotChannel, hslotNotify, hslotThreshold, -⟩ := hslots
  exact decode_of_fields hread (Record.field_of_rereads hslotMonitor hmonitor)
    (Record.field_of_rereads hslotChannel hchannel) (Record.field_of_rereads hslotNotify h)
    (Record.fieldD_of_rereads hslotThreshold nofun fun j hj => Option.some.inj hj ▸ hword)

/-- What is read again is read from its text. -/
theorem exists_decode_of_rereads {j : Json} {sub : Subscription} (h : Rereads decode 3 j sub) :
    ∃ d, Draft.parse j.text = .ok d ∧ decode d = .ok sub := by
  have hdepth : j.nesting ≤ maxDepth := Nat.le_trans (Nat.le_of_lt h.nesting) (by decide)
  exact ⟨j.toDraft, Draft.parse_text h.plain hdepth, h.decode⟩

/-- Statuses are read alike from a list of names and from one text with commas between the names, if
these have no commas of their own, whatever else the record has and in whatever form it is written.
They are those of the names, in order; unknown names and blanks around names do not count. A
subscription that is written with either spelling is read again with these statuses, and one that is
written as it is stored is read again as itself. -/
theorem notifyOn_spellings {items : List String} (hcommas : ∀ item ∈ items, ',' ∉ item.toList) :
    let listed : Json := .array (items.map .string)
    let joined : Json := .string (",".intercalate items)
    (∀ d, decode (layout.refill "notifyOn" joined.toDraft d) =
      decode (layout.refill "notifyOn" listed.toDraft d)) ∧
    (∀ d sub, decode (layout.refill "notifyOn" listed.toDraft d) = .ok sub →
      sub.notifyOn = Status.ofNames items) ∧
    ∀ sub : Subscription, sub.downtimeThresholdS < 0x10000000000000000 →
      (∀ spelling ∈ [listed, joined], ∃ d, Draft.parse (sub.written spelling).text = .ok d ∧
        decode d = .ok { sub with notifyOn := Status.ofNames items }) ∧
      ∃ d, Draft.parse sub.toJson.text = .ok d ∧ decode d = .ok sub := by
  intro listed joined
  have hlisted : Rereads Status.decodeList 2 listed (Status.ofNames items) :=
    Status.rereads_listed items
  have hjoined : Rereads Status.decodeList 2 joined (Status.ofNames items) :=
    Status.rereads_joined hcommas
  -- the statuses that are read are those of the names already
  have hnames := decode_refill hlisted.decode hlisted.decode
  refine ⟨fun d => ?_, fun d sub hok => ?_, fun sub hthreshold => ⟨?_, ?_⟩⟩
  · exact (decode_refill hlisted.decode hjoined.decode d).trans (hnames d).symm
  · have hsame := hnames d
    rw [hok] at hsame
    exact congrArg notifyOn (Except.ok.inj hsame)
  · simp only [List.forall_mem_cons]
    exact ⟨exists_decode_of_rereads (rereads_written hthreshold hlisted),
      exists_decode_of_rereads (rereads_written hthreshold hjoined), List.forall_mem_nil _⟩
  · have hagain := Status.rereads_listed (sub.notifyOn.map Status.name)
    rw [Status.ofNames_map_name] at hagain
    rw [toJson_eq_written]
    exact exists_decode_of_rereads (rereads_written hthreshold hagain)

/-- Blanks, an empty name, an unknown one and a repeated one. -/
def untidyNames : List String := [" down ", "", "bogus", "up", "\tup"]

theorem notifyOn_spellings_untidyNames :
    (∀ item ∈ untidyNames, ',' ∉ item.toList) ∧
      let sub : Subscription := ⟨"m", "c", [.degraded], 120⟩
      (∃ d, Draft.parse (sub.written (.string " down ,,bogus,up,\tup")).text = .ok d ∧
        decode d = .ok ⟨"m", "c", [.down, .up, .up], 120⟩) ∧
      ∃ d, Draft.parse sub.toJson.text = .ok d ∧ decode d = .ok sub := by
  have hcommas : ∀ item ∈ untidyNames, ',' ∉ item.toList := by decide
  have hnames : Status.ofNames untidyNames = [.down, .up, .up] := by decide
  have hjoined : ",".intercalate untidyNames = " down ,,bogus,up,\tup" := by decide
  refine ⟨hcommas, ?_⟩
  intro sub
  obtain ⟨hspelled, hagain⟩ := (notifyOn_spellings hcommas).2.2 sub (by decide)
  rw [hjoined, hnames] at hspelled
  exact ⟨hspelled _ (List.mem_cons_of_mem _ List.mem_cons_self), hagain⟩

end Subscription

end UptimeMonitor
