import Mathlib.Data.String.Basic
import UptimeMonitor.Notify.Sealing
import UptimeMonitor.Proofs.Json.Records
import UptimeMonitor.Proofs.Json.RoundTrip

/-!
# What is sealed opens again

A configuration is written as a document, the document is turned into bytes, and the bytes are
sealed. Each of the three is undone by opening, for every configuration whose header fields stand in
the order in which a map of them is kept; every configuration that is read has them so.

- `ChannelConfig.Sorted`: the header fields of a configuration are a map.
- `ChannelConfig.decode_toJson`: a configuration is what is read from its document.
- `ChannelConfig.sorted_of_decode`: what is read is sorted.
- `SealKey.decrypt_eq_ok_iff`, `SealKey.decrypt_of_length_lt`: just what has been sealed opens.
- `SealKey.sealed_opens`: the two for whole configurations and for all bytes.
-/

namespace UptimeMonitor

namespace ChannelConfig

/-- Fields as a map has them: in the order of their names, each name once. -/
def SortedByName (fields : List (String × String)) : Prop :=
  fields.Pairwise fun f g => f.1 < g.1

/-- The header fields, if there are any, are those of a map. -/
def Sorted : ChannelConfig → Prop
  | webhook _ _ (some headers) _ => SortedByName headers
  | _ => True

instance (fields : List (String × String)) : Decidable (SortedByName fields) :=
  inferInstanceAs (Decidable (fields.Pairwise fun f g => f.1 < g.1))

instance (config : ChannelConfig) : Decidable config.Sorted :=
  match config with
  | webhook _ _ (some headers) _ => inferInstanceAs (Decidable (SortedByName headers))
  | webhook _ _ none _ => .isTrue trivial
  | slack _ => .isTrue trivial
  | discord _ => .isTrue trivial
  | webPush => .isTrue trivial

/-! ## Maps of texts -/

theorem SortedByName.nodup {fields : List (String × String)} (h : SortedByName fields) :
    (fields.map Prod.fst).Nodup := by
  rw [List.Nodup, List.pairwise_map]
  exact h.imp fun hlt => ne_of_lt hlt

/-- A field whose name comes after all others is put at the end. -/
theorem putSorted_of_forall_lt {fields : List (String × String)} {name : String}
    (h : ∀ f ∈ fields, f.1 < name) (value : String) :
    putSorted fields name value = fields ++ [(name, value)] := by
  induction fields with
  | nil => rfl
  | cons f rest ih =>
    obtain ⟨hlt, hrest⟩ := List.forall_mem_cons.mp h
    rw [putSorted, if_neg (ne_of_lt hlt), if_neg (lt_asymm hlt), ih hrest, List.cons_append]

theorem mem_of_mem_putSorted {fields : List (String × String)} {name value : String}
    {f : String × String} (h : f ∈ putSorted fields name value) :
    f = (name, value) ∨ f ∈ fields := by
  induction fields with
  | nil => exact .inl (List.mem_singleton.mp h)
  | cons g rest ih =>
    rw [putSorted] at h
    split at h
    · exact (List.mem_cons.mp h).imp_right (List.mem_cons_of_mem g)
    · split at h
      · exact List.mem_cons.mp h
      · rcases List.mem_cons.mp h with rfl | h
        · exact .inr List.mem_cons_self
        · exact (ih h).imp_right (List.mem_cons_of_mem g)

theorem SortedByName.putSorted {fields : List (String × String)} (h : SortedByName fields)
    (name value : String) : SortedByName (putSorted fields name value) := by
  induction fields with
  | nil => exact List.pairwise_singleton _ _
  | cons g rest ih =>
    obtain ⟨hg, hrest⟩ := List.pairwise_cons.mp h
    rw [ChannelConfig.putSorted]
    by_cases hsame : g.1 = name
    · rw [if_pos hsame]
      exact List.pairwise_cons.mpr ⟨fun f hf => hsame ▸ hg f hf, hrest⟩
    · rw [if_neg hsame]
      by_cases hbefore : name < g.1
      · rw [if_pos hbefore]
        refine List.pairwise_cons.mpr ⟨?_, h⟩
        intro f hf
        rcases List.mem_cons.mp hf with rfl | hf
        · exact hbefore
        · exact hbefore.trans (hg f hf)
      · rw [if_neg hbefore]
        -- The new field goes somewhere behind this one, which stays the first.
        have hafter : g.1 < name := lt_of_le_of_ne (not_lt.mp hbefore) hsame
        refine List.pairwise_cons.mpr ⟨?_, ih hrest⟩
        intro f hf
        rcases mem_of_mem_putSorted hf with rfl | hf
        · exact hafter
        · exact hg f hf

/-- The document of header fields. -/
def fieldsJson (fields : List (String × String)) : Members :=
  fields.map fun f => (f.1, .string f.2)

theorem map_fst_fieldsJson (fields : List (String × String)) :
    (fieldsJson fields).map Prod.fst = fields.map Prod.fst := by
  simp [fieldsJson]

/-- The fields of a sorted list, put one by one behind those before them, give the list. -/
theorem foldlM_putSorted {before fields : List (String × String)}
    (h : SortedByName (before ++ fields)) :
    (Json.membersToDraft (fieldsJson fields)).foldlM
      (fun hs m => return putSorted hs m.1 (← Decode.text m.2)) before =
      (.ok (before ++ fields) : Except DecodeFault _) := by
  induction fields generalizing before with
  | nil => rw [List.append_nil]; rfl
  | cons f rest ih =>
    have hlast : ∀ g ∈ before, g.1 < f.1 := fun g hg =>
      (List.pairwise_append.mp h).2.2 g hg f List.mem_cons_self
    -- The name comes after all names before it, so putting it in order puts it last.
    have hkeep : before ++ f :: rest = (before ++ [f]) ++ rest := by simp
    show (Json.membersToDraft (fieldsJson rest)).foldlM _ (putSorted before f.1 f.2) = _
    rw [putSorted_of_forall_lt hlast, hkeep]
    rw [hkeep] at h
    exact ih h

/-- Sorted header fields are read as they were written. -/
theorem textMap_fieldsJson {fields : List (String × String)} (h : SortedByName fields) :
    textMap (Json.object (fieldsJson fields)).toDraft = .ok fields := by
  have hall : SortedByName ([] ++ fields) := h
  exact foldlM_putSorted hall

/-! ## Documents of configurations -/

theorem plain_fieldsJson {fields : List (String × String)} (h : SortedByName fields) :
    (Json.object (fieldsJson fields)).Plain := by
  refine ⟨(map_fst_fieldsJson fields).symm ▸ h.nodup, Json.membersPlain_iff.mpr ?_⟩
  intro m hm
  obtain ⟨f, -, rfl⟩ := List.mem_map.mp hm
  trivial

theorem nesting_fieldsJson (fields : List (String × String)) :
    (Json.object (fieldsJson fields)).nesting ≤ 1 := by
  refine Nat.succ_le_succ (Json.membersNesting_le_iff.mpr ?_)
  intro m hm
  obtain ⟨f, -, rfl⟩ := List.mem_map.mp hm
  exact Nat.le_refl 0

/-- The members of the document of a configuration behind its type. -/
def members : ChannelConfig → Members
  | webhook url method headers bodyTemplate =>
    [("url", .string url), ("method", .string method),
      ("headers", Json.ofOption (fun hs => .object (fieldsJson hs)) headers),
      ("bodyTemplate", Json.ofOption .string bodyTemplate)]
  | slack url => [("webhookUrl", .string url)]
  | discord url => [("webhookUrl", .string url)]
  | webPush => []

theorem toJson_eq (config : ChannelConfig) :
    config.toJson = .object (("type", .string config.type.name) :: config.members) := by
  cases config <;> rfl

theorem nodup_names (config : ChannelConfig) : ("type" :: config.members.map Prod.fst).Nodup := by
  cases config with
  | webhook url method headers bodyTemplate =>
    show ["type", "url", "method", "headers", "bodyTemplate"].Nodup
    decide
  | slack url =>
    show ["type", "webhookUrl"].Nodup
    decide
  | discord url =>
    show ["type", "webhookUrl"].Nodup
    decide
  | webPush =>
    show ["type"].Nodup
    decide

/-- A member of a sorted configuration is a text, nothing, or an object of texts. -/
theorem of_mem_members {config : ChannelConfig} (h : config.Sorted) {m : String × Json}
    (hm : m ∈ config.members) : m.2.Plain ∧ m.2.nesting ≤ 1 := by
  cases config with
  | webhook url method headers bodyTemplate =>
    simp only [members, List.mem_cons, List.not_mem_nil, or_false] at hm
    rcases hm with rfl | rfl | rfl | rfl
    · exact ⟨trivial, Nat.zero_le 1⟩
    · exact ⟨trivial, Nat.zero_le 1⟩
    · cases headers with
      | none => exact ⟨trivial, Nat.zero_le 1⟩
      | some hs => exact ⟨plain_fieldsJson h, nesting_fieldsJson hs⟩
    · cases bodyTemplate <;> exact ⟨trivial, Nat.zero_le 1⟩
  | slack url | discord url =>
    cases List.mem_singleton.mp hm
    exact ⟨trivial, Nat.zero_le 1⟩
  | webPush => exact nomatch hm

/-- The document of a sorted configuration has no name twice. -/
theorem plain_toJson {config : ChannelConfig} (h : config.Sorted) : config.toJson.Plain := by
  rw [toJson_eq]
  have hmembers : Json.MembersPlain config.members :=
    Json.membersPlain_iff.mpr fun m hm => (of_mem_members h hm).1
  exact ⟨config.nodup_names, trivial, hmembers⟩

theorem nesting_toJson {config : ChannelConfig} (h : config.Sorted) :
    config.toJson.nesting ≤ 2 := by
  rw [toJson_eq]
  refine Nat.succ_le_succ (Json.membersNesting_le_iff.mpr ?_)
  intro m hm
  rcases List.mem_cons.mp hm with rfl | hm
  · exact Nat.zero_le 1
  · exact (of_mem_members h hm).2

/-- A readable object with its type in front is decoded from the members behind it. -/
theorem decode_object {type : ChannelType} {rest : List (String × Draft)}
    (hrest : ∀ m ∈ rest, m.1 ≠ "type")
    (hreadable : (Draft.object (("type", .string type.name) :: rest)).settle?.isSome) :
    decode (.object (("type", .string type.name) :: rest)) = decodeRest type (.object rest) := by
  -- The tag is taken out wherever it stands, and here it stands in front.
  have htag : (("type", Draft.string type.name) :: rest).filter (fun m => m.1 = "type") =
      [("type", .string type.name)] := by
    rw [List.filter_cons_of_pos (by simp), List.filter_eq_nil_iff.mpr (by simpa using hrest)]
  have hothers : (("type", Draft.string type.name) :: rest).filter (fun m => m.1 ≠ "type") =
      rest := by
    rw [List.filter_cons_of_neg (by simp), List.filter_eq_self.mpr (by simpa using hrest)]
  have hknown : decodeType (.string type.name) = .ok type := by
    cases type <;> rfl
  have hsettled : (Draft.object (("type", .string type.name) :: rest)).settle?.isNone = false := by
    simpa using hreadable
  unfold decode
  rw [hsettled]
  simp only [htag, hothers, hknown]
  rfl

/-- The members of a webhook are decoded, if its header fields and its template are. -/
theorem decodeRest_webhook (url method : String) {headers body : Draft}
    {hs : Option (List (String × String))} {template : Option String}
    (hheaders : Decode.option textMap headers = .ok hs)
    (hbody : Decode.option Decode.text body = .ok template) :
    decodeRest .webhook (.object [("url", .string url), ("method", .string method),
      ("headers", headers), ("bodyTemplate", body)]) = .ok (webhook url method hs template) := by
  have hread : Record.read webhookLayout (.object [("url", .string url), ("method", .string method),
      ("headers", headers), ("bodyTemplate", body)]) =
      .ok ⟨[("url", .string url), ("method", .string method), ("headers", headers),
        ("bodyTemplate", body)]⟩ := by
    apply Record.read_object_of_fits
    · simp only [List.forall_mem_cons]
      exact ⟨⟨_, rfl, rfl⟩, ⟨_, rfl, rfl⟩, ⟨_, rfl, congrArg (Except.map _) hheaders⟩,
        ⟨_, rfl, congrArg (Except.map _) hbody⟩, nofun⟩
    · show ["url", "method", "headers", "bodyTemplate"].Nodup
      decide
    · show ∀ f ∈ webhookLayout.fields, f.presence = .required →
        f.name ∈ ["url", "method", "headers", "bodyTemplate"]
      simp [webhookLayout, Field.of]
  unfold decodeRest
  rw [hread]
  show (do
    return webhook url method (← Decode.option textMap headers)
      (← Decode.option Decode.text body)) = .ok (webhook url method hs template)
  rw [hheaders, hbody]
  rfl

/-- The members of a sorted configuration are read as that configuration. -/
theorem decodeRest_members {config : ChannelConfig} (h : config.Sorted) :
    decodeRest config.type (.object (Json.membersToDraft config.members)) = .ok config := by
  cases config with
  | webhook url method headers bodyTemplate =>
    apply decodeRest_webhook
    · cases headers with
      | none => rfl
      | some hs => exact congrArg (Except.map some) (textMap_fieldsJson h)
    · cases bodyTemplate <;> rfl
  | slack url => rfl
  | discord url => rfl
  | webPush => rfl

/-- A configuration is what is read from its document. -/
theorem decode_toJson {config : ChannelConfig} (h : config.Sorted) :
    decode config.toJson.toDraft = .ok config := by
  -- A tagged union is read by way of a value, so the document must be one: no name twice.
  have hreadable : config.toJson.toDraft.settle?.isSome := by
    rw [Json.settle?_toDraft _ (plain_toJson h)]
    rfl
  have hrest : ∀ m ∈ Json.membersToDraft config.members, m.1 ≠ "type" := by
    intro m hm htype
    apply (List.nodup_cons.mp config.nodup_names).1
    rw [← Json.map_fst_membersToDraft, ← htype]
    exact List.mem_map_of_mem hm
  rw [toJson_eq] at hreadable ⊢
  exact (decode_object hrest hreadable).trans (decodeRest_members h)

/-! ## Configurations that were read -/

theorem sorted_of_foldlM_putSorted {before hs : List (String × String)}
    {ms : List (String × Draft)} (hbefore : SortedByName before)
    (h : ms.foldlM (fun hs m => return putSorted hs m.1 (← Decode.text m.2)) before =
      (.ok hs : Except DecodeFault _)) : SortedByName hs := by
  induction ms generalizing before with
  | nil =>
    cases h
    exact hbefore
  | cons m rest ih =>
    rw [List.foldlM_cons] at h
    obtain ⟨next, hnext, h⟩ := exists_of_bind_eq_ok h
    obtain ⟨value, -, hnext⟩ := exists_of_bind_eq_ok hnext
    cases hnext
    exact ih (hbefore.putSorted m.1 value) h

theorem sorted_of_textMap {d : Draft} {hs : List (String × String)} (h : textMap d = .ok hs) :
    SortedByName hs := by
  unfold textMap at h
  split at h
  · -- However the document has them, the fields are put in order one by one.
    exact sorted_of_foldlM_putSorted List.Pairwise.nil h
  · exact nomatch h

theorem sorted_of_decodeRest {type : ChannelType} {rest : Draft} {config : ChannelConfig}
    (h : decodeRest type rest = .ok config) : config.Sorted := by
  cases type with
  | webhook =>
    obtain ⟨r, -, h⟩ := exists_of_bind_eq_ok h
    obtain ⟨url, -, h⟩ := exists_of_bind_eq_ok h
    obtain ⟨method, -, h⟩ := exists_of_bind_eq_ok h
    obtain ⟨headers, hheaders, h⟩ := exists_of_bind_eq_ok h
    obtain ⟨body, -, h⟩ := exists_of_bind_eq_ok h
    cases h
    cases headers with
    | none => trivial
    | some hs =>
      obtain ⟨d, -, hd⟩ := Record.exists_of_optionalField hheaders
      exact sorted_of_textMap hd
  | slack | discord =>
    obtain ⟨r, -, h⟩ := exists_of_bind_eq_ok h
    obtain ⟨url, -, h⟩ := exists_of_bind_eq_ok h
    cases h
    trivial
  | webPush =>
    simp only [decodeRest] at h
    split at h
    · exact nomatch h
    · cases h
      trivial

/-- A configuration that was read is sorted, in whatever order its document has the fields. -/
theorem sorted_of_decode {d : Draft} {config : ChannelConfig} (h : decode d = .ok config) :
    config.Sorted := by
  unfold decode at h
  cases hreadable : d.settle?.isNone with
  | true =>
    rw [hreadable] at h
    exact nomatch h
  | false =>
    simp only [hreadable, Bool.false_eq_true, if_false] at h
    split at h
    · split at h
      · exact nomatch h
      · obtain ⟨type, -, h⟩ := exists_of_bind_eq_ok h
        exact sorted_of_decodeRest h
      · exact nomatch h
    · obtain ⟨type, -, h⟩ := exists_of_bind_eq_ok h
      exact sorted_of_decodeRest h
    · exact nomatch h

end ChannelConfig

/-! ## Bytes -/

/-- A text comes out of just what it is sealed as. -/
theorem Crypto.Gcm.decrypt?_eq_some_iff {cipher : Crypto.Gcm.Cipher}
    {nonce sealed text : List UInt8} :
    Crypto.Gcm.decrypt? cipher nonce sealed = some text ↔
      Crypto.Gcm.encrypt cipher nonce text = sealed := by
  constructor
  · exact Crypto.Gcm.encrypt_of_decrypt?
  · rintro rfl
    exact Crypto.Gcm.decrypt?_encrypt cipher nonce text

namespace SealKey

/-- What opens is what has been sealed: its first bytes are the nonce, and the others are what the
cipher makes of the text under that nonce. -/
theorem decrypt_eq_ok_iff (key : SealKey) (stored text : List UInt8) :
    key.decrypt stored = .ok text ↔ stored = key.encrypt (stored.take nonceLength) text := by
  unfold decrypt encrypt
  by_cases hshort : stored.length < nonceLength
  · -- the tag alone makes what is sealed longer than its own nonce
    rw [if_pos hshort]
    refine iff_of_false nofun fun h => ?_
    have hlength := congrArg List.length h
    simp only [List.length_append, List.length_take, Crypto.Gcm.length_encrypt] at hlength
    have htag : 0 < Crypto.Gcm.tagLength := by decide
    omega
  · rw [if_neg hshort]
    -- The nonce is taken as it is, so that all is up to the bytes behind it.
    have hsplit : stored = stored.take nonceLength ++
          Crypto.Gcm.encrypt (Crypto.Gcm.aes key.bytes) (stored.take nonceLength) text ↔
        Crypto.Gcm.encrypt (Crypto.Gcm.aes key.bytes) (stored.take nonceLength) text =
          stored.drop nonceLength := by
      have hparts := List.take_append_drop nonceLength stored
      constructor
      · intro h
        exact (List.append_cancel_left (hparts.trans h)).symm
      · intro h
        rw [h, hparts]
    rw [hsplit, ← Crypto.Gcm.decrypt?_eq_some_iff]
    cases Crypto.Gcm.decrypt? (Crypto.Gcm.aes key.bytes) (stored.take nonceLength)
      (stored.drop nonceLength) <;> simp

theorem decrypt_encrypt (key : SealKey) {nonce : List UInt8} (h : nonce.length = nonceLength)
    (text : List UInt8) : key.decrypt (key.encrypt nonce text) = .ok text := by
  rw [decrypt_eq_ok_iff, encrypt, ← h, List.take_left, encrypt]

/-- What has no room for a nonce is too short, and what has room for it but none for a tag behind it
is broken. -/
theorem decrypt_of_length_lt (key : SealKey) {stored : List UInt8}
    (h : stored.length < nonceLength + Crypto.Gcm.tagLength) :
    key.decrypt stored = .error (if stored.length < nonceLength then .tooShort else .broken) := by
  unfold decrypt
  by_cases hshort : stored.length < nonceLength
  · rw [if_pos hshort, if_pos hshort]
  · rw [if_neg hshort, if_neg hshort]
    -- Behind the nonce there is less than a tag, which the cipher refuses without the key.
    have hrest : (stored.drop nonceLength).length < Crypto.Gcm.tagLength := by
      rw [List.length_drop]
      omega
    rw [Crypto.Gcm.decrypt?, if_pos hrest]

/-! ## Configurations -/

/-- The bytes of the document of a sorted configuration are read as that configuration. -/
theorem configOf_toJson {config : ChannelConfig} (h : config.Sorted) :
    configOf (Bytes.utf8Chars config.toJson.chars) = .ok config := by
  have hdepth : config.toJson.nesting ≤ maxDepth :=
    (ChannelConfig.nesting_toJson h).trans (by decide)
  have hparse : Draft.parse (String.ofList config.toJson.chars) = .ok config.toJson.toDraft :=
    Draft.parse_text (ChannelConfig.plain_toJson h) hdepth
  unfold configOf
  rw [Bytes.ofUtf8?_utf8Chars]
  simp only [hparse, ChannelConfig.decode_toJson h]
  rfl

/-- A sealed configuration is opened with the key that it was sealed with. -/
theorem openConfig_sealConfig (key : SealKey) {nonce : List UInt8}
    (hnonce : nonce.length = nonceLength) {config : ChannelConfig} (hsorted : config.Sorted) :
    key.openConfig (key.sealConfig nonce config) = .ok config := by
  unfold openConfig sealConfig
  rw [decrypt_encrypt key hnonce]
  exact configOf_toJson hsorted

/-- A configuration that was opened is sorted. -/
theorem sorted_of_openConfig {key : SealKey} {stored : List UInt8} {config : ChannelConfig}
    (h : key.openConfig stored = .ok config) : config.Sorted := by
  obtain ⟨text, -, h⟩ := exists_of_bind_eq_ok h
  unfold configOf at h
  split at h
  · exact nomatch h
  · split at h
    · exact nomatch h
    · rename_i d hparse
      cases hdecode : ChannelConfig.decode d with
      | error e =>
        rw [hdecode] at h
        exact nomatch h
      | ok read =>
        rw [hdecode] at h
        cases h
        exact ChannelConfig.sorted_of_decode hdecode

/-- Every configuration, sealed with some nonce, opens to what it was. Bytes open just if they are a
nonce and the sealing of what they open to under that nonce; with fewer bytes than a nonce and a
tag have they are refused. -/
theorem sealed_opens (key : SealKey) {nonce : List UInt8} (hnonce : nonce.length = 12)
    {config : ChannelConfig} (hsorted : config.Sorted) :
    key.openConfig (key.sealConfig nonce config) = .ok config ∧
      (∀ stored text : List UInt8, key.decrypt stored = .ok text ↔
        stored = stored.take 12 ++
          Crypto.Gcm.encrypt (Crypto.Gcm.aes key.bytes) (stored.take 12) text) ∧
      ∀ stored : List UInt8, stored.length < 28 →
        key.decrypt stored = .error (if stored.length < 12 then .tooShort else .broken) :=
  ⟨openConfig_sealConfig key hnonce hsorted, key.decrypt_eq_ok_iff,
    fun _ hshort => key.decrypt_of_length_lt hshort⟩

/-- A webhook whose address, header fields and template are written with escapes. -/
def escapedWebhook : ChannelConfig :=
  .webhook "http://hook.test/\u00e4?q=\"\\\"" "PUT"
    (some [("X-A", "\u0001"), ("X-B", ""), ("x-a", "\n")])
    (some "\x7b\x7bmonitor.name\x7d\x7d \u2028")

theorem sealed_opens_escapedWebhook :
    (List.replicate 12 (9 : UInt8)).length = 12 ∧ escapedWebhook.Sorted ∧
      let key : SealKey := ⟨List.replicate 32 7, rfl⟩
      key.openConfig (key.sealConfig (List.replicate 12 9) escapedWebhook) =
        .ok escapedWebhook := by
  have hsorted : escapedWebhook.Sorted := by decide +kernel
  exact ⟨rfl, hsorted, (sealed_opens _ rfl hsorted).1⟩

end SealKey

end UptimeMonitor
