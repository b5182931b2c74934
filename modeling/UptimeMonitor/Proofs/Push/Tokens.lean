import Mathlib.Data.List.Basic
import UptimeMonitor.Proofs.Json.RoundTrip
import UptimeMonitor.Proofs.Push.Keys

/-!
# Tokens read back

A token is three parts in the alphabet for addresses with a dot between them: what kind of token it
is, what it claims, and the signature. No part has a dot of its own, and neither a token nor a key
has a comma, so that a service finds the parts in the token, and the token and the key in the header
value, in one way only.

- `Holds`: a part of a token is the text of a document.
- `TokenSays`: what a service reads in a token.
- `tokenSays_tokenWith`: it reads what the token was made for, whatever the signature.
- `Signer.headerValue_eq_iff`: the one way to take a header value apart.
- `Signer.authorization_reads_back`: the two together, for every key pair that makes a signer.
-/

namespace UptimeMonitor.Push

open Bytes.Base64 (charOf encodeUrl decodeLenient)
open Crypto (P256.Secret)

variable {audience subject : String} {now : Instant} {signature : List UInt8}

/-! ## Parts -/

/-- The part decodes to the bytes of a text, and the text is read as the document. -/
def Holds (part : List Char) (j : Json) : Prop :=
  ∃ bytes text, decodeLenient (String.ofList part) = .ok bytes ∧ Bytes.ofUtf8? bytes = some text ∧
    Json.parse text = .ok j

/-- What a service reads in a token: the algorithm, whom it is meant for, how long it is valid and
whom to ask, and the signature. An expiry of more than 64 bits, which no clock gives, would not be
read as an integer. -/
structure TokenSays (token : List Char) (audience subject : String) (expiry : Int)
    (signature : List UInt8) : Prop where
  dots : token.count '.' = 2
  parts : ∃ header claims last, Text.splitOn '.' token = [header, claims, last] ∧
    (∃ j, Holds header j ∧ j.get? "alg" = some (.string "ES256")) ∧
    ((Number.int expiry).IsWord → Holds claims (.object
      [("aud", .string audience), ("exp", .number (.int expiry)), ("sub", .string subject)])) ∧
    decodeLenient (String.ofList last) = .ok signature

/-- A plain document is read in its part. -/
theorem holds_tokenPart {j : Json} (h : j.Plain) (hnesting : j.nesting ≤ maxDepth) :
    Holds (tokenPart j) j := by
  refine ⟨Bytes.utf8Chars j.chars, j.text, Bytes.Base64.decodeLenient_encodeUrl _, ?_, ?_⟩
  · exact Bytes.ofUtf8?_utf8Chars j.chars
  · exact (Json.parse_text_eq_ok_iff h).mpr ⟨hnesting, rfl⟩

/-- A character that is not in the alphabet for addresses is not written in it. -/
theorem notMem_encodeUrl {c : Char} (h : ∀ v < 64, charOf '-' '_' v ≠ c) (bs : List UInt8) :
    c ∉ encodeUrl bs := by
  intro hc
  unfold encodeUrl at hc
  rw [Bytes.Base64.encodeWith_eq_map] at hc
  obtain ⟨v, hv, hchar⟩ := List.mem_map.mp hc
  exact h v (Bytes.Base64.lt_of_mem_sextets v hv) hchar

theorem dot_notMem_encodeUrl (bs : List UInt8) : '.' ∉ encodeUrl bs :=
  notMem_encodeUrl (by decide) bs

theorem comma_notMem_encodeUrl (bs : List UInt8) : ',' ∉ encodeUrl bs :=
  notMem_encodeUrl (by decide) bs

/-! ## Tokens -/

/-- A token falls into its three parts. -/
theorem splitOn_tokenWith : Text.splitOn '.' (tokenWith audience subject now signature) =
    [tokenPart tokenHeader, tokenPart (tokenClaims audience subject now), encodeUrl signature] := by
  unfold tokenWith signedPart tokenPart
  rw [Text.splitOn_append_cons, Text.splitOn_append_cons,
    Text.splitOn_of_notMem (dot_notMem_encodeUrl _),
    Text.splitOn_of_notMem (dot_notMem_encodeUrl _),
    Text.splitOn_of_notMem (dot_notMem_encodeUrl _)]
  rfl

theorem count_dot_tokenWith : (tokenWith audience subject now signature).count '.' = 2 := by
  have hnone (bs : List UInt8) : (encodeUrl bs).count '.' = 0 :=
    List.count_eq_zero.mpr (dot_notMem_encodeUrl bs)
  unfold tokenWith signedPart tokenPart
  rw [List.count_append, List.count_append, List.count_cons_self, List.count_cons_self, hnone,
    hnone, hnone]

theorem comma_notMem_tokenWith : ',' ∉ tokenWith audience subject now signature := by
  have hne : ',' ≠ '.' := by decide
  unfold tokenWith signedPart tokenPart
  simp only [List.mem_append, List.mem_cons, comma_notMem_encodeUrl, hne, or_false, not_false_iff]

/-- A token is valid for twelve hours. -/
theorem seconds_addSeconds_tokenLifetime (now : Instant) :
    (now.addSeconds tokenLifetime).seconds = now.seconds + 43200 := by
  have hzero : tokenLifetime ≠ 0 := by decide
  have hpos : tokenLifetime > 0 := by decide
  unfold Instant.addSeconds
  rw [if_neg hzero, if_pos hpos]
  split <;> rfl

/-- A token says what it was made for. -/
theorem tokenSays_tokenWith : TokenSays (tokenWith audience subject now signature) audience subject
    (now.seconds + 43200) signature := by
  refine ⟨count_dot_tokenWith, _, _, _, splitOn_tokenWith, ?_, ?_, ?_⟩
  · have hplain : tokenHeader.Plain := ⟨by decide, trivial, trivial, trivial⟩
    exact ⟨tokenHeader, holds_tokenPart hplain (by decide), rfl⟩
  · intro hexpiry
    -- The time of expiry is the one number in a token; it has to be a word to be read back.
    have hclaims : tokenClaims audience subject now = .object [("aud", .string audience),
        ("exp", .number (.int (now.seconds + 43200))), ("sub", .string subject)] := by
      rw [tokenClaims, seconds_addSeconds_tokenLifetime]
      rfl
    have hnames : ["aud", "exp", "sub"].Nodup := by decide
    rw [hclaims]
    exact holds_tokenPart ⟨hnames, trivial, .inl hexpiry, trivial, trivial⟩
      (by decide : 1 ≤ maxDepth)
  · exact Bytes.Base64.decodeLenient_encodeUrl signature

namespace Signer

variable {s : Signer} {keys : VapidKeys}

/-! ## Header values -/

/-- A header value is taken apart at its one comma. -/
theorem headerValue_eq_iff {token : List Char} (htoken : ',' ∉ token)
    (hkey : ',' ∉ s.publicKey.toList) {t k : String} :
    s.headerValue token = "vapid t=" ++ t ++ ", k=" ++ k ↔
      t = String.ofList token ∧ k = s.publicKey := by
  constructor
  · intro h
    have hchars := congrArg String.toList h
    unfold headerValue at hchars
    simp only [String.toList_append, String.toList_ofList, List.append_assoc] at hchars
    -- Neither the token nor the key has a comma, hence the comma of the wording is the only one.
    have hcut : token ++ ',' :: (" k=".toList ++ s.publicKey.toList) =
        t.toList ++ ',' :: (" k=".toList ++ k.toList) := List.append_cancel_left hchars
    have hrest : ',' ∉ " k=".toList ++ s.publicKey.toList := by
      rw [List.mem_append, not_or]
      exact ⟨by decide, hkey⟩
    obtain ⟨htokens, -, hkeys⟩ := (List.append_cons_inj_of_notMem htoken hrest).mp hcut
    refine ⟨?_, String.toList_inj.mp (List.append_cancel_left hkeys).symm⟩
    rw [htokens, String.ofList_toList]
  · rintro ⟨rfl, rfl⟩
    rfl

/-- The public key of a signer is the one of its key pair, as it is written. -/
theorem exists_of_ofKeys (h : ofKeys keys = .ok s) : ∃ stored,
    decodeLenient keys.publicKey = .ok stored ∧ s.publicKey = encoded stored := by
  unfold ofKeys at h
  obtain ⟨scalar, -, h⟩ := exists_of_bind_eq_ok h
  split at h
  · exact nomatch h
  · obtain ⟨stored, hstored, h⟩ := exists_of_bind_eq_ok h
    split at h
    · rename_i hsame
      cases h
      refine ⟨stored, ?_, hsame⟩
      unfold keyBytes at hstored
      cases hread : decodeLenient keys.publicKey with
      | error e =>
        rw [hread] at hstored
        exact nomatch hstored
      | ok bytes =>
        rw [hread] at hstored
        cases hstored
        rfl
    · exact nomatch h

/-- The public key that a signer shows is read as the one of its key pair. -/
theorem decodeLenient_publicKey (h : ofKeys keys = .ok s) :
    decodeLenient s.publicKey = decodeLenient keys.publicKey := by
  obtain ⟨stored, hstored, hkey⟩ := exists_of_ofKeys h
  rw [hstored, hkey]
  exact Bytes.Base64.decodeLenient_encodeUrl stored

theorem comma_notMem_publicKey (h : ofKeys keys = .ok s) : ',' ∉ s.publicKey.toList := by
  obtain ⟨stored, -, hkey⟩ := exists_of_ofKeys h
  rw [hkey, encoded, String.toList_ofList]
  exact comma_notMem_encodeUrl stored

/-- Whatever the signature, a token is three parts between two dots: the first names the algorithm,
the second claims just the audience and the subject as they were given and the second twelve hours
from now, and the third is the signature. The header value falls into one token and one key, the
public key of the pair. A signer makes such a token for every audience, with a signature of 64
bytes, and such a header value for just those addresses that have an audience. -/
theorem authorization_reads_back (h : ofKeys keys = .ok s) (subject : String) (now : Instant) :
    (∀ (audience : String) (signature : List UInt8),
      TokenSays (tokenWith audience subject now signature) audience subject (now.seconds + 43200)
        signature ∧
      ∀ t k : String, s.headerValue (tokenWith audience subject now signature) =
          "vapid t=" ++ t ++ ", k=" ++ k ↔
        t = String.ofList (tokenWith audience subject now signature) ∧ k = s.publicKey) ∧
    decodeLenient s.publicKey = decodeLenient keys.publicKey ∧
    ∀ once : P256.Secret,
      (∀ audience, ∃ signature, signature.length = 64 ∧
        s.token audience subject now once = tokenWith audience subject now signature) ∧
      ∀ endpoint, s.authorization endpoint subject now once =
        (audienceOf endpoint).map fun audience =>
          s.headerValue (s.token audience subject now once) := by
  refine ⟨fun audience signature => ⟨tokenSays_tokenWith, fun t k => ?_⟩,
    decodeLenient_publicKey h, fun once => ⟨fun audience => ?_, fun endpoint => ?_⟩⟩
  · exact headerValue_eq_iff comma_notMem_tokenWith (comma_notMem_publicKey h)
  · exact ⟨s.signature audience subject now once, P256.Secret.length_sign _ _ _, rfl⟩
  · unfold authorization
    cases audienceOf endpoint <;> rfl

/-- A subject with a quote, a backslash and a letter of two bytes is claimed as it is. -/
theorem authorization_reads_back_quotedSubject :
    let secret : P256.Secret := ⟨1, by decide, by decide⟩
    ofKeys (keysOf secret) = .ok ⟨secret, encoded secret.publicKey.encode⟩ ∧
      (Number.int 1775001600).IsWord ∧
      ∃ header claims last, Text.splitOn '.' (tokenWith "https://push.test:8443" "\"\\ü"
          ⟨1774958400, 999⟩ (List.replicate 64 7)) = [header, claims, last] ∧
        Holds claims (.object [("aud", .string "https://push.test:8443"),
          ("exp", .number (.int 1775001600)), ("sub", .string "\"\\ü")]) ∧
        decodeLenient (String.ofList last) = .ok (List.replicate 64 7) := by
  intro secret
  have hkeys := ofKeys_keysOf secret
  have hexpiry : (Number.int 1775001600).IsWord := by decide
  obtain ⟨htokens, -, -⟩ := authorization_reads_back hkeys "\"\\ü" ⟨1774958400, 999⟩
  obtain ⟨header, claims, last, hparts, -, hclaims, hlast⟩ :=
    (htokens "https://push.test:8443" (List.replicate 64 7)).1.parts
  exact ⟨hkeys, hexpiry, header, claims, last, hparts, hclaims hexpiry, hlast⟩

end Signer

end UptimeMonitor.Push
