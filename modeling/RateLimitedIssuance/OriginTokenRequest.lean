import RateLimitedIssuance.Cryptobyte

namespace RateLimitedIssuance

/-- `OriginTokenRequest`, the HPKE plaintext of a request; `raw` caches the encoding and
`none` is a `nil` slice. -/
structure OriginTokenRequest where
  raw : Option Bytes := none
  blindedMsg : Bytes := []
  requestKey : Bytes := []
  paddedOrigin : Bytes := []
deriving DecidableEq, Repr

namespace OriginTokenRequest

/-- `Marshal`. The store into `r.raw` is not modelled: every request of the exchange is
marshalled once. -/
def marshal (r : OriginTokenRequest) : Go Bytes :=
  match r.raw with
  | some raw => .ok raw
  | none =>
    (Builder.new.addBytes r.blindedMsg |>.addBytes r.requestKey
      |>.addUint16LengthPrefixed r.paddedOrigin).bytesOrPanic

/-- `Unmarshal` into a fresh `&OriginTokenRequest{}`; `none` is the `false` return. -/
def unmarshal (data : Bytes) : Option OriginTokenRequest := do
  let (blindedMsg, s) ← readBytes data 256
  let (requestKey, s) ← readBytes s 49
  let (paddedOriginName, _) ← readUint16LengthPrefixed s
  return { blindedMsg, requestKey, paddedOrigin := paddedOriginName }

/-- The encoding `Marshal` builds for a request without a cached `raw`. -/
def encoding (r : OriginTokenRequest) : Bytes :=
  r.blindedMsg ++ r.requestKey ++ toBigEndian 2 r.paddedOrigin.length ++ r.paddedOrigin

theorem marshal_of_le {r : OriginTokenRequest} (hraw : r.raw = none)
    (h : r.paddedOrigin.length ≤ 0xFFFF) : r.marshal = .ok r.encoding := by
  simp [marshal, hraw, Builder.addUint16LengthPrefixed_of_le _ _ h, encoding]

theorem marshal_of_lt {r : OriginTokenRequest} (hraw : r.raw = none)
    (h : 0xFFFF < r.paddedOrigin.length) :
    r.marshal = .error (.panic (bytesOf ("cryptobyte: pending child length " ++
      toString r.paddedOrigin.length ++ " exceeds 2-byte length prefix"))) := by
  simp only [marshal, hraw, Builder.new_eq, Builder.addBytes_mk]
  exact Builder.addUint16LengthPrefixed_bytesOrPanic_of_lt _ _ h

theorem marshal_mk {blindedMsg requestKey paddedOrigin : Bytes}
    (h : paddedOrigin.length ≤ 0xFFFF) :
    ({ blindedMsg, requestKey, paddedOrigin } : OriginTokenRequest).marshal =
      .ok ({ blindedMsg, requestKey, paddedOrigin } : OriginTokenRequest).encoding :=
  marshal_of_le rfl h

theorem marshal_mk_of_lt {blindedMsg requestKey paddedOrigin : Bytes}
    (h : 0xFFFF < paddedOrigin.length) :
    ({ blindedMsg, requestKey, paddedOrigin } : OriginTokenRequest).marshal =
      .error (.panic (bytesOf ("cryptobyte: pending child length " ++
        toString paddedOrigin.length ++ " exceeds 2-byte length prefix"))) :=
  marshal_of_lt rfl h

theorem marshal_eq_ok_iff {r : OriginTokenRequest} {d : Bytes} (hraw : r.raw = none) :
    r.marshal = .ok d ↔ r.paddedOrigin.length ≤ 0xFFFF ∧ d = r.encoding := by
  by_cases h : r.paddedOrigin.length ≤ 0xFFFF
  · simp [marshal_of_le hraw h, h, eq_comm]
  · simp [marshal_of_lt hraw (by omega), h]

theorem unmarshal_encoding_append {r : OriginTokenRequest} (rest : Bytes)
    (hraw : r.raw = none) (hb : r.blindedMsg.length = 256) (hk : r.requestKey.length = 49)
    (hp : r.paddedOrigin.length ≤ 0xFFFF) : unmarshal (r.encoding ++ rest) = some r := by
  obtain ⟨raw, blindedMsg, requestKey, paddedOrigin⟩ := r
  simp only at hraw hb hk hp
  subst hraw
  have he : encoding ⟨none, blindedMsg, requestKey, paddedOrigin⟩ ++ rest =
      blindedMsg ++ (requestKey ++ (toBigEndian 2 paddedOrigin.length ++ paddedOrigin ++ rest)) := by
    simp [encoding]
  rw [he, unmarshal]
  simp only [Option.bind_eq_bind, readBytes_append _ hb, Option.some_bind, readBytes_append _ hk,
    readUint16LengthPrefixed_append rest hp]
  rfl

theorem unmarshal_sound {d : Bytes} {r : OriginTokenRequest} (h : unmarshal d = some r) :
    r.raw = none ∧ r.blindedMsg.length = 256 ∧ r.requestKey.length = 49 ∧
      r.paddedOrigin.length ≤ 0xFFFF ∧ ∃ rest, d = r.encoding ++ rest := by
  simp only [unmarshal, Option.bind_eq_bind, Option.bind_eq_some] at h
  obtain ⟨⟨blindedMsg, s⟩, h1, ⟨requestKey, s'⟩, h2, ⟨paddedOrigin, rest⟩, h3, h⟩ := h
  cases h
  obtain ⟨hb, rfl⟩ := readBytes_sound h1
  obtain ⟨hk, rfl⟩ := readBytes_sound h2
  obtain ⟨hp, rfl⟩ := readUint16LengthPrefixed_sound h3
  exact ⟨rfl, hb, hk, hp, rest, by simp [encoding]⟩

/-- Decoding undoes encoding: a request built from a 256-byte blinded message, a 49-byte
request key and a padded origin of at most `0xFFFF` bytes marshals without panicking, and
its encoding unmarshals to the same three fields. -/
theorem originTokenRequest_decode_encode (blindedMsg requestKey paddedOrigin : Bytes)
    (hb : blindedMsg.length = 256) (hk : requestKey.length = 49)
    (hp : paddedOrigin.length ≤ 0xFFFF) :
    ∃ d, ({ blindedMsg, requestKey, paddedOrigin } : OriginTokenRequest).marshal = .ok d ∧
      unmarshal d = some { blindedMsg, requestKey, paddedOrigin } := by
  refine ⟨_, marshal_of_le rfl hp, ?_⟩
  simpa using unmarshal_encoding_append [] rfl hb hk hp

theorem originTokenRequest_decode_encode_two_byte_prefix :
    (List.replicate 256 (0 : UInt8)).length = 256 ∧ (List.replicate 49 (2 : UInt8)).length = 49 ∧
      (List.replicate 256 (1 : UInt8)).length ≤ 0xFFFF ∧
      ∃ d, ({ blindedMsg := List.replicate 256 0, requestKey := List.replicate 49 2,
              paddedOrigin := List.replicate 256 1 } : OriginTokenRequest).marshal = .ok d ∧
        unmarshal d = some { blindedMsg := List.replicate 256 0, requestKey := List.replicate 49 2,
                             paddedOrigin := List.replicate 256 1 } :=
  have hp : (List.replicate 256 (1 : UInt8)).length ≤ 0xFFFF := by
    rw [List.length_replicate]
    decide
  ⟨List.length_replicate _ _, List.length_replicate _ _, hp,
    originTokenRequest_decode_encode _ _ _ (List.length_replicate _ _) (List.length_replicate _ _) hp⟩

/-- `Unmarshal` accepts exactly an encoding followed by any trailing bytes. -/
theorem originTokenRequest_unmarshal_prefix (d : Bytes) (r : OriginTokenRequest) :
    unmarshal d = some r ↔
      r.raw = none ∧ r.blindedMsg.length = 256 ∧ r.requestKey.length = 49 ∧
        ∃ m rest, r.marshal = .ok m ∧ d = m ++ rest := by
  constructor
  · intro h
    obtain ⟨hraw, hb, hk, hp, rest, rfl⟩ := unmarshal_sound h
    exact ⟨hraw, hb, hk, r.encoding, rest, marshal_of_le hraw hp, rfl⟩
  · rintro ⟨hraw, hb, hk, m, rest, hm, rfl⟩
    obtain ⟨hp, rfl⟩ := (marshal_eq_ok_iff hraw).mp hm
    exact unmarshal_encoding_append rest hraw hb hk hp

/-- One trailing byte after a valid encoding is accepted, so decoding does not invert
encoding on every accepted input. -/
theorem originTokenRequest_trailing_byte_accepted :
    ¬∀ (d : Bytes) (r : OriginTokenRequest), unmarshal d = some r → r.marshal = .ok d := by
  intro h
  let r : OriginTokenRequest :=
    { blindedMsg := List.replicate 256 0, requestKey := List.replicate 49 0 }
  have hu : unmarshal (r.encoding ++ [0]) = some r :=
    unmarshal_encoding_append [0] rfl (List.length_replicate _ _) (List.length_replicate _ _)
      (by decide)
  have hm := (marshal_eq_ok_iff rfl).mp (h _ _ hu)
  simpa using congrArg List.length hm.2

end OriginTokenRequest

end RateLimitedIssuance
