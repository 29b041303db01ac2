import RateLimitedIssuance.Exchange

namespace RateLimitedIssuance

section Robustness

variable {P : Primitives} {key : RsaPrivateKey} {i : RateLimitedIssuer} {c : RateLimitedClient}
  {o : Bytes}

/-- `Evaluate` and `EvaluateWithoutCheck` slice `encryptedTokenRequest` at the KEM public-key
size before anything is checked, so a shorter one makes both panic. -/
theorem evaluate_short_request_panics (rand : Entropy) (req : RateLimitedTokenRequest)
    (h : req.encryptedTokenRequest.length < i.nameKey.suite.kemPublicKeySize) :
    i.evaluate P rand req = .error (.panic (bytesOf "runtime error: slice bounds out of range")) ∧
      i.evaluateWithoutCheck P rand req =
        .error (.panic (bytesOf "runtime error: slice bounds out of range")) := by
  simp only [RateLimitedIssuer.evaluate, RateLimitedIssuer.evaluateWithoutCheck,
    RateLimitedIssuer.evaluateChecks, RateLimitedIssuer.evaluateWithoutCheckChecks,
    decryptOriginTokenRequest_of_lt h]
  exact ⟨rfl, rfl⟩

theorem evaluate_short_request_panics_transparent :
    ([] : Bytes).length < Transparent.issuer.nameKey.suite.kemPublicKeySize ∧
      Transparent.issuer.evaluate Transparent.primitives (Transparent.constEntropy 0)
          ⟨0, List.replicate 32 0, [], List.replicate 96 0⟩ =
        .error (.panic (bytesOf "runtime error: slice bounds out of range")) ∧
      Transparent.issuer.evaluateWithoutCheck Transparent.primitives (Transparent.constEntropy 0)
          ⟨0, List.replicate 32 0, [], List.replicate 96 0⟩ =
        .error (.panic (bytesOf "runtime error: slice bounds out of range")) :=
  ⟨by decide, evaluate_short_request_panics (Transparent.constEntropy 0)
    ⟨0, List.replicate 32 0, [], List.replicate 96 0⟩ (by decide)⟩

/-- `FinalizeToken` slices the response at `max(Nk, Nn)`, 16 for the X25519 suite, before
anything is checked, so a shorter response makes it panic. -/
theorem finalizeToken_short_response_panics {st : RateLimitedTokenRequestState P}
    (hsuite : st.nameKey.suite.IsX25519) {resp : Bytes} (h : resp.length < 16) :
    st.finalizeToken P resp = .error (.panic (bytesOf "runtime error: slice bounds out of range")) := by
  have hmax : max st.nameKey.suite.aeadKeySize st.nameKey.suite.aeadNonceSize = 16 := by
    rw [hsuite.aeadKeySize, hsuite.aeadNonceSize]
    rfl
  exact finalizeToken_of_lt (hmax ▸ h)

theorem finalizeToken_short_response_panics_transparent :
    ∃ st, Transparent.client.createTokenRequest Transparent.primitives
        ⟨Transparent.constEntropy 0, Transparent.constEntropy 0, Transparent.constEntropy 0⟩
        [] (List.replicate 32 0) [] (List.replicate 32 0) Transparent.tokenKey.publicKey [1]
        Transparent.issuer.publicNameKey = .ok st ∧
      st.nameKey.suite.IsX25519 ∧ ([] : Bytes).length < 16 ∧
      st.finalizeToken Transparent.primitives [] =
        .error (.panic (bytesOf "runtime error: slice bounds out of range")) := by
  obtain ⟨st, hst, _, _, -, hs⟩ :=
    Transparent.request_sent Transparent.issuer_built [1] (by decide)
  have hsuite : st.nameKey.suite.IsX25519 := by
    rw [hs.nameKey]
    exact (Transparent.issuer_built.invariant Transparent.lawful).suite
  exact ⟨st, hst, hsuite, by decide, finalizeToken_short_response_panics hsuite (by decide)⟩

/-- `Evaluate` never compares `nameKeyID` with the ID of its own name key: the field enters
only the message whose signature is checked, under the request key the client chose. A client
that re-signs its request for any `nameKeyID` with its blinded request key is served. -/
theorem evaluate_accepts_any_nameKeyID (hP : P.Lawful) (hkey : P.ValidRsa2048 key)
    (hi : Built P key i) {k : PrivateKey} (ho : i.originIndexKeys o = some k)
    (hlast : ∀ h : o ≠ [], o.getLast h ≠ 0) {secret : Bytes}
    (hc : createRateLimitedClientFromSecret P secret = .ok c) {rand : ClientEntropy}
    {challenge nonce blindKeyEnc tokenKeyID : Bytes} {blindKey : PrivateKey}
    (hb : P.createKey blindKeyEnc = .ok blindKey) {st : RateLimitedTokenRequestState P}
    (hst : c.createTokenRequest P rand challenge nonce blindKeyEnc tokenKeyID i.publicTokenKey o
      i.publicNameKey = .ok st)
    (nameKeyID : Bytes) (sign rn : Entropy) :
    ∃ r s, P.blindKeySign sign c.secretKey blindKey (P.sha384 (signedOuterMessage P
        st.request.tokenKeyID nameKeyID st.request.encryptedTokenRequest)) = .ok (r, s) ∧
      ∃ out, i.evaluate P rn
        { st.request with nameKeyID := nameKeyID,
                          signature := toBigEndian 48 r ++ toBigEndian 48 s } = .ok out := by
  obtain ⟨hinv, hck, blindKey', _, hb', hs⟩ := createTokenRequest_sent_of_built hP hkey hi hc hst
  cases hb.symm.trans hb'
  have hko : i.originIndexKeys (unpadOriginName (padOriginName o)) = some k := by
    rw [unpadOriginName_padOriginName_of_getLast hlast, ho]
  obtain ⟨ct, bRKE, -, -, hwc, -⟩ := hs.evaluate hP hinv hko rn
  -- The client signs the new outer message with its blinded request key.
  obtain ⟨r, s, hsign, hr, hs', hverify⟩ :=
    hP.blindKeySign_ok sign c.secretKey blindKey _ hck hs.blindKey_valid
  have hrs := setBytes_signature hr hs'
  refine ⟨r, s, hsign, _, evaluate_of_evaluateWithoutCheck hs.decrypt
    (by simp [length_toBigEndian]) ?_ ((evaluateWithoutCheck_update _ _ _).trans hwc)⟩
  rw [hrs.1, hrs.2, hs.requestKey]
  exact hverify

theorem evaluate_accepts_any_nameKeyID_transparent :
    ∃ st, Transparent.client.createTokenRequest Transparent.primitives
        ⟨Transparent.constEntropy 0, Transparent.constEntropy 0, Transparent.constEntropy 0⟩
        [] (List.replicate 32 0) [] (List.replicate 32 0) Transparent.originIssuer.publicTokenKey [1]
        Transparent.originIssuer.publicNameKey = .ok st ∧
      ([] : Bytes) ≠ Transparent.primitives.sha256
        (Transparent.primitives.nameKeyEncoding Transparent.originIssuer.publicNameKey) ∧
      ∃ r s, Transparent.primitives.blindKeySign (Transparent.constEntropy 0)
          Transparent.client.secretKey ⟨⟨1, 0⟩, 1⟩
          (Transparent.primitives.sha384 (signedOuterMessage Transparent.primitives
            st.request.tokenKeyID [] st.request.encryptedTokenRequest)) = .ok (r, s) ∧
        ∃ out, Transparent.originIssuer.evaluate Transparent.primitives (Transparent.constEntropy 0)
          { st.request with nameKeyID := [],
                            signature := toBigEndian 48 r ++ toBigEndian 48 s } = .ok out := by
  obtain ⟨st, hst, -⟩ := Transparent.request_sent Transparent.originIssuer_built [1] (by decide)
  have hne : ([] : Bytes) ≠ Transparent.primitives.sha256
      (Transparent.primitives.nameKeyEncoding Transparent.originIssuer.publicNameKey) :=
    (List.ne_nil_of_length_pos (by rw [Transparent.lawful.length_sha256]; decide)).symm
  exact ⟨st, hst, hne, evaluate_accepts_any_nameKeyID Transparent.lawful Transparent.tokenKey_valid
    Transparent.originIssuer_built (o := [1]) (k := ⟨⟨1, 0⟩, 1⟩) rfl (fun _ => by simp)
    (Transparent.client_eq []) (rfl : Transparent.primitives.createKey [] = .ok ⟨⟨1, 0⟩, 1⟩) hst
    [] (Transparent.constEntropy 0) (Transparent.constEntropy 0)⟩

/-- With an origin whose padding exceeds the 16-bit length prefix, `CreateTokenRequest` reaches
the `BytesOrPanic` of `OriginTokenRequest.Marshal` and panics. -/
theorem createTokenRequest_of_lt (hP : P.Lawful) (hkey : P.ValidRsa2048 key)
    (hi : i.Invariant P key) (hc : P.ValidKey c.secretKey) {blindKeyEnc : Bytes}
    {blindKey : PrivateKey} (hb : P.createKey blindKeyEnc = .ok blindKey) {tokenKeyID : Bytes}
    (htid : 0 < tokenKeyID.length) (hpad : 0xFFFF < (padOriginName o).length)
    (rand : ClientEntropy) (challenge nonce : Bytes) :
    c.createTokenRequest P rand challenge nonce blindKeyEnc tokenKeyID key.publicKey o
        i.publicNameKey =
      .error (.panic (bytesOf ("cryptobyte: pending child length " ++
        toString (padOriginName o).length ++ " exceeds 2-byte length prefix"))) := by
  have hbk := hP.createKey_valid _ _ hb
  obtain ⟨rk, hrk, -⟩ := hP.marshalCompressed_ok _ (hP.scalarMult_onCurve _ _ (hP.isOnCurve_of_validKey hc) hbk.1 hbk.2.1)
  obtain ⟨bm, state, hblind, -⟩ := hP.blind_ok key rand.blind
    ({ tokenType := P.rateLimitedTokenType, nonce, context := P.sha256 challenge,
       keyID := tokenKeyID, authenticator := [] } : Token).authenticatorInput hkey
  obtain ⟨keyID, hid⟩ := index_zero_of_pos htid
  obtain ⟨enc, context, hS, -⟩ := hi.setupBaseS rand.encap (bytesOf "TokenRequest")
  simp [RateLimitedClient.createTokenRequest, hb, hP.blindPublicKey_eq _ _ (hP.isOnCurve_of_validKey hc) hbk, hrk, hblind,
    hid, encryptOriginTokenRequest_of_lt hS hpad]

/-- `CreateTokenRequest` is total on origins of at most 65504 bytes, and the request it returns
has the wire lengths of the spec: inside the encryption, a 256-byte blinded message, a 49-byte
request key and a padded origin of a positive multiple of 32 bytes; outside, a 32-byte
`nameKeyID` and a 96-byte signature. -/
theorem createTokenRequest_wire_lengths (hP : P.Lawful) (hkey : P.ValidRsa2048 key)
    (hi : Built P key i) {secret : Bytes} (hc : createRateLimitedClientFromSecret P secret = .ok c)
    {blindKeyEnc : Bytes} {blindKey : PrivateKey} (hb : P.createKey blindKeyEnc = .ok blindKey)
    {tokenKeyID : Bytes} (htid : tokenKeyID.length = 32) (ho : o.length ≤ 65504)
    (rand : ClientEntropy) (challenge nonce : Bytes) :
    ∃ st, c.createTokenRequest P rand challenge nonce blindKeyEnc tokenKeyID i.publicTokenKey o
        i.publicNameKey = .ok st ∧
      ∃ r : OriginTokenRequest, decryptOriginTokenRequest P i.nameKey st.request.tokenKeyID
          st.request.encryptedTokenRequest = .ok (r, st.encapSecret) ∧
        r.blindedMsg.length = 256 ∧ r.requestKey.length = 49 ∧
        r.paddedOrigin.length % 32 = 0 ∧ 0 < r.paddedOrigin.length ∧
        st.request.nameKeyID.length = 32 ∧ st.request.signature.length = 96 := by
  have hinv := hi.invariant hP
  have hck := hP.createKey_valid _ _ (createRateLimitedClientFromSecret_createKey hc)
  rw [RateLimitedIssuer.publicTokenKey, hinv.tokenKey]
  obtain ⟨st, hst⟩ := createTokenRequest_ok hP hkey hinv hck hb (by omega : 0 < tokenKeyID.length) ho rand
    challenge nonce
  obtain ⟨_, _, -, hs⟩ := createTokenRequest_sent hP hkey hinv hck hst
  obtain ⟨r, s, -, -, hsig, -⟩ := hs.signature
  have hpad := length_padOriginName_least o
  exact ⟨st, hst, _, hs.decrypt, hs.length_blindedMessage, hs.length_requestKey, hpad.1, hpad.2.1,
    by rw [hs.nameKeyID, hP.length_sha256], by simp [hsig]⟩

theorem createTokenRequest_wire_lengths_transparent :
    ∃ st, Transparent.client.createTokenRequest Transparent.primitives
        ⟨Transparent.constEntropy 0, Transparent.constEntropy 0, Transparent.constEntropy 0⟩
        [] (List.replicate 32 0) [] (List.replicate 32 0) Transparent.issuer.publicTokenKey [1]
        Transparent.issuer.publicNameKey = .ok st ∧
      ∃ r : OriginTokenRequest, decryptOriginTokenRequest Transparent.primitives
          Transparent.issuer.nameKey st.request.tokenKeyID st.request.encryptedTokenRequest =
          .ok (r, st.encapSecret) ∧
        r.blindedMsg.length = 256 ∧ r.requestKey.length = 49 ∧
        r.paddedOrigin.length % 32 = 0 ∧ 0 < r.paddedOrigin.length ∧
        st.request.nameKeyID.length = 32 ∧ st.request.signature.length = 96 :=
  createTokenRequest_wire_lengths Transparent.lawful Transparent.tokenKey_valid
    Transparent.issuer_built (Transparent.client_eq [])
    (rfl : Transparent.primitives.createKey [] = .ok ⟨⟨1, 0⟩, 1⟩) (List.length_replicate 32 0)
    (o := [1]) (by decide) _ [] (List.replicate 32 0)

/-- An origin of 65505 bytes pads to 65536 bytes, one more than the length prefix holds, and
`CreateTokenRequest` panics. -/
theorem createTokenRequest_long_origin_panics :
    ¬ ∀ o : Bytes, returns (Transparent.client.createTokenRequest Transparent.primitives
        ⟨Transparent.constEntropy 0, Transparent.constEntropy 0, Transparent.constEntropy 0⟩
        [] (List.replicate 32 0) [] (List.replicate 32 0) Transparent.tokenKey.publicKey o
        Transparent.issuer.publicNameKey) = true := by
  intro h
  have hpad : 0xFFFF < (padOriginName (List.replicate 65505 1)).length := by
    rw [length_padOriginName, List.length_replicate]
    decide
  have := h (List.replicate 65505 1)
  rw [createTokenRequest_of_lt Transparent.lawful Transparent.tokenKey_valid
    (Transparent.issuer_built.invariant Transparent.lawful)
    (Transparent.lawful.createKey_valid [] Transparent.client.secretKey rfl)
    (rfl : Transparent.primitives.createKey [] = .ok ⟨⟨1, 0⟩, 1⟩)
    (by decide : 0 < (List.replicate 32 (0 : UInt8)).length) hpad] at this
  exact Bool.false_ne_true this

end Robustness

end RateLimitedIssuance
