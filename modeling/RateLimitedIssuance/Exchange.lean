import RateLimitedIssuance.Transparent

namespace RateLimitedIssuance

/-- What the client's state holds after an honest `CreateTokenRequest` to issuer `i` for
origin `o`, with blind key `blindKey` and blinded message `blindedMessage`: the facts that
`Evaluate` and `FinalizeToken` rely on. -/
structure RateLimitedTokenRequestState.Sent (P : Primitives) (i : RateLimitedIssuer)
    (key : RsaPrivateKey) (c : RateLimitedClient) (o : Bytes) (blindKey : PrivateKey)
    (blindedMessage : Bytes) (st : RateLimitedTokenRequestState P) : Prop where
  blindKey_valid : P.ValidKey blindKey
  requestKey_onCurve : P.isOnCurve (P.scalarMult c.secretKey.publicKey blindKey.d) = true
  requestKey : P.unmarshalCompressed st.blindedRequestKey =
    some (P.scalarMult c.secretKey.publicKey blindKey.d)
  length_requestKey : st.blindedRequestKey.length = 49
  length_blindedMessage : blindedMessage.length = 256
  decrypt : decryptOriginTokenRequest P i.nameKey st.request.tokenKeyID
      st.request.encryptedTokenRequest =
    .ok ({ blindedMsg := blindedMessage, requestKey := st.blindedRequestKey,
           paddedOrigin := padOriginName o }, st.encapSecret)
  length_encryptedTokenRequest :
    i.nameKey.suite.kemPublicKeySize ≤ st.request.encryptedTokenRequest.length
  encapEnc : st.encapEnc = st.request.encryptedTokenRequest.take i.nameKey.suite.kemPublicKeySize
  nameKey : st.nameKey = i.publicNameKey
  verificationKey : st.verificationKey = key.publicKey
  nameKeyID : st.request.nameKeyID = P.sha256 (P.nameKeyEncoding i.publicNameKey)
  signature : ∃ r s, r < 2 ^ 384 ∧ s < 2 ^ 384 ∧
    st.request.signature = toBigEndian 48 r ++ toBigEndian 48 s ∧
    P.verify (some (P.scalarMult c.secretKey.publicKey blindKey.d))
      (P.sha384 (signedOuterMessage P st.request.tokenKeyID st.request.nameKeyID
        st.request.encryptedTokenRequest)) r s = .ok true
  blindSign : ∃ blindSignature, P.blindSign key blindedMessage = .ok blindSignature ∧
    ∃ sig, P.finalize st.verifier blindSignature = .ok sig ∧ sig.length = 256 ∧
      P.verifyPSS key.publicKey (P.sha384 st.tokenInput) sig = .ok ()

section Exchange

variable {P : Primitives} {key : RsaPrivateKey} {i : RateLimitedIssuer} {c : RateLimitedClient}
  {o : Bytes}

theorem encryptOriginTokenRequest_ok (hi : i.Invariant P key) (rand : Entropy) (keyID : UInt8)
    (blindedMessage requestKey : Bytes) (hpad : (padOriginName o).length ≤ 0xFFFF) :
    ∃ nameKeyID encryptedTokenRequest secret,
      encryptOriginTokenRequest P rand i.publicNameKey keyID blindedMessage requestKey o =
        .ok (nameKeyID, encryptedTokenRequest, secret) := by
  obtain ⟨enc, context, hS, -⟩ := hi.setupBaseS rand (bytesOf "TokenRequest")
  exact ⟨_, _, _, encryptOriginTokenRequest_eq hS hpad⟩

/-- HPKE at the request: the issuer opens what the client sealed to its name key, and both
sides export the same response secret. -/
theorem encryptOriginTokenRequest_decrypt (hi : i.Invariant P key) {rand : Entropy}
    {keyID : UInt8} {blindedMessage requestKey nameKeyID encryptedTokenRequest secret : Bytes}
    (hbm : blindedMessage.length = 256) (hrk : requestKey.length = 49)
    (h : encryptOriginTokenRequest P rand i.publicNameKey keyID blindedMessage requestKey o =
      .ok (nameKeyID, encryptedTokenRequest, secret)) :
    nameKeyID = P.sha256 (P.nameKeyEncoding i.publicNameKey) ∧
      i.nameKey.suite.kemPublicKeySize ≤ encryptedTokenRequest.length ∧
      decryptOriginTokenRequest P i.nameKey keyID encryptedTokenRequest =
        .ok ({ blindedMsg := blindedMessage, requestKey, paddedOrigin := padOriginName o },
          secret) := by
  obtain ⟨enc, context, hS, hpad, rfl, rfl, rfl⟩ := encryptOriginTokenRequest_inv h
  obtain ⟨enc', context', hS', henc, hR⟩ := hi.setupBaseS rand (bytesOf "TokenRequest")
  rw [hS', Except.ok.injEq, Prod.mk.injEq] at hS
  obtain ⟨rfl, rfl⟩ := hS
  refine ⟨rfl, by rw [List.length_append, henc]; exact Nat.le_add_right _ _,
    decryptOriginTokenRequest_eq henc hR (hi.suite.lawful.contextOpen_contextSeal _ _ _) ?_⟩
  simpa using OriginTokenRequest.unmarshal_encoding_append [] rfl hbm hrk hpad

/-- `CreateTokenRequest` to a built issuer returns a state, for every origin of at most 65504
bytes. -/
theorem createTokenRequest_ok (hP : P.Lawful) (hkey : P.ValidRsa2048 key)
    (hi : i.Invariant P key) (hc : P.ValidKey c.secretKey) {blindKeyEnc : Bytes}
    {blindKey : PrivateKey} (hb : P.createKey blindKeyEnc = .ok blindKey) {tokenKeyID : Bytes}
    (htid : 0 < tokenKeyID.length) (ho : o.length ≤ 65504) (rand : ClientEntropy)
    (challenge nonce : Bytes) :
    ∃ st, c.createTokenRequest P rand challenge nonce blindKeyEnc tokenKeyID key.publicKey o
      i.publicNameKey = .ok st := by
  have hbk := hP.createKey_valid _ _ hb
  have hQ := hP.scalarMult_onCurve _ _ (hP.isOnCurve_of_validKey hc) hbk.1 hbk.2.1
  obtain ⟨rk, hrk, hrklen, -⟩ := hP.marshalCompressed_ok _ hQ
  obtain ⟨bm, state, hblind, hbmlen, -⟩ := hP.blind_ok key rand.blind
    ({ tokenType := P.rateLimitedTokenType, nonce, context := P.sha256 challenge,
       keyID := tokenKeyID, authenticator := [] } : Token).authenticatorInput hkey
  obtain ⟨keyID, hid⟩ := index_zero_of_pos htid
  have hpad : (padOriginName o).length ≤ 0xFFFF := by rw [length_padOriginName]; split <;> omega
  obtain ⟨nameKeyID, etr, secret, hencrypt⟩ :=
    encryptOriginTokenRequest_ok hi rand.encap keyID bm rk hpad
  have hlen := (encryptOriginTokenRequest_decrypt hi hbmlen hrklen hencrypt).2.1
  obtain ⟨r, s, hsign, hr, hs, -⟩ := hP.blindKeySign_ok rand.sign c.secretKey blindKey
    (P.sha384 (signedOuterMessage P keyID nameKeyID etr)) hc hbk
  exact ⟨_, createTokenRequest_eq hb (hP.blindPublicKey_eq _ _ (hP.isOnCurve_of_validKey hc) hbk) hrk hblind hid hencrypt
    hsign hr hs hlen⟩

/-- The client half: a state that `CreateTokenRequest` returned for the issuer's keys is
`Sent` for some blind key and blinded message. -/
theorem createTokenRequest_sent (hP : P.Lawful) (hkey : P.ValidRsa2048 key)
    (hi : i.Invariant P key) (hc : P.ValidKey c.secretKey) {rand : ClientEntropy}
    {challenge nonce blindKeyEnc tokenKeyID : Bytes} {st : RateLimitedTokenRequestState P}
    (h : c.createTokenRequest P rand challenge nonce blindKeyEnc tokenKeyID key.publicKey o
      i.publicNameKey = .ok st) :
    ∃ blindKey blindedMessage, P.createKey blindKeyEnc = .ok blindKey ∧
      st.Sent P i key c o blindKey blindedMessage := by
  obtain ⟨blindKey, bPK, bm, keyID, nameKeyID, etr, r, s, hk, hb, he, -, hrsa, -, hencrypt, hsign,
    -, -, -, hreq, henc, hnk, hvk⟩ := createTokenRequest_inv h
  obtain ⟨tokenInput, bRK, request, encapSecret, encapEnc, nameKey, verificationKey, verifier⟩ := st
  dsimp only at *
  subst hreq henc hnk hvk
  have hbk := hP.createKey_valid _ _ hk
  have hQ := hP.scalarMult_onCurve _ _ (hP.isOnCurve_of_validKey hc) hbk.1 hbk.2.1
  rw [hP.blindPublicKey_eq _ _ (hP.isOnCurve_of_validKey hc) hbk, Except.ok.injEq] at hb
  subst hb
  obtain ⟨rk, hrk, hrklen, hrkQ⟩ := hP.marshalCompressed_ok _ hQ
  rw [hrk, Except.ok.injEq] at he
  subst he
  obtain ⟨bm', state, hblind, hbmlen, hsig⟩ := hP.blind_ok key rand.blind tokenInput hkey
  rw [hblind, Except.ok.injEq, Prod.mk.injEq] at hrsa
  obtain ⟨rfl, rfl⟩ := hrsa
  obtain ⟨hn, hlen, hdec⟩ := encryptOriginTokenRequest_decrypt hi hbmlen hrklen hencrypt
  obtain ⟨r', s', hsign', hr, hs, hverify⟩ := hP.blindKeySign_ok rand.sign c.secretKey blindKey
    (P.sha384 (signedOuterMessage P keyID nameKeyID etr)) hc hbk
  rw [hsign', Except.ok.injEq, Prod.mk.injEq] at hsign
  obtain ⟨rfl, rfl⟩ := hsign
  exact ⟨blindKey, bm', hk, hbk, hQ, hrkQ, hrklen, hbmlen, hdec, hlen, rfl, rfl, rfl, hn,
    ⟨r', s', hr, hs, rfl, hverify⟩, hsig⟩

/-- The client half from the public API: a client from `CreateRateLimitedClientFromSecret`
whose request to a built issuer returned a state has sent it. -/
theorem createTokenRequest_sent_of_built (hP : P.Lawful) (hkey : P.ValidRsa2048 key)
    (hi : Built P key i) {secret : Bytes} (hc : createRateLimitedClientFromSecret P secret = .ok c)
    {rand : ClientEntropy} {challenge nonce blindKeyEnc tokenKeyID : Bytes}
    {st : RateLimitedTokenRequestState P}
    (h : c.createTokenRequest P rand challenge nonce blindKeyEnc tokenKeyID i.publicTokenKey o
      i.publicNameKey = .ok st) :
    i.Invariant P key ∧ P.ValidKey c.secretKey ∧ ∃ blindKey blindedMessage,
      P.createKey blindKeyEnc = .ok blindKey ∧ st.Sent P i key c o blindKey blindedMessage := by
  have hinv := hi.invariant hP
  have hck := hP.createKey_valid _ _ (createRateLimitedClientFromSecret_createKey hc)
  rw [RateLimitedIssuer.publicTokenKey, hinv.tokenKey] at h
  exact ⟨hinv, hck, createTokenRequest_sent hP hkey hinv hck h⟩

theorem Transparent.request_sent {i : RateLimitedIssuer}
    (hi : Built Transparent.primitives Transparent.tokenKey i) (o : Bytes) (ho : o.length ≤ 65504) :
    ∃ st, Transparent.client.createTokenRequest Transparent.primitives
        ⟨Transparent.constEntropy 0, Transparent.constEntropy 0, Transparent.constEntropy 0⟩
        [] (List.replicate 32 0) [] (List.replicate 32 0) Transparent.tokenKey.publicKey o
        i.publicNameKey = .ok st ∧
      ∃ blindKey blindedMessage, Transparent.primitives.createKey [] = .ok blindKey ∧
        st.Sent Transparent.primitives i Transparent.tokenKey Transparent.client o blindKey
          blindedMessage := by
  have hinv := hi.invariant Transparent.lawful
  have hc := Transparent.lawful.createKey_valid [] Transparent.client.secretKey rfl
  obtain ⟨st, hst⟩ := createTokenRequest_ok Transparent.lawful Transparent.tokenKey_valid hinv hc
    (rfl : Transparent.primitives.createKey [] = .ok ⟨⟨1, 0⟩, 1⟩)
    (by decide : 0 < (List.replicate 32 (0 : UInt8)).length) ho _ [] (List.replicate 32 0)
  exact ⟨st, hst, createTokenRequest_sent Transparent.lawful Transparent.tokenKey_valid hinv hc hst⟩

theorem Transparent.originIssuer_originIndexKeys :
    Transparent.originIssuer.originIndexKeys (unpadOriginName (padOriginName [1])) =
      some ⟨⟨1, 0⟩, 1⟩ := by
  rw [unpadOriginName_padOriginName_of_getLast (fun _ => by simp)]
  rfl

variable {blindKey : PrivateKey} {blindedMessage : Bytes} {st : RateLimitedTokenRequestState P}

/-- `Evaluate` and `EvaluateWithoutCheck` accept a sent request for an origin whose padding
unpads to a registered one, blind the request key by that origin's index key, and seal the
blind signature under the response key both sides derive. -/
theorem RateLimitedTokenRequestState.Sent.evaluate (hP : P.Lawful) (hi : i.Invariant P key)
    (hs : st.Sent P i key c o blindKey blindedMessage) {k : PrivateKey}
    (hk : i.originIndexKeys (unpadOriginName (padOriginName o)) = some k) (rn : Entropy) :
    ∃ ct blindedRequestKeyEnc blindSignature,
      i.evaluate P rn st.request =
        .ok (randRead rn (max i.nameKey.suite.aeadKeySize i.nameKey.suite.aeadNonceSize) ++ ct,
          blindedRequestKeyEnc) ∧
      i.evaluateWithoutCheck P rn st.request = .ok (ct, blindedRequestKeyEnc) ∧
      P.marshalCompressed (some (P.scalarMult (P.scalarMult c.secretKey.publicKey blindKey.d)
        k.d)) = .ok blindedRequestKeyEnc ∧
      P.blindSign key blindedMessage = .ok blindSignature ∧
      i.nameKey.suite.aeadOpen (i.responseKeys rn st.request st.encapSecret).1
        (i.responseKeys rn st.request st.encapSecret).2 ct [] = .ok blindSignature := by
  obtain ⟨r, s, hr, hs', hsig, hverify⟩ := hs.signature
  obtain ⟨bs, hbs, -⟩ := hs.blindSign
  have hkv := hi.originIndexKeys _ _ hk
  have hblind := hP.blindPublicKey_eq _ _ hs.requestKey_onCurve hkv
  obtain ⟨bRKE, hm, -⟩ := hP.marshalCompressed_ok _
    (hP.scalarMult_onCurve _ _ hs.requestKey_onCurve hkv.1 hkv.2.1)
  obtain ⟨ct, hseal, hopen⟩ := hi.suite.lawful.aeadOpen_aeadSeal _ _ bs []
    (hi.suite.lawful.length_expand _ _ _) (hi.suite.lawful.length_expand _ _ _)
  have hsign : P.blindSign i.tokenKey blindedMessage = .ok bs := by rw [hi.tokenKey]; exact hbs
  have hrs := setBytes_signature hr hs'
  refine ⟨ct, bRKE, bs, evaluate_eq hs.decrypt hk (by rw [hsig]; simp) ?_ ?_ hm hsign
    hs.length_encryptedTokenRequest hseal, evaluateWithoutCheck_eq hs.decrypt hk ?_ hm hsign
    hs.length_encryptedTokenRequest hseal, hm, hbs, hopen⟩
  · rw [hsig, hrs.1, hrs.2, hs.requestKey]
    exact hverify
  all_goals rw [hs.requestKey]; exact hblind

/-- `FinalizeToken` opens an honest response to the blind signature and finalizes it to the
token whose authenticator input is the state's `tokenInput`. -/
theorem RateLimitedTokenRequestState.Sent.finalizeToken (hP : P.Lawful)
    (hs : st.Sent P i key c o blindKey blindedMessage) {t : Token}
    (ht : st.tokenInput = t.authenticatorInput) (htype : t.tokenType = P.rateLimitedTokenType)
    (hn : t.nonce.length = 32) (hcx : t.context.length = 32) (hk : t.keyID.length = 32)
    {rn : Entropy} {ct blindSignature : Bytes}
    (hopen : i.nameKey.suite.aeadOpen (i.responseKeys rn st.request st.encapSecret).1
      (i.responseKeys rn st.request st.encapSecret).2 ct [] = .ok blindSignature)
    (hbs : P.blindSign key blindedMessage = .ok blindSignature) :
    ∃ sig, st.finalizeToken P
        (randRead rn (max i.nameKey.suite.aeadKeySize i.nameKey.suite.aeadNonceSize) ++ ct) =
        .ok { t with authenticator := sig } ∧
      P.verifyPSS key.publicKey (P.sha384 t.authenticatorInput) sig = .ok () := by
  obtain ⟨bs, hbs', sig, hfin, hsiglen, hverify⟩ := hs.blindSign
  rw [hbs, Except.ok.injEq] at hbs'
  subst hbs'
  have hsuite : st.nameKey.suite = i.nameKey.suite := by rw [hs.nameKey]; rfl
  have hm := length_randRead rn (max i.nameKey.suite.aeadKeySize i.nameKey.suite.aeadNonceSize)
  refine ⟨sig, finalizeToken_eq ?_ ?_ hfin ?_ ?_, ht ▸ hverify⟩
  · rw [hsuite, List.length_append, hm]
    exact Nat.le_add_right _ _
  · rw [hsuite, List.take_left' hm, List.drop_left' hm, hs.encapEnc]
    exact hopen
  · rw [ht]
    exact hP.unmarshalToken_append t sig htype hn hcx hk hsiglen
  · rw [hs.verificationKey, show ({ t with authenticator := sig } : Token).authenticatorInput =
      st.tokenInput from ht.symm]
    exact hverify

/-- Issuance round trip: a client that asks a built issuer for a token for a registered
origin (empty or ending in a nonzero byte, at most 65504 bytes) gets a response from
`Evaluate` that `FinalizeToken` turns into a token for the challenge, the nonce and the
issuer's key ID, whose authenticator passes RSA-PSS verification under the issuer's key. -/
theorem issuance_round_trip (hP : P.Lawful) (hkey : P.ValidRsa2048 key) (hi : Built P key i)
    {k : PrivateKey} (ho : i.originIndexKeys o = some k) (hlast : ∀ h : o ≠ [], o.getLast h ≠ 0)
    (hlen : o.length ≤ 65504) {secret : Bytes} (hc : createRateLimitedClientFromSecret P secret = .ok c)
    {blindKeyEnc : Bytes} {blindKey : PrivateKey} (hb : P.createKey blindKeyEnc = .ok blindKey)
    (challenge : Bytes) {nonce : Bytes} (hnonce : nonce.length = 32) (rand : ClientEntropy)
    (rn : Entropy) :
    ∃ tokenKeyID, i.tokenKeyID P = .ok tokenKeyID ∧
      ∃ st, c.createTokenRequest P rand challenge nonce blindKeyEnc tokenKeyID i.publicTokenKey o
          i.publicNameKey = .ok st ∧
        ∃ response blindedRequestKeyEnc,
          i.evaluate P rn st.request = .ok (response, blindedRequestKeyEnc) ∧
          ∃ token, st.finalizeToken P response = .ok token ∧
            token.tokenType = P.rateLimitedTokenType ∧ token.nonce = nonce ∧
            token.context = P.sha256 challenge ∧ token.keyID = tokenKeyID ∧
            token.authenticatorInput = st.tokenInput ∧
            P.verifyPSS i.publicTokenKey (P.sha384 token.authenticatorInput) token.authenticator =
              .ok () := by
  have hinv := hi.invariant hP
  have hck := hP.createKey_valid _ _ (createRateLimitedClientFromSecret_createKey hc)
  have htk : i.publicTokenKey = key.publicKey := by rw [RateLimitedIssuer.publicTokenKey, hinv.tokenKey]
  rw [htk]
  -- The issuer's token key ID.
  obtain ⟨pkEnc, hpk⟩ := hP.marshalTokenKeyPSSOID_ok key hkey
  have htid : i.tokenKeyID P = .ok (P.sha256 pkEnc) := by
    simp [RateLimitedIssuer.tokenKeyID, htk, hpk]
  have htidlen := hP.length_sha256 pkEnc
  -- Client: the request.
  obtain ⟨st, hst⟩ := createTokenRequest_ok hP hkey hinv hck hb
    (by rw [htidlen]; decide : 0 < (P.sha256 pkEnc).length) hlen rand challenge nonce
  obtain ⟨-, -, -, -, -, -, -, -, -, -, -, htok, -⟩ := createTokenRequest_inv hst
  obtain ⟨blindKey', bm, -, hs⟩ := createTokenRequest_sent hP hkey hinv hck hst
  -- Issuer: the response.
  have hko : i.originIndexKeys (unpadOriginName (padOriginName o)) = some k := by
    rw [unpadOriginName_padOriginName_of_getLast hlast, ho]
  obtain ⟨ct, bRKE, bs, hev, -, -, hbs, hopen⟩ := hs.evaluate hP hinv hko rn
  -- Client: the token.
  obtain ⟨sig, hfin, hver⟩ := hs.finalizeToken hP htok rfl hnonce (hP.length_sha256 _) htidlen
    hopen hbs
  exact ⟨_, htid, st, hst, _, bRKE, hev, _, hfin, rfl, rfl, rfl, rfl, htok.symm, hver⟩

theorem issuance_round_trip_transparent :
    Transparent.primitives.Lawful ∧ Transparent.primitives.ValidRsa2048 Transparent.tokenKey ∧
      Built Transparent.primitives Transparent.tokenKey Transparent.originIssuer ∧
      ∃ tokenKeyID, Transparent.originIssuer.tokenKeyID Transparent.primitives = .ok tokenKeyID ∧
      ∃ st, Transparent.client.createTokenRequest Transparent.primitives
          ⟨Transparent.constEntropy 0, Transparent.constEntropy 0, Transparent.constEntropy 0⟩
          [] (List.replicate 32 0) [] tokenKeyID Transparent.originIssuer.publicTokenKey [1]
          Transparent.originIssuer.publicNameKey = .ok st ∧
        ∃ response blindedRequestKeyEnc,
          Transparent.originIssuer.evaluate Transparent.primitives (Transparent.constEntropy 0)
            st.request = .ok (response, blindedRequestKeyEnc) ∧
          ∃ token, st.finalizeToken Transparent.primitives response = .ok token ∧
            token.tokenType = Transparent.primitives.rateLimitedTokenType ∧
            token.nonce = List.replicate 32 0 ∧
            token.context = Transparent.primitives.sha256 [] ∧ token.keyID = tokenKeyID ∧
            token.authenticatorInput = st.tokenInput ∧
            Transparent.primitives.verifyPSS Transparent.originIssuer.publicTokenKey
              (Transparent.primitives.sha384 token.authenticatorInput) token.authenticator =
              .ok () :=
  ⟨Transparent.lawful, Transparent.tokenKey_valid, Transparent.originIssuer_built,
    issuance_round_trip Transparent.lawful Transparent.tokenKey_valid
      Transparent.originIssuer_built (o := [1]) (k := ⟨⟨1, 0⟩, 1⟩) rfl (fun _ => by simp) (by decide)
      (Transparent.client_eq []) rfl [] (List.length_replicate 32 0) _ _⟩

/-- `EvaluateWithoutCheck` returns the sealed blind signature without the response nonce that
`Evaluate` puts in front of it: on every request `Evaluate` accepts, the two results differ by
exactly that prefix. -/
theorem evaluateWithoutCheck_omits_response_nonce {rand : Entropy}
    {req : RateLimitedTokenRequest} {out : Bytes × Bytes} (h : i.evaluate P rand req = .ok out)
    (hn : 0 < max i.nameKey.suite.aeadKeySize i.nameKey.suite.aeadNonceSize) :
    ∃ ct, out.1 = randRead rand (max i.nameKey.suite.aeadKeySize i.nameKey.suite.aeadNonceSize) ++
        ct ∧
      i.evaluateWithoutCheck P rand req = .ok (ct, out.2) ∧
      i.evaluateWithoutCheck P rand req ≠ .ok out := by
  obtain ⟨otr, secret, k, bRK, bs, ct, hdec, hk, -, -, hblind, hm, hsign, hlen, hseal, hout⟩ :=
    evaluate_inv h
  have hwc := evaluateWithoutCheck_eq hdec hk hblind hm hsign hlen hseal
  refine ⟨ct, hout, hwc, fun heq => ?_⟩
  rw [hwc, Except.ok.injEq] at heq
  have hct := congrArg List.length (congrArg Prod.fst heq)
  simp only [hout, List.length_append, length_randRead] at hct
  omega

theorem evaluateWithoutCheck_omits_response_nonce_transparent :
    ∃ (req : RateLimitedTokenRequest) (out : Bytes × Bytes),
      Transparent.originIssuer.evaluate Transparent.primitives (Transparent.constEntropy 0) req =
        .ok out ∧
      0 < max Transparent.originIssuer.nameKey.suite.aeadKeySize
        Transparent.originIssuer.nameKey.suite.aeadNonceSize ∧
      ∃ ct, out.1 = randRead (Transparent.constEntropy 0)
          (max Transparent.originIssuer.nameKey.suite.aeadKeySize
            Transparent.originIssuer.nameKey.suite.aeadNonceSize) ++ ct ∧
        Transparent.originIssuer.evaluateWithoutCheck Transparent.primitives
          (Transparent.constEntropy 0) req = .ok (ct, out.2) ∧
        Transparent.originIssuer.evaluateWithoutCheck Transparent.primitives
          (Transparent.constEntropy 0) req ≠ .ok out := by
  obtain ⟨st, -, _, _, -, hs⟩ :=
    Transparent.request_sent Transparent.originIssuer_built [1] (by decide)
  obtain ⟨_, _, _, hev, -⟩ := hs.evaluate Transparent.lawful
    (Transparent.originIssuer_built.invariant Transparent.lawful)
    Transparent.originIssuer_originIndexKeys (Transparent.constEntropy 0)
  exact ⟨st.request, _, hev, by decide, evaluateWithoutCheck_omits_response_nonce hev (by decide)⟩

/-- `Evaluate` is exactly `EvaluateWithoutCheck` behind the request-signature check: it answers
with the response nonce followed by `ct`, and the blinded key `b`, if and only if
`EvaluateWithoutCheck` answers with `ct` and `b`, the signature holds at least one 48-byte
scalar, and it verifies under the decrypted request key over the request's outer message. -/
theorem evaluate_eq_ok_iff {rand : Entropy} {req : RateLimitedTokenRequest}
    {ct blindedRequestKeyEnc : Bytes} :
    i.evaluate P rand req =
        .ok (randRead rand (max i.nameKey.suite.aeadKeySize i.nameKey.suite.aeadNonceSize) ++ ct,
          blindedRequestKeyEnc) ↔
      i.evaluateWithoutCheck P rand req = .ok (ct, blindedRequestKeyEnc) ∧
        48 ≤ req.signature.length ∧
        ∃ originTokenRequest secret,
          decryptOriginTokenRequest P i.nameKey req.tokenKeyID req.encryptedTokenRequest =
            .ok (originTokenRequest, secret) ∧
          P.verify (P.unmarshalCompressed originTokenRequest.requestKey)
            (P.sha384 (signedOuterMessage P req.tokenKeyID req.nameKeyID req.encryptedTokenRequest))
            (setBytes (req.signature.take 48)) (setBytes (req.signature.drop 48)) = .ok true := by
  constructor
  · intro h
    obtain ⟨otr, secret, k, bRK, bs, ct', hdec, hk, hsig, hverify, hblind, hm, hsign, hlen, hseal,
      hout⟩ := evaluate_inv h
    obtain rfl : ct = ct' := List.append_cancel_left hout
    exact ⟨evaluateWithoutCheck_eq hdec hk hblind hm hsign hlen hseal, hsig, otr, secret, hdec,
      hverify⟩
  · rintro ⟨hwc, hsig, otr, secret, hdec, hverify⟩
    exact evaluate_of_evaluateWithoutCheck hdec hsig hverify hwc

end Exchange

end RateLimitedIssuance
