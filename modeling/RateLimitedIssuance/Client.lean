import RateLimitedIssuance.Primitives

namespace RateLimitedIssuance

/-- `labelResponseKey`. -/
def labelResponseKey : Bytes := bytesOf "key"

/-- `labelResponseNonce`. -/
def labelResponseNonce : Bytes := bytesOf "nonce"

/-- The file's `max`. -/
def max (a b : Nat) : Nat := if a > b then a else b

/-- The response key and nonce, derived the same way in `FinalizeToken`, `Evaluate` and
`EvaluateWithoutCheck`: `prk = Extract(enc ‖ response_nonce, secret)`,
`key = Expand(prk, "key", Nk)`, `nonce = Expand(prk, "nonce", Nn)`. -/
def CipherSuite.responseKeys (suite : CipherSuite) (enc responseNonce secret : Bytes) :
    Bytes × Bytes :=
  let prk := suite.extract (enc ++ responseNonce) secret
  (suite.expand prk labelResponseKey suite.aeadKeySize,
    suite.expand prk labelResponseNonce suite.aeadNonceSize)

section Client

variable (P : Primitives)

/-- The AAD `encryptOriginTokenRequest` builds. -/
def encryptOriginTokenRequestAad (nameKey : PublicNameKey) (tokenKeyID : UInt8)
    (issuerKeyID : Bytes) : Builder :=
  Builder.new.addUint8 nameKey.id |>.addUint16 nameKey.suite.kemID
    |>.addUint16 nameKey.suite.kdfID |>.addUint16 nameKey.suite.aeadID
    |>.addUint16 P.rateLimitedTokenType |>.addUint8 tokenKeyID |>.addBytes issuerKeyID

/-- The AAD as the spec lays it out: `id ‖ kem ‖ kdf ‖ aead ‖ tokenType ‖ tokenKeyID ‖ configID`. -/
def hpkeAad (id : UInt8) (suite : CipherSuite) (tokenKeyID : UInt8) (configID : Bytes) : Bytes :=
  [id] ++ toBigEndian 2 suite.kemID.toNat ++ toBigEndian 2 suite.kdfID.toNat ++
    toBigEndian 2 suite.aeadID.toNat ++ toBigEndian 2 P.rateLimitedTokenType.toNat ++
    [tokenKeyID] ++ configID

theorem encryptOriginTokenRequestAad_bytesOrPanic (nameKey : PublicNameKey) (tokenKeyID : UInt8)
    (issuerKeyID : Bytes) :
    (encryptOriginTokenRequestAad P nameKey tokenKeyID issuerKeyID).bytesOrPanic =
      .ok (hpkeAad P nameKey.id nameKey.suite tokenKeyID issuerKeyID) := by
  simp [encryptOriginTokenRequestAad, hpkeAad]

/-- `encryptOriginTokenRequest`, returning `(nameKeyID, encryptedTokenRequest, secret)`. -/
def encryptOriginTokenRequest (rand : Entropy) (nameKey : PublicNameKey) (tokenKeyID : UInt8)
    (blindedMessage requestKey originName : Bytes) : Go (Bytes × Bytes × Bytes) := do
  let issuerKeyID := P.sha256 (P.nameKeyEncoding nameKey)
  let (enc, context) ← nameKey.suite.setupBaseS rand nameKey.publicKey (bytesOf "TokenRequest")
  let tokenRequest : OriginTokenRequest :=
    { blindedMsg := blindedMessage, requestKey, paddedOrigin := padOriginName originName }
  let input ← tokenRequest.marshal
  let aad ← (encryptOriginTokenRequestAad P nameKey tokenKeyID issuerKeyID).bytesOrPanic
  let ct := nameKey.suite.contextSeal context aad input
  let secret := nameKey.suite.contextExport context (bytesOf "OriginTokenResponse")
    nameKey.suite.aeadKeySize
  return (issuerKeyID, enc ++ ct, secret)

/-- `RateLimitedTokenRequestState`, kept by the client between the request and the token. -/
structure RateLimitedTokenRequestState where
  tokenInput : Bytes
  blindedRequestKey : Bytes
  request : RateLimitedTokenRequest
  encapSecret : Bytes
  encapEnc : Bytes
  nameKey : PublicNameKey
  verificationKey : RsaPublicKey
  verifier : P.VerifierState

/-- `RateLimitedClient`, on P-384. -/
structure RateLimitedClient where
  secretKey : PrivateKey

/-- `CreateRateLimitedClientFromSecret`: it panics when `CreateKey` fails. -/
def createRateLimitedClientFromSecret (secret : Bytes) : Go RateLimitedClient := do
  let secretKey ← orPanic (P.createKey secret)
  return { secretKey }

/-- The reads of `CreateTokenRequest` from `rand.Reader`: by `Blind`, by `SetupBaseS` and by
`BlindKeySign`. -/
structure ClientEntropy where
  blind : Entropy
  encap : Entropy
  sign : Entropy

/-- The signed outer message `CreateTokenRequest` builds. -/
def createTokenRequestMessage (tokenKeyID : UInt8) (nameKeyID encryptedTokenRequest : Bytes) :
    Builder :=
  Builder.new.addUint16 P.rateLimitedTokenType |>.addUint8 tokenKeyID |>.addBytes nameKeyID
    |>.addBytes encryptedTokenRequest

/-- The signed outer message as the spec lays it out:
`tokenType ‖ tokenKeyID ‖ nameKeyID ‖ encryptedTokenRequest`. -/
def signedOuterMessage (tokenKeyID : UInt8) (nameKeyID encryptedTokenRequest : Bytes) : Bytes :=
  toBigEndian 2 P.rateLimitedTokenType.toNat ++ [tokenKeyID] ++ nameKeyID ++ encryptedTokenRequest

theorem createTokenRequestMessage_bytesOrPanic (tokenKeyID : UInt8)
    (nameKeyID encryptedTokenRequest : Bytes) :
    (createTokenRequestMessage P tokenKeyID nameKeyID encryptedTokenRequest).bytesOrPanic =
      .ok (signedOuterMessage P tokenKeyID nameKeyID encryptedTokenRequest) := by
  simp [createTokenRequestMessage, signedOuterMessage]

/-- `RateLimitedClient.CreateTokenRequest`. -/
def RateLimitedClient.createTokenRequest (c : RateLimitedClient) (rand : ClientEntropy)
    (challenge nonce blindKeyEnc tokenKeyID : Bytes) (tokenKey : RsaPublicKey)
    (originName : Bytes) (nameKey : PublicNameKey) : Go (RateLimitedTokenRequestState P) := do
  let blindKey ← P.createKey blindKeyEnc
  let blindedPublicKey ← P.blindPublicKey (some c.secretKey.publicKey) blindKey
  let blindedPublicKeyEnc ← P.marshalCompressed blindedPublicKey
  let token : Token := { tokenType := P.rateLimitedTokenType, nonce, context := P.sha256 challenge,
                         keyID := tokenKeyID, authenticator := [] }
  let tokenInput := token.authenticatorInput
  let (blindedMessage, verifierState) ← P.blind tokenKey rand.blind tokenInput
  let keyID ← index tokenKeyID 0
  let (nameKeyID, encryptedTokenRequest, secret) ← encryptOriginTokenRequest P rand.encap nameKey
    keyID blindedMessage blindedPublicKeyEnc originName
  let message ← (createTokenRequestMessage P keyID nameKeyID encryptedTokenRequest).bytesOrPanic
  let (r, s) ← P.blindKeySign rand.sign c.secretKey blindKey (P.sha384 message)
  let scalarLen := (p384BitSize + 7) / 8
  let rEnc ← fillBytes r scalarLen
  let sEnc ← fillBytes s scalarLen
  let request : RateLimitedTokenRequest :=
    { tokenKeyID := keyID, nameKeyID, encryptedTokenRequest, signature := rEnc ++ sEnc }
  let encapEnc ← slice encryptedTokenRequest 0 nameKey.suite.kemPublicKeySize
  return { tokenInput, blindedRequestKey := blindedPublicKeyEnc, request, encapSecret := secret,
           encapEnc, nameKey, verificationKey := tokenKey, verifier := verifierState }

/-- `RateLimitedTokenRequestState.FinalizeToken`. -/
def RateLimitedTokenRequestState.finalizeToken (s : RateLimitedTokenRequestState P)
    (encryptedtokenResponse : Bytes) : Go Token := do
  let suite := s.nameKey.suite
  let responseNonceLen := max suite.aeadKeySize suite.aeadNonceSize
  let responseNonce ← slice encryptedtokenResponse 0 responseNonceLen
  let (key, nonce) := suite.responseKeys s.encapEnc responseNonce s.encapSecret
  let ct ← slice encryptedtokenResponse responseNonceLen encryptedtokenResponse.length
  let blindSignature ← suite.aeadOpen key nonce ct []
  let signature ← P.finalize s.verifier blindSignature
  let token ← P.unmarshalToken (s.tokenInput ++ signature)
  P.verifyPSS s.verificationKey (P.sha384 token.authenticatorInput) token.authenticator
  return token

/-- `computeIndex`: HKDF-SHA384 with secret `indexKey`, salt `clientKey`, 48 bytes. -/
def computeIndex (clientKey indexKey : Bytes) : Go Bytes :=
  P.hkdfSha384 indexKey clientKey (bytesOf "anon_issuer_origin_id") 48

/-- `FinalizeIndex`. -/
def finalizeIndex (clientKey blindEnc blindedRequestKeyEnc : Bytes) : Go Bytes := do
  let blindedRequestKey := P.unmarshalCompressed blindedRequestKeyEnc
  let blindKey ← P.createKey blindEnc
  let indexKey ← P.unblindPublicKey blindedRequestKey blindKey
  let indexKeyEnc ← P.marshalCompressed indexKey
  computeIndex P clientKey indexKeyEnc

variable {P}

theorem encryptOriginTokenRequest_eq {rand : Entropy} {nameKey : PublicNameKey}
    {tokenKeyID : UInt8} {blindedMessage requestKey originName enc context : Bytes}
    (hsetup : nameKey.suite.setupBaseS rand nameKey.publicKey (bytesOf "TokenRequest") =
      .ok (enc, context))
    (hpad : (padOriginName originName).length ≤ 0xFFFF) :
    encryptOriginTokenRequest P rand nameKey tokenKeyID blindedMessage requestKey originName =
      .ok (P.sha256 (P.nameKeyEncoding nameKey),
        enc ++ nameKey.suite.contextSeal context
          (hpkeAad P nameKey.id nameKey.suite tokenKeyID (P.sha256 (P.nameKeyEncoding nameKey)))
          ({ blindedMsg := blindedMessage, requestKey,
             paddedOrigin := padOriginName originName } : OriginTokenRequest).encoding,
        nameKey.suite.contextExport context (bytesOf "OriginTokenResponse")
          nameKey.suite.aeadKeySize) := by
  simp [encryptOriginTokenRequest, hsetup, OriginTokenRequest.marshal_mk hpad,
    encryptOriginTokenRequestAad_bytesOrPanic]

theorem encryptOriginTokenRequest_of_lt {rand : Entropy} {nameKey : PublicNameKey}
    {tokenKeyID : UInt8} {blindedMessage requestKey originName enc context : Bytes}
    (hsetup : nameKey.suite.setupBaseS rand nameKey.publicKey (bytesOf "TokenRequest") =
      .ok (enc, context))
    (hpad : 0xFFFF < (padOriginName originName).length) :
    encryptOriginTokenRequest P rand nameKey tokenKeyID blindedMessage requestKey originName =
      .error (.panic (bytesOf ("cryptobyte: pending child length " ++
        toString (padOriginName originName).length ++ " exceeds 2-byte length prefix"))) := by
  simp [encryptOriginTokenRequest, hsetup, OriginTokenRequest.marshal_mk_of_lt hpad]

theorem encryptOriginTokenRequest_inv {rand : Entropy} {nameKey : PublicNameKey}
    {tokenKeyID : UInt8} {blindedMessage requestKey originName nameKeyID encryptedTokenRequest
      secret : Bytes}
    (h : encryptOriginTokenRequest P rand nameKey tokenKeyID blindedMessage requestKey originName =
      .ok (nameKeyID, encryptedTokenRequest, secret)) :
    ∃ enc context, nameKey.suite.setupBaseS rand nameKey.publicKey (bytesOf "TokenRequest") =
        .ok (enc, context) ∧
      (padOriginName originName).length ≤ 0xFFFF ∧
      nameKeyID = P.sha256 (P.nameKeyEncoding nameKey) ∧
      encryptedTokenRequest = enc ++ nameKey.suite.contextSeal context
        (hpkeAad P nameKey.id nameKey.suite tokenKeyID (P.sha256 (P.nameKeyEncoding nameKey)))
        ({ blindedMsg := blindedMessage, requestKey,
           paddedOrigin := padOriginName originName } : OriginTokenRequest).encoding ∧
      secret = nameKey.suite.contextExport context (bytesOf "OriginTokenResponse")
        nameKey.suite.aeadKeySize := by
  cases hS : nameKey.suite.setupBaseS rand nameKey.publicKey (bytesOf "TokenRequest") with
  | error e => simp [encryptOriginTokenRequest, hS] at h
  | ok ec =>
    by_cases hpad : (padOriginName originName).length ≤ 0xFFFF
    · rw [encryptOriginTokenRequest_eq hS hpad, Except.ok.injEq, Prod.mk.injEq, Prod.mk.injEq] at h
      obtain ⟨rfl, rfl, rfl⟩ := h
      exact ⟨ec.1, ec.2, rfl, hpad, rfl, rfl, rfl⟩
    · rw [encryptOriginTokenRequest_of_lt hS (by omega)] at h
      cases h

theorem createRateLimitedClientFromSecret_createKey {secret : Bytes} {c : RateLimitedClient}
    (h : createRateLimitedClientFromSecret P secret = .ok c) : P.createKey secret = .ok c.secretKey := by
  cases hk : P.createKey secret with
  | ok k =>
    simp only [createRateLimitedClientFromSecret, hk, orPanic_ok, ok_bind, pure_eq_ok,
      Except.ok.injEq] at h
    rw [← h]
  | error e => cases e <;> simp [createRateLimitedClientFromSecret, hk, orPanic] at h

theorem createTokenRequest_eq {c : RateLimitedClient} {rand : ClientEntropy}
    {challenge nonce blindKeyEnc tokenKeyID originName : Bytes} {tokenKey : RsaPublicKey}
    {nameKey : PublicNameKey} {blindKey : PrivateKey} {blindedPublicKey : Option Point}
    {blindedPublicKeyEnc blindedMessage nameKeyID encryptedTokenRequest secret : Bytes}
    {verifierState : P.VerifierState} {keyID : UInt8} {r s : Nat}
    (hkey : P.createKey blindKeyEnc = .ok blindKey)
    (hblind : P.blindPublicKey (some c.secretKey.publicKey) blindKey = .ok blindedPublicKey)
    (henc : P.marshalCompressed blindedPublicKey = .ok blindedPublicKeyEnc)
    (hrsa : P.blind tokenKey rand.blind
      ({ tokenType := P.rateLimitedTokenType, nonce, context := P.sha256 challenge,
         keyID := tokenKeyID, authenticator := [] } : Token).authenticatorInput =
        .ok (blindedMessage, verifierState))
    (hid : index tokenKeyID 0 = .ok keyID)
    (hencrypt : encryptOriginTokenRequest P rand.encap nameKey keyID blindedMessage
      blindedPublicKeyEnc originName = .ok (nameKeyID, encryptedTokenRequest, secret))
    (hsign : P.blindKeySign rand.sign c.secretKey blindKey
      (P.sha384 (signedOuterMessage P keyID nameKeyID encryptedTokenRequest)) = .ok (r, s))
    (hr : r < 2 ^ 384) (hs : s < 2 ^ 384)
    (hlen : nameKey.suite.kemPublicKeySize ≤ encryptedTokenRequest.length) :
    c.createTokenRequest P rand challenge nonce blindKeyEnc tokenKeyID tokenKey originName nameKey =
      .ok { tokenInput := ({ tokenType := P.rateLimitedTokenType, nonce,
                             context := P.sha256 challenge, keyID := tokenKeyID,
                             authenticator := [] } : Token).authenticatorInput,
            blindedRequestKey := blindedPublicKeyEnc,
            request := { tokenKeyID := keyID, nameKeyID, encryptedTokenRequest,
                         signature := toBigEndian 48 r ++ toBigEndian 48 s },
            encapSecret := secret,
            encapEnc := encryptedTokenRequest.take nameKey.suite.kemPublicKeySize,
            nameKey, verificationKey := tokenKey, verifier := verifierState } := by
  have h48 : (p384BitSize + 7) / 8 = 48 := rfl
  simp only [RateLimitedClient.createTokenRequest, hkey, ok_bind, hblind, henc, hrsa, hid,
    hencrypt, createTokenRequestMessage_bytesOrPanic, hsign, h48,
    fillBytes_of_lt (two_pow_384 ▸ hr), fillBytes_of_lt (two_pow_384 ▸ hs),
    slice_of_le (Nat.zero_le _) hlen, List.drop_zero]
  rfl

theorem createTokenRequest_inv {c : RateLimitedClient} {rand : ClientEntropy}
    {challenge nonce blindKeyEnc tokenKeyID originName : Bytes} {tokenKey : RsaPublicKey}
    {nameKey : PublicNameKey} {st : RateLimitedTokenRequestState P}
    (h : c.createTokenRequest P rand challenge nonce blindKeyEnc tokenKeyID tokenKey originName
      nameKey = .ok st) :
    ∃ blindKey blindedPublicKey blindedMessage keyID nameKeyID encryptedTokenRequest r s,
      P.createKey blindKeyEnc = .ok blindKey ∧
      P.blindPublicKey (some c.secretKey.publicKey) blindKey = .ok blindedPublicKey ∧
      P.marshalCompressed blindedPublicKey = .ok st.blindedRequestKey ∧
      st.tokenInput = ({ tokenType := P.rateLimitedTokenType, nonce, context := P.sha256 challenge,
                         keyID := tokenKeyID, authenticator := [] } : Token).authenticatorInput ∧
      P.blind tokenKey rand.blind st.tokenInput = .ok (blindedMessage, st.verifier) ∧
      index tokenKeyID 0 = .ok keyID ∧
      encryptOriginTokenRequest P rand.encap nameKey keyID blindedMessage st.blindedRequestKey
        originName = .ok (nameKeyID, encryptedTokenRequest, st.encapSecret) ∧
      P.blindKeySign rand.sign c.secretKey blindKey
        (P.sha384 (signedOuterMessage P keyID nameKeyID encryptedTokenRequest)) = .ok (r, s) ∧
      r < 2 ^ 384 ∧ s < 2 ^ 384 ∧
      nameKey.suite.kemPublicKeySize ≤ encryptedTokenRequest.length ∧
      st.request = { tokenKeyID := keyID, nameKeyID, encryptedTokenRequest,
                     signature := toBigEndian 48 r ++ toBigEndian 48 s } ∧
      st.encapEnc = encryptedTokenRequest.take nameKey.suite.kemPublicKeySize ∧
      st.nameKey = nameKey ∧ st.verificationKey = tokenKey := by
  have h48 : (p384BitSize + 7) / 8 = 48 := rfl
  simp only [RateLimitedClient.createTokenRequest, bind_eq_ok, Prod.exists, h48,
    createTokenRequestMessage_bytesOrPanic, ok_bind, fillBytes_eq_ok_iff, slice_eq_ok_iff,
    pure_eq_ok, Except.ok.injEq] at h
  obtain ⟨blindKey, hkey, blindedPublicKey, hblind, blindedPublicKeyEnc, henc, blindedMessage,
    verifierState, hrsa, keyID, hid, nameKeyID, encryptedTokenRequest, secret, hencrypt, r, s,
    hsign, rEnc, ⟨hr, hrEnc⟩, sEnc, ⟨hs, hsEnc⟩, enc, ⟨-, hlen, henc'⟩, hst⟩ := h
  subst rEnc sEnc enc st
  exact ⟨blindKey, blindedPublicKey, blindedMessage, keyID, nameKeyID, encryptedTokenRequest, r, s,
    hkey, hblind, henc, rfl, hrsa, hid, hencrypt, hsign, by rwa [two_pow_384],
    by rwa [two_pow_384], hlen, rfl, by simp, rfl, rfl⟩

theorem createTokenRequest_empty_tokenKeyID_panics (hP : P.Lawful) {key : RsaPrivateKey}
    (hkey : P.ValidRsa2048 key) {c : RateLimitedClient} (hc : P.ValidKey c.secretKey)
    {blindKeyEnc : Bytes} {blindKey : PrivateKey} (hb : P.createKey blindKeyEnc = .ok blindKey)
    (rand : ClientEntropy) (challenge nonce o : Bytes) (nameKey : PublicNameKey) :
    c.createTokenRequest P rand challenge nonce blindKeyEnc [] key.publicKey o nameKey =
      .error (.panic (bytesOf "runtime error: index out of range")) := by
  have hbk := hP.createKey_valid _ _ hb
  have hpk := hP.isOnCurve_of_validKey hc
  obtain ⟨rk, hrk, -⟩ := hP.marshalCompressed_ok _ (hP.scalarMult_onCurve _ _ hpk hbk.1 hbk.2.1)
  obtain ⟨bm, state, hblind, -⟩ := hP.blind_ok key rand.blind
    ({ tokenType := P.rateLimitedTokenType, nonce, context := P.sha256 challenge,
       keyID := [], authenticator := [] } : Token).authenticatorInput hkey
  simp only [RateLimitedClient.createTokenRequest, hb, ok_bind, hP.blindPublicKey_eq _ _ hpk hbk,
    hrk, hblind]
  rfl

theorem finalizeToken_eq {s : RateLimitedTokenRequestState P} {resp blindSignature signature : Bytes}
    {token : Token}
    (hlen : max s.nameKey.suite.aeadKeySize s.nameKey.suite.aeadNonceSize ≤ resp.length)
    (hopen : s.nameKey.suite.aeadOpen
      (s.nameKey.suite.responseKeys s.encapEnc
        (resp.take (max s.nameKey.suite.aeadKeySize s.nameKey.suite.aeadNonceSize))
        s.encapSecret).1
      (s.nameKey.suite.responseKeys s.encapEnc
        (resp.take (max s.nameKey.suite.aeadKeySize s.nameKey.suite.aeadNonceSize))
        s.encapSecret).2
      (resp.drop (max s.nameKey.suite.aeadKeySize s.nameKey.suite.aeadNonceSize)) [] =
        .ok blindSignature)
    (hfinalize : P.finalize s.verifier blindSignature = .ok signature)
    (htoken : P.unmarshalToken (s.tokenInput ++ signature) = .ok token)
    (hverify : P.verifyPSS s.verificationKey (P.sha384 token.authenticatorInput)
      token.authenticator = .ok ()) :
    s.finalizeToken P resp = .ok token := by
  simp [RateLimitedTokenRequestState.finalizeToken, slice_of_le (Nat.zero_le _) hlen,
    slice_of_le hlen le_rfl, hopen, hfinalize, htoken, hverify]

theorem finalizeToken_of_lt {s : RateLimitedTokenRequestState P} {resp : Bytes}
    (h : resp.length < max s.nameKey.suite.aeadKeySize s.nameKey.suite.aeadNonceSize) :
    s.finalizeToken P resp = .error (.panic (bytesOf "runtime error: slice bounds out of range")) := by
  simp [RateLimitedTokenRequestState.finalizeToken, slice_of_lt h]

theorem finalizeToken_inv {s : RateLimitedTokenRequestState P} {resp : Bytes} {token : Token}
    (h : s.finalizeToken P resp = .ok token) :
    ∃ blindSignature signature,
      max s.nameKey.suite.aeadKeySize s.nameKey.suite.aeadNonceSize ≤ resp.length ∧
      s.nameKey.suite.aeadOpen
        (s.nameKey.suite.responseKeys s.encapEnc
          (resp.take (max s.nameKey.suite.aeadKeySize s.nameKey.suite.aeadNonceSize))
          s.encapSecret).1
        (s.nameKey.suite.responseKeys s.encapEnc
          (resp.take (max s.nameKey.suite.aeadKeySize s.nameKey.suite.aeadNonceSize))
          s.encapSecret).2
        (resp.drop (max s.nameKey.suite.aeadKeySize s.nameKey.suite.aeadNonceSize)) [] =
          .ok blindSignature ∧
      P.finalize s.verifier blindSignature = .ok signature ∧
      P.unmarshalToken (s.tokenInput ++ signature) = .ok token ∧
      P.verifyPSS s.verificationKey (P.sha384 token.authenticatorInput) token.authenticator =
        .ok () := by
  simp only [RateLimitedTokenRequestState.finalizeToken, bind_eq_ok, slice_eq_ok_iff,
    List.drop_zero, List.take_length] at h
  obtain ⟨_, ⟨-, hlen, rfl⟩, _, ⟨-, -, rfl⟩, blindSignature, hopen, signature, hfinalize, token',
    htoken, ⟨⟩, hverify, hpure⟩ := h
  cases hpure
  exact ⟨blindSignature, signature, hlen, hopen, hfinalize, htoken, hverify⟩

theorem finalizeIndex_eq {clientKey blindEnc blindedRequestKeyEnc : Bytes} {Q : Option Point}
    {blindKey : PrivateKey} {indexKey : Option Point}
    (hQ : P.unmarshalCompressed blindedRequestKeyEnc = Q)
    (hkey : P.createKey blindEnc = .ok blindKey)
    (hunblind : P.unblindPublicKey Q blindKey = .ok indexKey) :
    finalizeIndex P clientKey blindEnc blindedRequestKeyEnc =
      P.marshalCompressed indexKey >>= computeIndex P clientKey := by
  simp [finalizeIndex, hQ, hkey, hunblind]

end Client

end RateLimitedIssuance
