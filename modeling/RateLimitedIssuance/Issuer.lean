import RateLimitedIssuance.Client

namespace RateLimitedIssuance

/-- `RateLimitedIssuer`, on P-384; `originIndexKeys` is the `map[string]*ecdsa.PrivateKey`. -/
structure RateLimitedIssuer where
  nameKey : PrivateNameKey
  tokenKey : RsaPrivateKey
  originIndexKeys : Bytes → Option PrivateKey

section Issuer

variable (P : Primitives)

/-- `v, err := f(); if err != nil { return nil }`: an `error` becomes a `nil` result. -/
def orNil {α : Type} : Go α → Go (Option α)
  | .ok a => .ok (some a)
  | .error (.error _) => .ok none
  | .error (.panic v) => .error (.panic v)

/-- `NewRateLimitedIssuer`; `none` is the `nil` it returns when the suite or the key pair
cannot be made. The error of `rand.Reader.Read(ikm)` is ignored, as in the source. -/
def newRateLimitedIssuer (rand : Entropy) (key : RsaPrivateKey) :
    Go (Option RateLimitedIssuer) := do
  let some suite ← orNil (P.assembleCipherSuite dhkemX25519 kdfHkdfSha256 aeadAesGcm128)
    | return none
  let ikm := randRead rand suite.kemPrivateKeySize
  let some (privateKey, publicKey) ← orNil (suite.deriveKeyPair ikm) | return none
  return some { nameKey := { id := 0x00, suite, publicKey, privateKey }, tokenKey := key,
                originIndexKeys := fun _ => none }

namespace RateLimitedIssuer

/-- `NameKey()`. -/
def publicNameKey (i : RateLimitedIssuer) : PublicNameKey := i.nameKey.public

/-- `AddOrigin`: a fresh index key for the origin, replacing any earlier one. -/
def addOrigin (i : RateLimitedIssuer) (rand : Entropy) (origin : Bytes) :
    Go RateLimitedIssuer := do
  let privateKey ← P.generateKey rand
  return { i with
    originIndexKeys := fun o => if o = origin then some privateKey else i.originIndexKeys o }

/-- `TokenKey()`. -/
def publicTokenKey (i : RateLimitedIssuer) : RsaPublicKey := i.tokenKey.publicKey

/-- `TokenKeyID()`: it panics when the key cannot be encoded. -/
def tokenKeyID (i : RateLimitedIssuer) : Go Bytes := do
  let publicKeyEnc ← orPanic (P.marshalTokenKeyPSSOID i.publicTokenKey)
  return P.sha256 publicKeyEnc

end RateLimitedIssuer

/-- The AAD `decryptOriginTokenRequest` builds. -/
def decryptOriginTokenRequestAad (nameKey : PrivateNameKey) (tokenKeyID : UInt8)
    (issuerConfigID : Bytes) : Builder :=
  Builder.new.addUint8 nameKey.id |>.addUint16 nameKey.suite.kemID
    |>.addUint16 nameKey.suite.kdfID |>.addUint16 nameKey.suite.aeadID
    |>.addUint16 P.rateLimitedTokenType |>.addUint8 tokenKeyID |>.addBytes issuerConfigID

theorem decryptOriginTokenRequestAad_bytesOrPanic (nameKey : PrivateNameKey) (tokenKeyID : UInt8)
    (issuerConfigID : Bytes) :
    (decryptOriginTokenRequestAad P nameKey tokenKeyID issuerConfigID).bytesOrPanic =
      .ok (hpkeAad P nameKey.id nameKey.suite tokenKeyID issuerConfigID) := by
  simp [decryptOriginTokenRequestAad, hpkeAad]

/-- `decryptOriginTokenRequest`. When the plaintext does not unmarshal, `err` is still the
`nil` of the successful `Open`, and the empty request is returned with it. -/
def decryptOriginTokenRequest (nameKey : PrivateNameKey) (tokenKeyID : UInt8)
    (encryptedTokenRequest : Bytes) : Go (OriginTokenRequest × Bytes) := do
  let issuerConfigID := P.sha256 (P.nameKeyEncoding nameKey.public)
  let aad ← (decryptOriginTokenRequestAad P nameKey tokenKeyID issuerConfigID).bytesOrPanic
  let enc ← slice encryptedTokenRequest 0 nameKey.suite.kemPublicKeySize
  let ct ← slice encryptedTokenRequest nameKey.suite.kemPublicKeySize encryptedTokenRequest.length
  let context ← nameKey.suite.setupBaseR nameKey.privateKey enc (bytesOf "TokenRequest")
  let tokenRequestEnc ← nameKey.suite.contextOpen context aad ct
  match OriginTokenRequest.unmarshal tokenRequestEnc with
  | none => return ({}, [])
  | some tokenRequest =>
    return (tokenRequest, nameKey.suite.contextExport context (bytesOf "OriginTokenResponse")
      nameKey.suite.aeadKeySize)

/-- The signed outer message `Evaluate` rebuilds. -/
def evaluateMessage (req : RateLimitedTokenRequest) : Builder :=
  Builder.new.addUint16 P.rateLimitedTokenType |>.addUint8 req.tokenKeyID
    |>.addBytes req.nameKeyID |>.addBytes req.encryptedTokenRequest

theorem evaluateMessage_bytesOrPanic (req : RateLimitedTokenRequest) :
    (evaluateMessage P req).bytesOrPanic =
      .ok (signedOuterMessage P req.tokenKeyID req.nameKeyID req.encryptedTokenRequest) := by
  simp [evaluateMessage, signedOuterMessage]

/-- Lines 503-529 of `Evaluate` and 567-592 of `EvaluateWithoutCheck`: draw the response nonce
and seal the blind signature under the keys derived from `enc ‖ responseNonce`. Returns the
nonce and the sealed signature. -/
def CipherSuite.sealResponse (suite : CipherSuite) (rand : Entropy)
    (encryptedTokenRequest secret blindSignature : Bytes) : Go (Bytes × Bytes) := do
  let responseNonce := randRead rand (max suite.aeadKeySize suite.aeadNonceSize)
  let enc ← slice encryptedTokenRequest 0 suite.kemPublicKeySize
  let (key, nonce) := suite.responseKeys enc responseNonce secret
  let ct ← suite.aeadSeal key nonce blindSignature []
  return (responseNonce, ct)

namespace RateLimitedIssuer

/-- Lines 447-499 of `Evaluate`, everything before the response is sealed. Returns the export
secret, the encoded blinded request key and the blind signature. -/
def evaluateChecks (i : RateLimitedIssuer) (req : RateLimitedTokenRequest) :
    Go (Bytes × Bytes × Bytes) := do
  let (originTokenRequest, secret) ←
    decryptOriginTokenRequest P i.nameKey req.tokenKeyID req.encryptedTokenRequest
  let originName := unpadOriginName originTokenRequest.paddedOrigin
  let some originIndexKey := i.originIndexKeys originName
    | throw (.error (bytesOf "Unknown origin: " ++ originName))
  let requestKey := P.unmarshalCompressed originTokenRequest.requestKey
  let scalarLen := (p384BitSize + 7) / 8
  let rBytes ← slice req.signature 0 scalarLen
  let sBytes ← slice req.signature scalarLen req.signature.length
  let message ← (evaluateMessage P req).bytesOrPanic
  let valid ← P.verify requestKey (P.sha384 message) (setBytes rBytes) (setBytes sBytes)
  if !valid then throw (.error (bytesOf "Invalid request signature"))
  let blindedRequestKey ← P.blindPublicKey requestKey originIndexKey
  let blindedRequestKeyEnc ← P.marshalCompressed blindedRequestKey
  let blindSignature ← P.blindSign i.tokenKey originTokenRequest.blindedMsg
  return (secret, blindedRequestKeyEnc, blindSignature)

/-- `Evaluate`; `rand` fills the response nonce, which goes in front of the sealed signature. -/
def evaluate (i : RateLimitedIssuer) (rand : Entropy) (req : RateLimitedTokenRequest) :
    Go (Bytes × Bytes) := do
  let (secret, blindedRequestKeyEnc, blindSignature) ← i.evaluateChecks P req
  let (responseNonce, ct) ←
    i.nameKey.suite.sealResponse rand req.encryptedTokenRequest secret blindSignature
  return (responseNonce ++ ct, blindedRequestKeyEnc)

/-- Lines 535-564 of `EvaluateWithoutCheck`: those of `Evaluate` without the request-signature
check. -/
def evaluateWithoutCheckChecks (i : RateLimitedIssuer) (req : RateLimitedTokenRequest) :
    Go (Bytes × Bytes × Bytes) := do
  let (originTokenRequest, secret) ←
    decryptOriginTokenRequest P i.nameKey req.tokenKeyID req.encryptedTokenRequest
  let originName := unpadOriginName originTokenRequest.paddedOrigin
  let some originIndexKey := i.originIndexKeys originName
    | throw (.error (bytesOf "Unknown origin: " ++ originName))
  let requestKey := P.unmarshalCompressed originTokenRequest.requestKey
  let blindedRequestKey ← P.blindPublicKey requestKey originIndexKey
  let blindedRequestKeyEnc ← P.marshalCompressed blindedRequestKey
  let blindSignature ← P.blindSign i.tokenKey originTokenRequest.blindedMsg
  return (secret, blindedRequestKeyEnc, blindSignature)

/-- `EvaluateWithoutCheck`: it returns the sealed blind signature without the response nonce in
front. -/
def evaluateWithoutCheck (i : RateLimitedIssuer) (rand : Entropy)
    (req : RateLimitedTokenRequest) : Go (Bytes × Bytes) := do
  let (secret, blindedRequestKeyEnc, blindSignature) ← i.evaluateWithoutCheckChecks P req
  let (_, ct) ← i.nameKey.suite.sealResponse rand req.encryptedTokenRequest secret blindSignature
  return (ct, blindedRequestKeyEnc)

end RateLimitedIssuer

variable {P}

theorem orNil_ok {α : Type} (a : α) : orNil (.ok a : Go α) = .ok (some a) := rfl

theorem decryptOriginTokenRequest_eq {nameKey : PrivateNameKey} {tokenKeyID : UInt8}
    {enc ct context tokenRequestEnc : Bytes} {tokenRequest : OriginTokenRequest}
    (henc : enc.length = nameKey.suite.kemPublicKeySize)
    (hsetup : nameKey.suite.setupBaseR nameKey.privateKey enc (bytesOf "TokenRequest") = .ok context)
    (hopen : nameKey.suite.contextOpen context
      (hpkeAad P nameKey.id nameKey.suite tokenKeyID (P.sha256 (P.nameKeyEncoding nameKey.public)))
      ct = .ok tokenRequestEnc)
    (hr : OriginTokenRequest.unmarshal tokenRequestEnc = some tokenRequest) :
    decryptOriginTokenRequest P nameKey tokenKeyID (enc ++ ct) =
      .ok (tokenRequest, nameKey.suite.contextExport context (bytesOf "OriginTokenResponse")
        nameKey.suite.aeadKeySize) := by
  simp [decryptOriginTokenRequest, decryptOriginTokenRequestAad_bytesOrPanic, ← henc, hsetup,
    hopen, hr]

theorem decryptOriginTokenRequest_of_lt {nameKey : PrivateNameKey} {tokenKeyID : UInt8}
    {encryptedTokenRequest : Bytes}
    (h : encryptedTokenRequest.length < nameKey.suite.kemPublicKeySize) :
    decryptOriginTokenRequest P nameKey tokenKeyID encryptedTokenRequest =
      .error (.panic (bytesOf "runtime error: slice bounds out of range")) := by
  simp [decryptOriginTokenRequest, decryptOriginTokenRequestAad_bytesOrPanic, slice_of_lt h]

theorem decryptOriginTokenRequest_length {nameKey : PrivateNameKey} {tokenKeyID : UInt8}
    {encryptedTokenRequest : Bytes} {out : OriginTokenRequest × Bytes}
    (h : decryptOriginTokenRequest P nameKey tokenKeyID encryptedTokenRequest = .ok out) :
    nameKey.suite.kemPublicKeySize ≤ encryptedTokenRequest.length :=
  Nat.le_of_not_lt fun hlt => by rw [decryptOriginTokenRequest_of_lt hlt] at h; cases h

/-- A plaintext that does not unmarshal yields the empty request with a `nil` error. -/
theorem decryptOriginTokenRequest_of_unmarshal_none {nameKey : PrivateNameKey}
    {tokenKeyID : UInt8} {enc ct context tokenRequestEnc : Bytes}
    (henc : enc.length = nameKey.suite.kemPublicKeySize)
    (hsetup : nameKey.suite.setupBaseR nameKey.privateKey enc (bytesOf "TokenRequest") = .ok context)
    (hopen : nameKey.suite.contextOpen context
      (hpkeAad P nameKey.id nameKey.suite tokenKeyID (P.sha256 (P.nameKeyEncoding nameKey.public)))
      ct = .ok tokenRequestEnc)
    (hr : OriginTokenRequest.unmarshal tokenRequestEnc = none) :
    decryptOriginTokenRequest P nameKey tokenKeyID (enc ++ ct) = .ok ({}, []) := by
  simp [decryptOriginTokenRequest, decryptOriginTokenRequestAad_bytesOrPanic, ← henc, hsetup,
    hopen, hr]

/-- The response key and nonce `Evaluate` seals under. -/
def RateLimitedIssuer.responseKeys (i : RateLimitedIssuer) (rand : Entropy)
    (req : RateLimitedTokenRequest) (secret : Bytes) : Bytes × Bytes :=
  i.nameKey.suite.responseKeys (req.encryptedTokenRequest.take i.nameKey.suite.kemPublicKeySize)
    (randRead rand (max i.nameKey.suite.aeadKeySize i.nameKey.suite.aeadNonceSize)) secret

theorem sealResponse_eq_ok_iff {suite : CipherSuite} {rand : Entropy}
    {encryptedTokenRequest secret blindSignature : Bytes} {out : Bytes × Bytes} :
    suite.sealResponse rand encryptedTokenRequest secret blindSignature = .ok out ↔
      suite.kemPublicKeySize ≤ encryptedTokenRequest.length ∧
      suite.aeadSeal
        (suite.responseKeys (encryptedTokenRequest.take suite.kemPublicKeySize)
          (randRead rand (max suite.aeadKeySize suite.aeadNonceSize)) secret).1
        (suite.responseKeys (encryptedTokenRequest.take suite.kemPublicKeySize)
          (randRead rand (max suite.aeadKeySize suite.aeadNonceSize)) secret).2
        blindSignature [] = .ok out.2 ∧
      out.1 = randRead rand (max suite.aeadKeySize suite.aeadNonceSize) := by
  obtain ⟨responseNonce, ct⟩ := out
  simp only [CipherSuite.sealResponse, bind_eq_ok, slice_eq_ok_iff, pure_eq_ok, Except.ok.injEq,
    Prod.mk.injEq, List.drop_zero]
  constructor
  · rintro ⟨_, ⟨-, hlen, rfl⟩, ct, hseal, rfl, rfl⟩
    exact ⟨hlen, hseal, rfl⟩
  · rintro ⟨hlen, hseal, rfl⟩
    exact ⟨_, ⟨Nat.zero_le _, hlen, rfl⟩, ct, hseal, rfl, rfl⟩

theorem sealResponse_eq {suite : CipherSuite} {rand : Entropy}
    {encryptedTokenRequest secret blindSignature ct : Bytes}
    (hlen : suite.kemPublicKeySize ≤ encryptedTokenRequest.length)
    (hseal : suite.aeadSeal
      (suite.responseKeys (encryptedTokenRequest.take suite.kemPublicKeySize)
        (randRead rand (max suite.aeadKeySize suite.aeadNonceSize)) secret).1
      (suite.responseKeys (encryptedTokenRequest.take suite.kemPublicKeySize)
        (randRead rand (max suite.aeadKeySize suite.aeadNonceSize)) secret).2
      blindSignature [] = .ok ct) :
    suite.sealResponse rand encryptedTokenRequest secret blindSignature =
      .ok (randRead rand (max suite.aeadKeySize suite.aeadNonceSize), ct) :=
  sealResponse_eq_ok_iff.mpr ⟨hlen, hseal, rfl⟩

theorem evaluateChecks_eq {i : RateLimitedIssuer} {req : RateLimitedTokenRequest}
    {originTokenRequest : OriginTokenRequest} {secret : Bytes} {originIndexKey : PrivateKey}
    {blindedRequestKey : Option Point} {blindedRequestKeyEnc blindSignature : Bytes}
    (hdecrypt : decryptOriginTokenRequest P i.nameKey req.tokenKeyID req.encryptedTokenRequest =
      .ok (originTokenRequest, secret))
    (hkey : i.originIndexKeys (unpadOriginName originTokenRequest.paddedOrigin) = some originIndexKey)
    (hsig : 48 ≤ req.signature.length)
    (hverify : P.verify (P.unmarshalCompressed originTokenRequest.requestKey)
      (P.sha384 (signedOuterMessage P req.tokenKeyID req.nameKeyID req.encryptedTokenRequest))
      (setBytes (req.signature.take 48)) (setBytes (req.signature.drop 48)) = .ok true)
    (hblind : P.blindPublicKey (P.unmarshalCompressed originTokenRequest.requestKey) originIndexKey =
      .ok blindedRequestKey)
    (hmarshal : P.marshalCompressed blindedRequestKey = .ok blindedRequestKeyEnc)
    (hsign : P.blindSign i.tokenKey originTokenRequest.blindedMsg = .ok blindSignature) :
    i.evaluateChecks P req = .ok (secret, blindedRequestKeyEnc, blindSignature) := by
  have h48 : (p384BitSize + 7) / 8 = 48 := rfl
  simp only [RateLimitedIssuer.evaluateChecks, hdecrypt, ok_bind, hkey, h48,
    slice_of_le (Nat.zero_le 48) hsig, slice_of_le hsig le_rfl, evaluateMessage_bytesOrPanic,
    List.drop_zero, List.take_length, hverify, Bool.not_true, Bool.false_eq_true, if_false, hblind,
    hmarshal, hsign]
  rfl

theorem evaluateChecks_inv {i : RateLimitedIssuer} {req : RateLimitedTokenRequest}
    {out : Bytes × Bytes × Bytes} (h : i.evaluateChecks P req = .ok out) :
    ∃ originTokenRequest originIndexKey blindedRequestKey,
      decryptOriginTokenRequest P i.nameKey req.tokenKeyID req.encryptedTokenRequest =
        .ok (originTokenRequest, out.1) ∧
      i.originIndexKeys (unpadOriginName originTokenRequest.paddedOrigin) = some originIndexKey ∧
      48 ≤ req.signature.length ∧
      P.verify (P.unmarshalCompressed originTokenRequest.requestKey)
        (P.sha384 (signedOuterMessage P req.tokenKeyID req.nameKeyID req.encryptedTokenRequest))
        (setBytes (req.signature.take 48)) (setBytes (req.signature.drop 48)) = .ok true ∧
      P.blindPublicKey (P.unmarshalCompressed originTokenRequest.requestKey) originIndexKey =
        .ok blindedRequestKey ∧
      P.marshalCompressed blindedRequestKey = .ok out.2.1 ∧
      P.blindSign i.tokenKey originTokenRequest.blindedMsg = .ok out.2.2 := by
  simp only [RateLimitedIssuer.evaluateChecks, bind_eq_ok, Prod.exists] at h
  obtain ⟨originTokenRequest, secret, hdecrypt, h⟩ := h
  split at h
  next originIndexKey hkey =>
    have h48 : (p384BitSize + 7) / 8 = 48 := rfl
    simp only [h48, bind_eq_ok, evaluateMessage_bytesOrPanic, ok_bind, slice_eq_ok_iff] at h
    obtain ⟨_, ⟨-, hsig, rfl⟩, _, ⟨-, -, rfl⟩, valid, hverify, h⟩ := h
    cases valid
    · simp at h
    · simp only [Bool.not_true, Bool.false_eq_true, if_false, pure_eq_ok, ok_bind, bind_eq_ok,
        Except.ok.injEq] at h
      obtain ⟨blindedRequestKey, hblind, _, hmarshal, _, hsign, rfl⟩ := h
      refine ⟨originTokenRequest, originIndexKey, blindedRequestKey, hdecrypt, hkey, hsig, ?_,
        hblind, hmarshal, hsign⟩
      simpa [List.take_length] using hverify
  next => simp at h

theorem evaluateWithoutCheckChecks_eq {i : RateLimitedIssuer} {req : RateLimitedTokenRequest}
    {originTokenRequest : OriginTokenRequest} {secret : Bytes} {originIndexKey : PrivateKey}
    {blindedRequestKey : Option Point} {blindedRequestKeyEnc blindSignature : Bytes}
    (hdecrypt : decryptOriginTokenRequest P i.nameKey req.tokenKeyID req.encryptedTokenRequest =
      .ok (originTokenRequest, secret))
    (hkey : i.originIndexKeys (unpadOriginName originTokenRequest.paddedOrigin) = some originIndexKey)
    (hblind : P.blindPublicKey (P.unmarshalCompressed originTokenRequest.requestKey) originIndexKey =
      .ok blindedRequestKey)
    (hmarshal : P.marshalCompressed blindedRequestKey = .ok blindedRequestKeyEnc)
    (hsign : P.blindSign i.tokenKey originTokenRequest.blindedMsg = .ok blindSignature) :
    i.evaluateWithoutCheckChecks P req = .ok (secret, blindedRequestKeyEnc, blindSignature) := by
  simp only [RateLimitedIssuer.evaluateWithoutCheckChecks, hdecrypt, ok_bind, hkey, hblind,
    hmarshal, hsign]
  rfl

theorem evaluateWithoutCheckChecks_inv {i : RateLimitedIssuer} {req : RateLimitedTokenRequest}
    {out : Bytes × Bytes × Bytes} (h : i.evaluateWithoutCheckChecks P req = .ok out) :
    ∃ originTokenRequest originIndexKey blindedRequestKey,
      decryptOriginTokenRequest P i.nameKey req.tokenKeyID req.encryptedTokenRequest =
        .ok (originTokenRequest, out.1) ∧
      i.originIndexKeys (unpadOriginName originTokenRequest.paddedOrigin) = some originIndexKey ∧
      P.blindPublicKey (P.unmarshalCompressed originTokenRequest.requestKey) originIndexKey =
        .ok blindedRequestKey ∧
      P.marshalCompressed blindedRequestKey = .ok out.2.1 ∧
      P.blindSign i.tokenKey originTokenRequest.blindedMsg = .ok out.2.2 := by
  simp only [RateLimitedIssuer.evaluateWithoutCheckChecks, bind_eq_ok, Prod.exists] at h
  obtain ⟨originTokenRequest, secret, hdecrypt, h⟩ := h
  split at h
  next originIndexKey hkey =>
    simp only [bind_eq_ok, pure_eq_ok, Except.ok.injEq] at h
    obtain ⟨blindedRequestKey, hblind, _, hmarshal, _, hsign, rfl⟩ := h
    exact ⟨originTokenRequest, originIndexKey, blindedRequestKey, hdecrypt, hkey, hblind, hmarshal,
      hsign⟩
  next => simp at h

theorem evaluateChecks_length {i : RateLimitedIssuer} {req : RateLimitedTokenRequest}
    {out : Bytes × Bytes × Bytes} (h : i.evaluateChecks P req = .ok out) :
    i.nameKey.suite.kemPublicKeySize ≤ req.encryptedTokenRequest.length :=
  have ⟨_, _, _, hdec, _⟩ := evaluateChecks_inv h
  decryptOriginTokenRequest_length hdec

theorem evaluateWithoutCheckChecks_length {i : RateLimitedIssuer} {req : RateLimitedTokenRequest}
    {out : Bytes × Bytes × Bytes} (h : i.evaluateWithoutCheckChecks P req = .ok out) :
    i.nameKey.suite.kemPublicKeySize ≤ req.encryptedTokenRequest.length :=
  have ⟨_, _, _, hdec, _⟩ := evaluateWithoutCheckChecks_inv h
  decryptOriginTokenRequest_length hdec

theorem evaluate_eq {i : RateLimitedIssuer} {rand : Entropy} {req : RateLimitedTokenRequest}
    {originTokenRequest : OriginTokenRequest} {secret : Bytes} {originIndexKey : PrivateKey}
    {blindedRequestKey : Option Point} {blindedRequestKeyEnc blindSignature ct : Bytes}
    (hdecrypt : decryptOriginTokenRequest P i.nameKey req.tokenKeyID req.encryptedTokenRequest =
      .ok (originTokenRequest, secret))
    (hkey : i.originIndexKeys (unpadOriginName originTokenRequest.paddedOrigin) = some originIndexKey)
    (hsig : 48 ≤ req.signature.length)
    (hverify : P.verify (P.unmarshalCompressed originTokenRequest.requestKey)
      (P.sha384 (signedOuterMessage P req.tokenKeyID req.nameKeyID req.encryptedTokenRequest))
      (setBytes (req.signature.take 48)) (setBytes (req.signature.drop 48)) = .ok true)
    (hblind : P.blindPublicKey (P.unmarshalCompressed originTokenRequest.requestKey) originIndexKey =
      .ok blindedRequestKey)
    (hmarshal : P.marshalCompressed blindedRequestKey = .ok blindedRequestKeyEnc)
    (hsign : P.blindSign i.tokenKey originTokenRequest.blindedMsg = .ok blindSignature)
    (hlen : i.nameKey.suite.kemPublicKeySize ≤ req.encryptedTokenRequest.length)
    (hseal : i.nameKey.suite.aeadSeal (i.responseKeys rand req secret).1
      (i.responseKeys rand req secret).2 blindSignature [] = .ok ct) :
    i.evaluate P rand req =
      .ok (randRead rand (max i.nameKey.suite.aeadKeySize i.nameKey.suite.aeadNonceSize) ++ ct,
        blindedRequestKeyEnc) := by
  simp only [RateLimitedIssuer.evaluate,
    evaluateChecks_eq hdecrypt hkey hsig hverify hblind hmarshal hsign, ok_bind,
    sealResponse_eq hlen hseal]
  rfl

theorem evaluateWithoutCheck_eq {i : RateLimitedIssuer} {rand : Entropy}
    {req : RateLimitedTokenRequest} {originTokenRequest : OriginTokenRequest} {secret : Bytes}
    {originIndexKey : PrivateKey} {blindedRequestKey : Option Point}
    {blindedRequestKeyEnc blindSignature ct : Bytes}
    (hdecrypt : decryptOriginTokenRequest P i.nameKey req.tokenKeyID req.encryptedTokenRequest =
      .ok (originTokenRequest, secret))
    (hkey : i.originIndexKeys (unpadOriginName originTokenRequest.paddedOrigin) = some originIndexKey)
    (hblind : P.blindPublicKey (P.unmarshalCompressed originTokenRequest.requestKey) originIndexKey =
      .ok blindedRequestKey)
    (hmarshal : P.marshalCompressed blindedRequestKey = .ok blindedRequestKeyEnc)
    (hsign : P.blindSign i.tokenKey originTokenRequest.blindedMsg = .ok blindSignature)
    (hlen : i.nameKey.suite.kemPublicKeySize ≤ req.encryptedTokenRequest.length)
    (hseal : i.nameKey.suite.aeadSeal (i.responseKeys rand req secret).1
      (i.responseKeys rand req secret).2 blindSignature [] = .ok ct) :
    i.evaluateWithoutCheck P rand req = .ok (ct, blindedRequestKeyEnc) := by
  simp only [RateLimitedIssuer.evaluateWithoutCheck,
    evaluateWithoutCheckChecks_eq hdecrypt hkey hblind hmarshal hsign, ok_bind,
    sealResponse_eq hlen hseal]
  rfl

theorem evaluate_inv {i : RateLimitedIssuer} {rand : Entropy} {req : RateLimitedTokenRequest}
    {out : Bytes × Bytes} (h : i.evaluate P rand req = .ok out) :
    ∃ originTokenRequest secret originIndexKey blindedRequestKey blindSignature ct,
      decryptOriginTokenRequest P i.nameKey req.tokenKeyID req.encryptedTokenRequest =
        .ok (originTokenRequest, secret) ∧
      i.originIndexKeys (unpadOriginName originTokenRequest.paddedOrigin) = some originIndexKey ∧
      48 ≤ req.signature.length ∧
      P.verify (P.unmarshalCompressed originTokenRequest.requestKey)
        (P.sha384 (signedOuterMessage P req.tokenKeyID req.nameKeyID req.encryptedTokenRequest))
        (setBytes (req.signature.take 48)) (setBytes (req.signature.drop 48)) = .ok true ∧
      P.blindPublicKey (P.unmarshalCompressed originTokenRequest.requestKey) originIndexKey =
        .ok blindedRequestKey ∧
      P.marshalCompressed blindedRequestKey = .ok out.2 ∧
      P.blindSign i.tokenKey originTokenRequest.blindedMsg = .ok blindSignature ∧
      i.nameKey.suite.kemPublicKeySize ≤ req.encryptedTokenRequest.length ∧
      i.nameKey.suite.aeadSeal (i.responseKeys rand req secret).1
        (i.responseKeys rand req secret).2 blindSignature [] = .ok ct ∧
      out.1 = randRead rand (max i.nameKey.suite.aeadKeySize i.nameKey.suite.aeadNonceSize) ++ ct := by
  rw [RateLimitedIssuer.evaluate] at h
  obtain ⟨⟨secret, blindedRequestKeyEnc, blindSignature⟩, hchecks, h⟩ := bind_eq_ok.mp h
  obtain ⟨⟨responseNonce, ct⟩, hseal, h⟩ := bind_eq_ok.mp h
  obtain ⟨originTokenRequest, originIndexKey, blindedRequestKey, hdecrypt, hkey, hsig, hverify,
    hblind, hmarshal, hsign⟩ := evaluateChecks_inv hchecks
  obtain ⟨hlen, hseal, rfl⟩ := sealResponse_eq_ok_iff.mp hseal
  simp only [pure_eq_ok, Except.ok.injEq] at h
  subst h
  exact ⟨originTokenRequest, secret, originIndexKey, blindedRequestKey, blindSignature, ct,
    hdecrypt, hkey, hsig, hverify, hblind, hmarshal, hsign, hlen, hseal, rfl⟩

theorem evaluateWithoutCheck_inv {i : RateLimitedIssuer} {rand : Entropy}
    {req : RateLimitedTokenRequest} {out : Bytes × Bytes}
    (h : i.evaluateWithoutCheck P rand req = .ok out) :
    ∃ originTokenRequest secret originIndexKey blindedRequestKey blindSignature,
      decryptOriginTokenRequest P i.nameKey req.tokenKeyID req.encryptedTokenRequest =
        .ok (originTokenRequest, secret) ∧
      i.originIndexKeys (unpadOriginName originTokenRequest.paddedOrigin) = some originIndexKey ∧
      P.blindPublicKey (P.unmarshalCompressed originTokenRequest.requestKey) originIndexKey =
        .ok blindedRequestKey ∧
      P.marshalCompressed blindedRequestKey = .ok out.2 ∧
      P.blindSign i.tokenKey originTokenRequest.blindedMsg = .ok blindSignature ∧
      i.nameKey.suite.kemPublicKeySize ≤ req.encryptedTokenRequest.length ∧
      i.nameKey.suite.aeadSeal (i.responseKeys rand req secret).1
        (i.responseKeys rand req secret).2 blindSignature [] = .ok out.1 := by
  rw [RateLimitedIssuer.evaluateWithoutCheck] at h
  obtain ⟨⟨secret, blindedRequestKeyEnc, blindSignature⟩, hchecks, h⟩ := bind_eq_ok.mp h
  obtain ⟨⟨responseNonce, ct⟩, hseal, h⟩ := bind_eq_ok.mp h
  obtain ⟨originTokenRequest, originIndexKey, blindedRequestKey, hdecrypt, hkey, hblind, hmarshal,
    hsign⟩ := evaluateWithoutCheckChecks_inv hchecks
  obtain ⟨hlen, hseal, -⟩ := sealResponse_eq_ok_iff.mp hseal
  simp only [pure_eq_ok, Except.ok.injEq] at h
  subst h
  exact ⟨originTokenRequest, secret, originIndexKey, blindedRequestKey, blindSignature, hdecrypt,
    hkey, hblind, hmarshal, hsign, hlen, hseal⟩

/-- `EvaluateWithoutCheck` reads neither the `nameKeyID` nor the signature of the request. -/
theorem evaluateWithoutCheck_update {i : RateLimitedIssuer} {rand : Entropy}
    (req : RateLimitedTokenRequest) (nameKeyID signature : Bytes) :
    i.evaluateWithoutCheck P rand { req with nameKeyID := nameKeyID, signature := signature } =
      i.evaluateWithoutCheck P rand req := rfl

/-- `Evaluate` is `EvaluateWithoutCheck` behind the request-signature check, with the response
nonce in front of the sealed blind signature. -/
theorem evaluate_of_evaluateWithoutCheck {i : RateLimitedIssuer} {rand : Entropy}
    {req : RateLimitedTokenRequest} {originTokenRequest : OriginTokenRequest}
    {secret ct blindedRequestKeyEnc : Bytes}
    (hdecrypt : decryptOriginTokenRequest P i.nameKey req.tokenKeyID req.encryptedTokenRequest =
      .ok (originTokenRequest, secret))
    (hsig : 48 ≤ req.signature.length)
    (hverify : P.verify (P.unmarshalCompressed originTokenRequest.requestKey)
      (P.sha384 (signedOuterMessage P req.tokenKeyID req.nameKeyID req.encryptedTokenRequest))
      (setBytes (req.signature.take 48)) (setBytes (req.signature.drop 48)) = .ok true)
    (hwc : i.evaluateWithoutCheck P rand req = .ok (ct, blindedRequestKeyEnc)) :
    i.evaluate P rand req =
      .ok (randRead rand (max i.nameKey.suite.aeadKeySize i.nameKey.suite.aeadNonceSize) ++ ct,
        blindedRequestKeyEnc) := by
  obtain ⟨otr, secret', k, bRK, bs, hdec, hk, hblind, hm, hsign, hlen, hseal⟩ :=
    evaluateWithoutCheck_inv hwc
  rw [hdecrypt, Except.ok.injEq, Prod.mk.injEq] at hdec
  obtain ⟨rfl, rfl⟩ := hdec
  exact evaluate_eq hdecrypt hk hsig hverify hblind hm hsign hlen hseal

theorem evaluate_unknown_origin {i : RateLimitedIssuer} {rand : Entropy}
    {req : RateLimitedTokenRequest} {originTokenRequest : OriginTokenRequest} {secret : Bytes}
    (hdecrypt : decryptOriginTokenRequest P i.nameKey req.tokenKeyID req.encryptedTokenRequest =
      .ok (originTokenRequest, secret))
    (hunknown : i.originIndexKeys (unpadOriginName originTokenRequest.paddedOrigin) = none) :
    i.evaluate P rand req =
        .error (.error (bytesOf "Unknown origin: " ++ unpadOriginName originTokenRequest.paddedOrigin)) ∧
      i.evaluateWithoutCheck P rand req =
        .error (.error (bytesOf "Unknown origin: " ++ unpadOriginName originTokenRequest.paddedOrigin)) := by
  simp only [RateLimitedIssuer.evaluate, RateLimitedIssuer.evaluateWithoutCheck,
    RateLimitedIssuer.evaluateChecks, RateLimitedIssuer.evaluateWithoutCheckChecks, hdecrypt,
    ok_bind, hunknown]
  exact ⟨rfl, rfl⟩

/-- A plaintext that does not unmarshal is not refused as malformed: both evaluations look up the
empty origin name. -/
theorem evaluate_of_unmarshal_none {i : RateLimitedIssuer} {rand : Entropy}
    {req : RateLimitedTokenRequest} {enc ct context tokenRequestEnc : Bytes}
    (hreq : req.encryptedTokenRequest = enc ++ ct)
    (henc : enc.length = i.nameKey.suite.kemPublicKeySize)
    (hsetup : i.nameKey.suite.setupBaseR i.nameKey.privateKey enc (bytesOf "TokenRequest") =
      .ok context)
    (hopen : i.nameKey.suite.contextOpen context
      (hpkeAad P i.nameKey.id i.nameKey.suite req.tokenKeyID
        (P.sha256 (P.nameKeyEncoding i.nameKey.public))) ct = .ok tokenRequestEnc)
    (hr : OriginTokenRequest.unmarshal tokenRequestEnc = none)
    (hunknown : i.originIndexKeys [] = none) :
    i.evaluate P rand req = .error (.error (bytesOf "Unknown origin: ")) ∧
      i.evaluateWithoutCheck P rand req = .error (.error (bytesOf "Unknown origin: ")) := by
  simp only [RateLimitedIssuer.evaluate, RateLimitedIssuer.evaluateWithoutCheck,
    RateLimitedIssuer.evaluateChecks, RateLimitedIssuer.evaluateWithoutCheckChecks, hreq,
    decryptOriginTokenRequest_of_unmarshal_none henc hsetup hopen hr, ok_bind, unpadOriginName_nil,
    hunknown, List.append_nil]
  exact ⟨rfl, rfl⟩

theorem evaluate_short_signature_panics {i : RateLimitedIssuer} {rand : Entropy}
    {req : RateLimitedTokenRequest} {originTokenRequest : OriginTokenRequest} {secret : Bytes}
    {k : PrivateKey}
    (hdecrypt : decryptOriginTokenRequest P i.nameKey req.tokenKeyID req.encryptedTokenRequest =
      .ok (originTokenRequest, secret))
    (hk : i.originIndexKeys (unpadOriginName originTokenRequest.paddedOrigin) = some k)
    (hsig : req.signature.length < 48) :
    i.evaluate P rand req = .error (.panic (bytesOf "runtime error: slice bounds out of range")) := by
  have h48 : (p384BitSize + 7) / 8 = 48 := rfl
  simp only [RateLimitedIssuer.evaluate, RateLimitedIssuer.evaluateChecks, hdecrypt, ok_bind, hk,
    h48, slice_of_lt hsig]
  rfl

/-- Issuer states reached from `NewRateLimitedIssuer(key)` by `AddOrigin` calls. -/
inductive Built (P : Primitives) (key : RsaPrivateKey) : RateLimitedIssuer → Prop
  | new {rand i} : newRateLimitedIssuer P rand key = .ok (some i) → Built P key i
  | addOrigin {i i' rand origin} : Built P key i → i.addOrigin P rand origin = .ok i' →
      Built P key i'

/-- What every built issuer satisfies: its name key is a key pair of the X25519 suite with id
0, its token key is the one it was given, and each index key is a valid P-384 key. -/
structure RateLimitedIssuer.Invariant (P : Primitives) (key : RsaPrivateKey)
    (i : RateLimitedIssuer) : Prop where
  suite : i.nameKey.suite.IsX25519
  keyPair : ∃ ikm, i.nameKey.suite.deriveKeyPair ikm = .ok (i.nameKey.privateKey, i.nameKey.publicKey)
  id : i.nameKey.id = 0
  tokenKey : i.tokenKey = key
  originIndexKeys : ∀ o k, i.originIndexKeys o = some k → P.ValidKey k

/-- HPKE to the issuer's name key: `SetupBaseS` on its public key yields an `enc` that
`SetupBaseR` on its private key turns into the same context. -/
theorem RateLimitedIssuer.Invariant.setupBaseS {key : RsaPrivateKey} {i : RateLimitedIssuer}
    (hi : i.Invariant P key) (rand : Entropy) (info : Bytes) :
    ∃ enc context, i.publicNameKey.suite.setupBaseS rand i.publicNameKey.publicKey info =
        .ok (enc, context) ∧ enc.length = i.nameKey.suite.kemPublicKeySize ∧
      i.nameKey.suite.setupBaseR i.nameKey.privateKey enc info = .ok context := by
  obtain ⟨ikm, hkp⟩ := hi.keyPair
  exact hi.suite.lawful.setupBaseS_ok ikm _ _ rand info hkp

theorem newRateLimitedIssuer_invariant (hP : P.Lawful) {rand : Entropy} {key : RsaPrivateKey}
    {i : RateLimitedIssuer} (h : newRateLimitedIssuer P rand key = .ok (some i)) :
    i.Invariant P key := by
  obtain ⟨suite, hs, hx⟩ := hP.assembleCipherSuite_ok
  simp only [newRateLimitedIssuer, hs, orNil_ok, ok_bind] at h
  cases hd : suite.deriveKeyPair (randRead rand suite.kemPrivateKeySize) with
  | ok kp =>
    simp only [hd, orNil_ok, ok_bind, pure_eq_ok, Except.ok.injEq, Option.some.injEq] at h
    subst h
    exact ⟨hx, ⟨_, hd⟩, rfl, rfl, fun _ _ h => by simp at h⟩
  | error e => cases e <;> simp [hd, orNil] at h

theorem addOrigin_invariant (hP : P.Lawful) {key : RsaPrivateKey} {i i' : RateLimitedIssuer}
    {rand : Entropy} {origin : Bytes} (hi : i.Invariant P key)
    (h : i.addOrigin P rand origin = .ok i') : i'.Invariant P key := by
  simp only [RateLimitedIssuer.addOrigin, bind_eq_ok, pure_eq_ok, Except.ok.injEq] at h
  obtain ⟨k, hk, rfl⟩ := h
  refine ⟨hi.suite, hi.keyPair, hi.id, hi.tokenKey, fun o k' h => ?_⟩
  by_cases ho : o = origin
  · simp only [ho, if_true, Option.some.injEq] at h
    exact h ▸ hP.generateKey_valid _ _ hk
  · simp only [ho, if_false] at h
    exact hi.originIndexKeys o k' h

/-- Every built issuer satisfies the invariant. -/
theorem Built.invariant (hP : P.Lawful) {key : RsaPrivateKey} {i : RateLimitedIssuer}
    (h : Built P key i) : i.Invariant P key := by
  induction h with
  | new h => exact newRateLimitedIssuer_invariant hP h
  | addOrigin _ h ih => exact addOrigin_invariant hP ih h

end Issuer

end RateLimitedIssuance
