import RateLimitedIssuance.Exchange

namespace RateLimitedIssuance

section Binding

variable {P : Primitives}

/-- The AAD determines the name-key id, the three suite identifiers, the token key ID and
the configuration ID. -/
theorem hpkeAad_injective {id id' tokenKeyID tokenKeyID' : UInt8} {suite suite' : CipherSuite}
    {configID configID' : Bytes}
    (h : hpkeAad P id suite tokenKeyID configID = hpkeAad P id' suite' tokenKeyID' configID') :
    id = id' ∧ suite.kemID = suite'.kemID ∧ suite.kdfID = suite'.kdfID ∧
      suite.aeadID = suite'.aeadID ∧ tokenKeyID = tokenKeyID' ∧ configID = configID' := by
  unfold hpkeAad at h
  obtain ⟨h1, hc⟩ := List.append_inj h (by simp)
  obtain ⟨h2, ht⟩ := List.append_inj h1 (by simp)
  obtain ⟨h3, -⟩ := List.append_inj h2 (by simp)
  obtain ⟨h4, haead⟩ := List.append_inj h3 (by simp)
  obtain ⟨h5, hkdf⟩ := List.append_inj h4 (by simp)
  obtain ⟨hid, hkem⟩ := List.append_inj h5 (by simp)
  exact ⟨List.singleton_inj.mp hid, toBigEndian_uint16_injective hkem,
    toBigEndian_uint16_injective hkdf, toBigEndian_uint16_injective haead,
    List.singleton_inj.mp ht, hc⟩

/-- The signed outer message determines the token key ID, a 32-byte `nameKeyID` and the
encrypted request. -/
theorem signedOuterMessage_injective {tokenKeyID tokenKeyID' : UInt8}
    {nameKeyID nameKeyID' encryptedTokenRequest encryptedTokenRequest' : Bytes}
    (hn : nameKeyID.length = 32) (hn' : nameKeyID'.length = 32)
    (h : signedOuterMessage P tokenKeyID nameKeyID encryptedTokenRequest =
      signedOuterMessage P tokenKeyID' nameKeyID' encryptedTokenRequest') :
    tokenKeyID = tokenKeyID' ∧ nameKeyID = nameKeyID' ∧
      encryptedTokenRequest = encryptedTokenRequest' := by
  unfold signedOuterMessage at h
  obtain ⟨h1, he⟩ := List.append_inj h (by simp [hn, hn'])
  obtain ⟨h2, hnk⟩ := List.append_inj h1 (by simp)
  exact ⟨List.singleton_inj.mp (List.append_cancel_left h2), hnk, he⟩

/-- Request metadata binding: the AAD that `encryptOriginTokenRequest` builds for the issuer's
`NameKey()` is the one `decryptOriginTokenRequest` builds for the same token key ID, the
message `CreateTokenRequest` signs is the one `Evaluate` verifies, and each encoding is
injective in what it binds. -/
theorem request_metadata_binding :
    (∀ (i : RateLimitedIssuer) (tokenKeyID : UInt8),
      (encryptOriginTokenRequestAad P i.publicNameKey tokenKeyID
          (P.sha256 (P.nameKeyEncoding i.publicNameKey))).bytesOrPanic =
        (decryptOriginTokenRequestAad P i.nameKey tokenKeyID
          (P.sha256 (P.nameKeyEncoding i.nameKey.public))).bytesOrPanic) ∧
    (∀ req : RateLimitedTokenRequest,
      (createTokenRequestMessage P req.tokenKeyID req.nameKeyID req.encryptedTokenRequest).bytesOrPanic =
        (evaluateMessage P req).bytesOrPanic) ∧
    (∀ (tokenKeyID tokenKeyID' : UInt8)
        (nameKeyID nameKeyID' encryptedTokenRequest encryptedTokenRequest' : Bytes),
      nameKeyID.length = 32 → nameKeyID'.length = 32 →
      (createTokenRequestMessage P tokenKeyID nameKeyID encryptedTokenRequest).bytesOrPanic =
        (createTokenRequestMessage P tokenKeyID' nameKeyID' encryptedTokenRequest').bytesOrPanic →
      tokenKeyID = tokenKeyID' ∧ nameKeyID = nameKeyID' ∧
        encryptedTokenRequest = encryptedTokenRequest') ∧
    (∀ (nameKey nameKey' : PublicNameKey) (tokenKeyID tokenKeyID' : UInt8)
        (configID configID' : Bytes),
      (encryptOriginTokenRequestAad P nameKey tokenKeyID configID).bytesOrPanic =
        (encryptOriginTokenRequestAad P nameKey' tokenKeyID' configID').bytesOrPanic →
      nameKey.id = nameKey'.id ∧ nameKey.suite.kemID = nameKey'.suite.kemID ∧
        nameKey.suite.kdfID = nameKey'.suite.kdfID ∧ nameKey.suite.aeadID = nameKey'.suite.aeadID ∧
        tokenKeyID = tokenKeyID' ∧ configID = configID') := by
  refine ⟨fun i tokenKeyID => ?_, fun req => ?_, fun _ _ _ _ _ _ hn hn' h => ?_,
    fun _ _ _ _ _ _ h => ?_⟩
  · rw [encryptOriginTokenRequestAad_bytesOrPanic, decryptOriginTokenRequestAad_bytesOrPanic]
    rfl
  · rw [createTokenRequestMessage_bytesOrPanic, evaluateMessage_bytesOrPanic]
  · rw [createTokenRequestMessage_bytesOrPanic, createTokenRequestMessage_bytesOrPanic,
      Except.ok.injEq] at h
    exact signedOuterMessage_injective hn hn' h
  · rw [encryptOriginTokenRequestAad_bytesOrPanic, encryptOriginTokenRequestAad_bytesOrPanic,
      Except.ok.injEq] at h
    exact hpkeAad_injective h

theorem request_metadata_binding_transparent :
    (List.replicate 32 (0 : UInt8)).length = 32 ∧
      ((0 : UInt8) = 0 ∧ List.replicate 32 (0 : UInt8) = List.replicate 32 0 ∧ ([] : Bytes) = []) :=
  ⟨List.length_replicate 32 0, (request_metadata_binding (P := Transparent.primitives)).2.2.1 0 0
    (List.replicate 32 0) (List.replicate 32 0) [] [] (List.length_replicate 32 0)
    (List.length_replicate 32 0) rfl⟩

/-- The AAD binds the token key ID at the functions: `encryptOriginTokenRequest` to the issuer's
`NameKey()` seals the request under the AAD its builder makes for token key ID `t`; the AAD
that `decryptOriginTokenRequest` builds for `t'` is that one exactly when `t' = t`, and with
`t` the issuer decrypts the request and exports the client's secret. -/
theorem encryptOriginTokenRequest_aad_binding {key : RsaPrivateKey} {i : RateLimitedIssuer}
    (hi : i.Invariant P key) {rand : Entropy} {tokenKeyID : UInt8}
    {blindedMessage requestKey o nameKeyID encryptedTokenRequest secret : Bytes}
    (hbm : blindedMessage.length = 256) (hrk : requestKey.length = 49)
    (h : encryptOriginTokenRequest P rand i.publicNameKey tokenKeyID blindedMessage requestKey o =
      .ok (nameKeyID, encryptedTokenRequest, secret)) :
    ∃ enc context aad,
      (encryptOriginTokenRequestAad P i.publicNameKey tokenKeyID nameKeyID).bytesOrPanic = .ok aad ∧
      encryptedTokenRequest = enc ++ i.nameKey.suite.contextSeal context aad
        ({ blindedMsg := blindedMessage, requestKey,
           paddedOrigin := padOriginName o } : OriginTokenRequest).encoding ∧
      (∀ tokenKeyID', (decryptOriginTokenRequestAad P i.nameKey tokenKeyID'
          (P.sha256 (P.nameKeyEncoding i.nameKey.public))).bytesOrPanic = .ok aad ↔
        tokenKeyID' = tokenKeyID) ∧
      decryptOriginTokenRequest P i.nameKey tokenKeyID encryptedTokenRequest =
        .ok ({ blindedMsg := blindedMessage, requestKey, paddedOrigin := padOriginName o },
          secret) := by
  have hdec := (encryptOriginTokenRequest_decrypt hi hbm hrk h).2.2
  obtain ⟨enc, context, -, -, rfl, rfl, -⟩ := encryptOriginTokenRequest_inv h
  refine ⟨enc, context, _, encryptOriginTokenRequestAad_bytesOrPanic _ _ _ _, rfl,
    fun tokenKeyID' => ?_, hdec⟩
  rw [decryptOriginTokenRequestAad_bytesOrPanic, Except.ok.injEq]
  constructor
  · exact fun h => (hpkeAad_injective h).2.2.2.2.1
  · rintro rfl
    rfl

theorem encryptOriginTokenRequest_aad_binding_transparent :
    ∃ nameKeyID encryptedTokenRequest secret,
      encryptOriginTokenRequest Transparent.primitives (Transparent.constEntropy 0)
          Transparent.issuer.publicNameKey 7 (List.replicate 256 0) (List.replicate 49 2) [1] =
        .ok (nameKeyID, encryptedTokenRequest, secret) ∧
      ∃ enc context aad,
        (encryptOriginTokenRequestAad Transparent.primitives Transparent.issuer.publicNameKey 7
          nameKeyID).bytesOrPanic = .ok aad ∧
        encryptedTokenRequest = enc ++ Transparent.issuer.nameKey.suite.contextSeal context aad
          ({ blindedMsg := List.replicate 256 0, requestKey := List.replicate 49 2,
             paddedOrigin := padOriginName [1] } : OriginTokenRequest).encoding ∧
        (∀ tokenKeyID', (decryptOriginTokenRequestAad Transparent.primitives
            Transparent.issuer.nameKey tokenKeyID' (Transparent.primitives.sha256
              (Transparent.primitives.nameKeyEncoding Transparent.issuer.nameKey.public))).bytesOrPanic =
            .ok aad ↔ tokenKeyID' = 7) ∧
        decryptOriginTokenRequest Transparent.primitives Transparent.issuer.nameKey 7
            encryptedTokenRequest =
          .ok ({ blindedMsg := List.replicate 256 0, requestKey := List.replicate 49 2,
                 paddedOrigin := padOriginName [1] }, secret) := by
  have hinv := Transparent.issuer_built.invariant Transparent.lawful
  obtain ⟨nameKeyID, encryptedTokenRequest, secret, h⟩ :=
    encryptOriginTokenRequest_ok hinv (Transparent.constEntropy 0) 7 (List.replicate 256 0)
      (List.replicate 49 2) (o := [1]) (by decide)
  exact ⟨nameKeyID, encryptedTokenRequest, secret, h, encryptOriginTokenRequest_aad_binding hinv
    (List.length_replicate 256 0) (List.length_replicate 49 2) h⟩

end Binding

end RateLimitedIssuance
