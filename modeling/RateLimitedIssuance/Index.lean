import RateLimitedIssuance.Exchange

namespace RateLimitedIssuance

section Index

variable {P : Primitives} {key : RsaPrivateKey} {i : RateLimitedIssuer} {c : RateLimitedClient}
  {o : Bytes} {blindKey : PrivateKey} {blindedMessage : Bytes}
  {st : RateLimitedTokenRequestState P}

/-- The blind cancels: unblinding `(P_c · b) · k` by `b` leaves `P_c · k`. -/
theorem scalarMult_unblind (hP : P.Lawful) (Q : Point) {b : Nat} (hb : 0 < b) (hbN : b < P.curveN)
    (k : Nat) : P.scalarMult (P.scalarMult (P.scalarMult Q b) k) (P.inverse b) = P.scalarMult Q k := by
  rw [hP.scalarMult_comm Q b k, hP.scalarMult_inverse _ _ hb hbN]

/-- `FinalizeIndex` on the blinded request key of either evaluation of a sent request is the
index of the client key and `k · P_c`, for the index key `k` of the origin that the padded
origin unpads to. -/
theorem RateLimitedTokenRequestState.Sent.finalizeIndex (hP : P.Lawful) (hi : i.Invariant P key)
    (hc : P.ValidKey c.secretKey) (hs : st.Sent P i key c o blindKey blindedMessage)
    {blindKeyEnc : Bytes} (hb : P.createKey blindKeyEnc = .ok blindKey) {k : PrivateKey}
    (hk : i.originIndexKeys (unpadOriginName (padOriginName o)) = some k) {rn : Entropy}
    {out : Bytes × Bytes}
    (hout : i.evaluate P rn st.request = .ok out ∨ i.evaluateWithoutCheck P rn st.request = .ok out)
    (clientKey : Bytes) :
    ∃ indexKeyEnc, P.marshalCompressed (some (P.scalarMult c.secretKey.publicKey k.d)) =
        .ok indexKeyEnc ∧
      finalizeIndex P clientKey blindKeyEnc out.2 = computeIndex P clientKey indexKeyEnc := by
  obtain ⟨ct, bRKE, bs, hev, hwc, hm, -⟩ := hs.evaluate hP hi hk rn
  have hout2 : out.2 = bRKE := by
    rcases hout with h | h
    · rw [hev, Except.ok.injEq] at h
      rw [← h]
    · rw [hwc, Except.ok.injEq] at h
      rw [← h]
  have hkv := hi.originIndexKeys _ _ hk
  have hR := hP.scalarMult_onCurve _ _ hs.requestKey_onCurve hkv.1 hkv.2.1
  obtain ⟨b, hb', -, hbQ⟩ := hP.marshalCompressed_ok _ hR
  rw [hm, Except.ok.injEq] at hb'
  obtain ⟨e, he, -⟩ := hP.marshalCompressed_ok _ (hP.scalarMult_onCurve _ _ (hP.isOnCurve_of_validKey hc) hkv.1 hkv.2.1)
  refine ⟨e, he, ?_⟩
  rw [hout2, hb', finalizeIndex_eq hbQ hb (hP.unblindPublicKey_eq _ _ hR hs.blindKey_valid),
    scalarMult_unblind hP _ hs.blindKey_valid.1 hs.blindKey_valid.2.1, he]
  rfl

theorem Transparent.twoOriginIssuer_originIndexKeys_unpad :
    Transparent.twoOriginIssuer.originIndexKeys (unpadOriginName (padOriginName [1, 0])) =
      some ⟨⟨1, 0⟩, 1⟩ := by
  rw [unpadOriginName_padOriginName]
  rfl

/-- Attester index independence from the blind: `FinalizeIndex` on the blinded request key that
`Evaluate` or `EvaluateWithoutCheck` returns is `computeIndex` of the client key and the
encoding of `k · P_c`, for `k` the index key of the origin that `o` unpads to; the blind does not
appear. -/
theorem finalizeIndex_blind_independent (hP : P.Lawful) (hkey : P.ValidRsa2048 key)
    (hi : Built P key i) {k : PrivateKey}
    (ho : i.originIndexKeys (unpadOriginName (padOriginName o)) = some k) {secret : Bytes}
    (hc : createRateLimitedClientFromSecret P secret = .ok c) {rand : ClientEntropy}
    {challenge nonce blindKeyEnc tokenKeyID : Bytes}
    (hst : c.createTokenRequest P rand challenge nonce blindKeyEnc tokenKeyID i.publicTokenKey o
      i.publicNameKey = .ok st) {rn : Entropy} {out : Bytes × Bytes}
    (hout : i.evaluate P rn st.request = .ok out ∨ i.evaluateWithoutCheck P rn st.request = .ok out)
    (clientKey : Bytes) :
    ∃ indexKeyEnc, P.marshalCompressed (some (P.scalarMult c.secretKey.publicKey k.d)) =
        .ok indexKeyEnc ∧
      finalizeIndex P clientKey blindKeyEnc out.2 = computeIndex P clientKey indexKeyEnc := by
  obtain ⟨hinv, hck, blindKey, bm, hb, hs⟩ := createTokenRequest_sent_of_built hP hkey hi hc hst
  exact hs.finalizeIndex hP hinv hck hb ho hout clientKey

theorem finalizeIndex_blind_independent_transparent :
    ∃ st out, Transparent.client.createTokenRequest Transparent.primitives
        ⟨Transparent.constEntropy 0, Transparent.constEntropy 0, Transparent.constEntropy 0⟩
        [] (List.replicate 32 0) [] (List.replicate 32 0) Transparent.twoOriginIssuer.publicTokenKey
        [1, 0] Transparent.twoOriginIssuer.publicNameKey = .ok st ∧
      Transparent.twoOriginIssuer.evaluate Transparent.primitives (Transparent.constEntropy 0)
        st.request = .ok out ∧
      ∃ indexKeyEnc, Transparent.primitives.marshalCompressed
          (some (Transparent.primitives.scalarMult Transparent.client.secretKey.publicKey 1)) =
          .ok indexKeyEnc ∧
        finalizeIndex Transparent.primitives [] [] out.2 =
          computeIndex Transparent.primitives [] indexKeyEnc := by
  obtain ⟨st, hst, _, _, -, hs⟩ :=
    Transparent.request_sent Transparent.twoOriginIssuer_built [1, 0] (by decide)
  obtain ⟨_, _, _, hev, -⟩ := hs.evaluate Transparent.lawful
    (Transparent.twoOriginIssuer_built.invariant Transparent.lawful)
    Transparent.twoOriginIssuer_originIndexKeys_unpad (Transparent.constEntropy 0)
  exact ⟨st, _, hst, hev, finalizeIndex_blind_independent Transparent.lawful
    Transparent.tokenKey_valid Transparent.twoOriginIssuer_built
    Transparent.twoOriginIssuer_originIndexKeys_unpad (Transparent.client_eq []) hst (.inl hev) []⟩

/-- The index follows the origin the issuer looks up, `unpadOriginName (padOriginName o)`: for
`o = [1, 0]`, registered with index scalar 2 on an issuer that also registered `[1]`,
`FinalizeIndex` gives the index of `[1]`'s key, not of `o`'s. -/
theorem finalizeIndex_trailing_zero_origin :
    Transparent.twoOriginIssuer.originIndexKeys [1, 0] = some ⟨⟨2, 0⟩, 2⟩ ∧
      ¬ ∀ (st : RateLimitedTokenRequestState Transparent.primitives) (out : Bytes × Bytes),
      Transparent.client.createTokenRequest Transparent.primitives
          ⟨Transparent.constEntropy 0, Transparent.constEntropy 0, Transparent.constEntropy 0⟩
          [] (List.replicate 32 0) [] (List.replicate 32 0)
          Transparent.twoOriginIssuer.publicTokenKey [1, 0]
          Transparent.twoOriginIssuer.publicNameKey = .ok st →
      Transparent.twoOriginIssuer.evaluate Transparent.primitives (Transparent.constEntropy 0)
          st.request = .ok out →
      ∃ indexKeyEnc, Transparent.primitives.marshalCompressed
          (some (Transparent.primitives.scalarMult Transparent.client.secretKey.publicKey 2)) =
          .ok indexKeyEnc ∧
        finalizeIndex Transparent.primitives [] [] out.2 =
          computeIndex Transparent.primitives [] indexKeyEnc := by
  refine ⟨rfl, fun h => ?_⟩
  have hinv := Transparent.twoOriginIssuer_built.invariant Transparent.lawful
  have hc := Transparent.lawful.createKey_valid [] Transparent.client.secretKey rfl
  obtain ⟨st, hst, _, _, hb, hs⟩ :=
    Transparent.request_sent Transparent.twoOriginIssuer_built [1, 0] (by decide)
  -- `[1, 0]` unpads to `[1]`, whose index key has scalar 1.
  have hk := Transparent.twoOriginIssuer_originIndexKeys_unpad
  obtain ⟨_, _, _, hev, -⟩ := hs.evaluate Transparent.lawful hinv hk (Transparent.constEntropy 0)
  obtain ⟨e1, he1, hidx1⟩ := hs.finalizeIndex Transparent.lawful hinv hc hb hk (.inl hev) []
  obtain ⟨e2, he2, hidx2⟩ := h st _ hst hev
  rw [hidx1] at hidx2
  cases he1
  cases he2
  have := congrArg List.tail (Except.ok.inj hidx2)
  exact absurd (toBigEndian_injective (by decide) (by decide) this) (by decide)

end Index

end RateLimitedIssuance
