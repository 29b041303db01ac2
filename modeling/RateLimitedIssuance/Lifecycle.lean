import RateLimitedIssuance.Index

namespace RateLimitedIssuance

/-- Issuer states reached from `i` by `AddOrigin` calls for `origins`, in that order. -/
inductive AddOrigins (P : Primitives) : RateLimitedIssuer → List Bytes → RateLimitedIssuer → Prop
  | nil (i : RateLimitedIssuer) : AddOrigins P i [] i
  | snoc {i i' i'' : RateLimitedIssuer} {origins : List Bytes} {rand : Entropy} {origin : Bytes} :
      AddOrigins P i origins i' → i'.addOrigin P rand origin = .ok i'' →
      AddOrigins P i (origins ++ [origin]) i''

section Lifecycle

variable {P : Primitives} {key : RsaPrivateKey} {i i' : RateLimitedIssuer} {origins : List Bytes}

theorem addOrigin_eq_ok {rand : Entropy} {origin : Bytes}
    (h : i.addOrigin P rand origin = .ok i') :
    ∃ k, P.generateKey rand = .ok k ∧ i'.nameKey = i.nameKey ∧ i'.tokenKey = i.tokenKey ∧
      i'.originIndexKeys origin = some k ∧
      ∀ o, o ≠ origin → i'.originIndexKeys o = i.originIndexKeys o := by
  simp only [RateLimitedIssuer.addOrigin, bind_eq_ok, pure_eq_ok, Except.ok.injEq] at h
  obtain ⟨k, hk, rfl⟩ := h
  exact ⟨k, hk, rfl, rfl, if_pos rfl, fun o ho => if_neg ho⟩

theorem AddOrigins.keys (h : AddOrigins P i origins i') :
    i'.nameKey = i.nameKey ∧ i'.tokenKey = i.tokenKey := by
  induction h with
  | nil => exact ⟨rfl, rfl⟩
  | snoc _ h ih =>
    obtain ⟨_, _, hn, ht, -⟩ := addOrigin_eq_ok h
    exact ⟨hn.trans ih.1, ht.trans ih.2⟩

theorem AddOrigins.originIndexKeys_of_not_mem (h : AddOrigins P i origins i') {o : Bytes}
    (ho : o ∉ origins) : i'.originIndexKeys o = i.originIndexKeys o := by
  induction h with
  | nil => rfl
  | @snoc _ _ _ _ origin _ h ih =>
    rw [List.mem_append, List.mem_singleton, not_or] at ho
    obtain ⟨_, _, -, -, -, hframe⟩ := addOrigin_eq_ok h
    rw [hframe o ho.2, ih ho.1]

theorem AddOrigins.originIndexKeys_of_mem (h : AddOrigins P i origins i') {o : Bytes}
    (ho : o ∈ origins) : ∃ k, i'.originIndexKeys o = some k := by
  induction h with
  | nil => cases ho
  | @snoc _ _ _ _ origin _ h ih =>
    obtain ⟨k, _, -, -, hself, hframe⟩ := addOrigin_eq_ok h
    by_cases he : o = origin
    · exact ⟨k, he ▸ hself⟩
    · rw [hframe o he]
      exact ih (by simpa [he] using ho)

theorem AddOrigins.built (hi : Built P key i) (h : AddOrigins P i origins i') : Built P key i' := by
  induction h with
  | nil => exact hi
  | snoc _ h ih => exact .addOrigin ih h

theorem Transparent.originIssuer_run :
    AddOrigins Transparent.primitives Transparent.issuer [[1]] Transparent.originIssuer :=
  .snoc (.nil _) (show Transparent.issuer.addOrigin Transparent.primitives
    (Transparent.constEntropy 0) [1] = .ok Transparent.originIssuer from rfl)

theorem Transparent.twoOriginIssuer_run :
    AddOrigins Transparent.primitives Transparent.originIssuer [[1, 0]]
      Transparent.twoOriginIssuer :=
  .snoc (.nil _) (show Transparent.originIssuer.addOrigin Transparent.primitives
    (Transparent.constEntropy 1) [1, 0] = .ok Transparent.twoOriginIssuer from rfl)

theorem newRateLimitedIssuer_originIndexKeys {rand : Entropy} {i₀ : RateLimitedIssuer}
    (h : newRateLimitedIssuer P rand key = .ok (some i₀)) (o : Bytes) :
    i₀.originIndexKeys o = none := by
  unfold newRateLimitedIssuer at h
  cases hs : P.assembleCipherSuite dhkemX25519 kdfHkdfSha256 aeadAesGcm128 with
  | error e => cases e <;> simp [hs, orNil] at h
  | ok suite =>
    cases hd : suite.deriveKeyPair (randRead rand suite.kemPrivateKeySize) with
    | error e => cases e <;> simp [hs, hd, orNil] at h
    | ok kp =>
      simp only [hs, hd, orNil_ok, ok_bind, pure_eq_ok, Except.ok.injEq, Option.some.injEq] at h
      subst h
      rfl

/-- The issuer registers exactly the origins it was given: after `NewRateLimitedIssuer` and
`AddOrigin` calls for `origins`, an origin has an index key if and only if it is one of them. -/
theorem originIndexKeys_isSome_iff_added {rand : Entropy} {i₀ : RateLimitedIssuer}
    (hnew : newRateLimitedIssuer P rand key = .ok (some i₀)) (hrun : AddOrigins P i₀ origins i)
    (o : Bytes) : (∃ k, i.originIndexKeys o = some k) ↔ o ∈ origins := by
  refine ⟨fun ⟨k, hk⟩ => ?_, hrun.originIndexKeys_of_mem⟩
  by_contra hnot
  rw [hrun.originIndexKeys_of_not_mem hnot, newRateLimitedIssuer_originIndexKeys hnew] at hk
  cases hk

theorem originIndexKeys_isSome_iff_added_transparent :
    newRateLimitedIssuer Transparent.primitives (Transparent.constEntropy 0) Transparent.tokenKey =
        .ok (some Transparent.issuer) ∧
      AddOrigins Transparent.primitives Transparent.issuer [[1]] Transparent.originIssuer ∧
      ((∃ k, Transparent.originIssuer.originIndexKeys [1, 0] = some k) ↔
        [1, 0] ∈ [[(1 : UInt8)]]) :=
  have hnew : newRateLimitedIssuer Transparent.primitives (Transparent.constEntropy 0)
      Transparent.tokenKey = .ok (some Transparent.issuer) := rfl
  ⟨hnew, Transparent.originIssuer_run,
    originIndexKeys_isSome_iff_added hnew Transparent.originIssuer_run [1, 0]⟩

theorem RateLimitedTokenRequestState.Sent.of_nameKey {c : RateLimitedClient} {o : Bytes}
    {blindKey : PrivateKey} {blindedMessage : Bytes} {st : RateLimitedTokenRequestState P}
    (hs : st.Sent P i key c o blindKey blindedMessage) (hn : i'.nameKey = i.nameKey) :
    st.Sent P i' key c o blindKey blindedMessage := by
  have hp : i'.publicNameKey = i.publicNameKey := by
    rw [RateLimitedIssuer.publicNameKey, RateLimitedIssuer.publicNameKey, hn]
  exact { hs with
    decrypt := hn ▸ hs.decrypt
    length_encryptedTokenRequest := hn ▸ hs.length_encryptedTokenRequest
    encapEnc := hn ▸ hs.encapEnc
    nameKey := hp ▸ hs.nameKey
    nameKeyID := hp ▸ hs.nameKeyID }

/-- A request stays good while the issuer registers origins: the request a client made to a
built issuer for origin `o`, with any 32-byte token key ID, is served by every state the issuer
reaches by later `AddOrigin` calls in which `o` is registered, whether or not `o` was
registered when the request was made; and `FinalizeToken` turns the response into a token for
the client's nonce, challenge and key ID that verifies under the issuer's key. -/
theorem issuance_after_addOrigins (hP : P.Lawful) (hkey : P.ValidRsa2048 key)
    (hi : Built P key i) {c : RateLimitedClient} {secret : Bytes}
    (hc : createRateLimitedClientFromSecret P secret = .ok c) {rand : ClientEntropy}
    {challenge nonce blindKeyEnc tokenKeyID o : Bytes} {st : RateLimitedTokenRequestState P}
    (hst : c.createTokenRequest P rand challenge nonce blindKeyEnc tokenKeyID i.publicTokenKey o
      i.publicNameKey = .ok st)
    (hnonce : nonce.length = 32) (htid : tokenKeyID.length = 32) (hrun : AddOrigins P i origins i')
    {k : PrivateKey} (ho : i'.originIndexKeys o = some k) (hlast : ∀ h : o ≠ [], o.getLast h ≠ 0)
    (rn : Entropy) :
    ∃ response blindedRequestKeyEnc,
      i'.evaluate P rn st.request = .ok (response, blindedRequestKeyEnc) ∧
      ∃ token, st.finalizeToken P response = .ok token ∧
        token.tokenType = P.rateLimitedTokenType ∧ token.nonce = nonce ∧
        token.context = P.sha256 challenge ∧ token.keyID = tokenKeyID ∧
        P.verifyPSS i'.publicTokenKey (P.sha384 token.authenticatorInput) token.authenticator =
          .ok () := by
  obtain ⟨-, -, blindKey, bm, -, hs⟩ := createTokenRequest_sent_of_built hP hkey hi hc hst
  have hinv' := (hrun.built hi).invariant hP
  have hs' := hs.of_nameKey hrun.keys.1
  obtain ⟨-, -, -, -, -, -, -, -, -, -, -, htok, -⟩ := createTokenRequest_inv hst
  obtain ⟨ct, bRKE, bs, hev, -, -, hbs, hopen⟩ := hs'.evaluate hP hinv'
    (by rw [unpadOriginName_padOriginName_of_getLast hlast, ho]) rn
  obtain ⟨sig, hfin, hver⟩ := hs'.finalizeToken hP htok rfl hnonce (hP.length_sha256 _) htid
    hopen hbs
  refine ⟨_, bRKE, hev, _, hfin, rfl, rfl, rfl, rfl, ?_⟩
  rw [RateLimitedIssuer.publicTokenKey, hinv'.tokenKey]
  exact hver

theorem issuance_after_addOrigins_transparent :
    ∃ st, Transparent.client.createTokenRequest Transparent.primitives
        ⟨Transparent.constEntropy 0, Transparent.constEntropy 0, Transparent.constEntropy 0⟩
        [] (List.replicate 32 0) [] (List.replicate 32 0) Transparent.issuer.publicTokenKey [1]
        Transparent.issuer.publicNameKey = .ok st ∧
      Transparent.issuer.originIndexKeys [1] = none ∧
      ∃ response blindedRequestKeyEnc,
        Transparent.originIssuer.evaluate Transparent.primitives (Transparent.constEntropy 0)
          st.request = .ok (response, blindedRequestKeyEnc) ∧
        ∃ token, st.finalizeToken Transparent.primitives response = .ok token ∧
          token.tokenType = Transparent.primitives.rateLimitedTokenType ∧
          token.nonce = List.replicate 32 0 ∧ token.context = Transparent.primitives.sha256 [] ∧
          token.keyID = List.replicate 32 0 ∧
          Transparent.primitives.verifyPSS Transparent.originIssuer.publicTokenKey
            (Transparent.primitives.sha384 token.authenticatorInput) token.authenticator =
            .ok () := by
  obtain ⟨st, hst, -⟩ := Transparent.request_sent Transparent.issuer_built [1] (by decide)
  exact ⟨st, hst, rfl, issuance_after_addOrigins Transparent.lawful Transparent.tokenKey_valid
    Transparent.issuer_built (Transparent.client_eq []) hst (List.length_replicate 32 0)
    (List.length_replicate 32 0) Transparent.originIssuer_run (k := ⟨⟨1, 0⟩, 1⟩) rfl
    (fun _ => by simp) _⟩

/-- `Evaluate` and `EvaluateWithoutCheck` read the origin map only at names that
`unpadOriginName` returns. -/
theorem evaluate_congr_unpad (hn : i'.nameKey = i.nameKey) (ht : i'.tokenKey = i.tokenKey)
    (hk : ∀ p, i'.originIndexKeys (unpadOriginName p) = i.originIndexKeys (unpadOriginName p))
    (rand : Entropy) (req : RateLimitedTokenRequest) :
    i'.evaluate P rand req = i.evaluate P rand req ∧
      i'.evaluateWithoutCheck P rand req = i.evaluateWithoutCheck P rand req := by
  simp only [RateLimitedIssuer.evaluate, RateLimitedIssuer.evaluateWithoutCheck,
    RateLimitedIssuer.evaluateChecks, RateLimitedIssuer.evaluateWithoutCheckChecks, hn, ht, hk,
    and_self]

/-- Registering origins whose names end in a zero byte changes nothing `Evaluate` or
`EvaluateWithoutCheck` does, on any request: both look the origin up by `unpadOriginName`,
which never returns such a name. -/
theorem addOrigins_trailing_zero_unread (hrun : AddOrigins P i origins i')
    (hz : ∀ o ∈ origins, ∃ h : o ≠ [], o.getLast h = 0) (rand : Entropy)
    (req : RateLimitedTokenRequest) :
    i'.evaluate P rand req = i.evaluate P rand req ∧
      i'.evaluateWithoutCheck P rand req = i.evaluateWithoutCheck P rand req := by
  refine evaluate_congr_unpad hrun.keys.1 hrun.keys.2 (fun p => ?_) rand req
  refine hrun.originIndexKeys_of_not_mem fun hm => ?_
  obtain ⟨ho, hz'⟩ := hz _ hm
  exact unpadOriginName_ne_of_getLast_eq_zero ho hz' p rfl

theorem addOrigins_trailing_zero_unread_transparent :
    AddOrigins Transparent.primitives Transparent.originIssuer [[1, 0]]
        Transparent.twoOriginIssuer ∧
      (∀ o ∈ [[(1 : UInt8), 0]], ∃ h : o ≠ [], o.getLast h = 0) ∧
      ∃ st, Transparent.client.createTokenRequest Transparent.primitives
          ⟨Transparent.constEntropy 0, Transparent.constEntropy 0, Transparent.constEntropy 0⟩
          [] (List.replicate 32 0) [] (List.replicate 32 0) Transparent.originIssuer.publicTokenKey
          [1, 0] Transparent.originIssuer.publicNameKey = .ok st ∧
        Transparent.twoOriginIssuer.evaluate Transparent.primitives (Transparent.constEntropy 0)
            st.request =
          Transparent.originIssuer.evaluate Transparent.primitives (Transparent.constEntropy 0)
            st.request ∧
        Transparent.twoOriginIssuer.evaluateWithoutCheck Transparent.primitives
            (Transparent.constEntropy 0) st.request =
          Transparent.originIssuer.evaluateWithoutCheck Transparent.primitives
            (Transparent.constEntropy 0) st.request := by
  have hz : ∀ o ∈ [[(1 : UInt8), 0]], ∃ h : o ≠ [], o.getLast h = 0 := fun o ho => by
    rw [List.mem_singleton] at ho
    exact ho ▸ ⟨List.cons_ne_nil _ _, rfl⟩
  obtain ⟨st, hst, -⟩ := Transparent.request_sent Transparent.originIssuer_built [1, 0] (by decide)
  exact ⟨Transparent.twoOriginIssuer_run, hz, st, hst,
    addOrigins_trailing_zero_unread Transparent.twoOriginIssuer_run hz _ _⟩

end Lifecycle

end RateLimitedIssuance
