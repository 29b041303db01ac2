import RateLimitedIssuance.Exchange

namespace RateLimitedIssuance

/-- A Go `[]byte`: the bytes it shows and the spare capacity of its array past them. `encapEnc`
(line 321) and the `enc` of `Evaluate` are such slices of the request's ciphertext, and the salt's
`append` (lines 200, 512 and 576) writes the response nonce into that array when it has room. -/
structure Slice where
  view : Bytes
  spare : Bytes
deriving DecidableEq, Repr

namespace Slice

/-- Its array, from its first byte to its capacity. -/
def array (s : Slice) : Bytes := s.view ++ s.spare

/-- `array[0:len]`. -/
def ofArray (array : Bytes) (len : Nat) : Slice := ⟨array.take len, array.drop len⟩

/-- `s[0:hi]`: Go bounds `hi` by the capacity, not by the length. -/
def reslice (s : Slice) (hi : Nat) : Go Slice :=
  if hi ≤ s.array.length then .ok (ofArray s.array hi)
  else .error (.panic (bytesOf "runtime error: slice bounds out of range"))

/-- `copy(array[off:], xs)` with room for `xs`: the bytes at `[off, off + |xs|)` become `xs`. -/
def copyAt (array : Bytes) (off : Nat) (xs : Bytes) : Bytes :=
  array.take off ++ xs ++ array.drop (off + xs.length)

/-- `append(s, xs...)`. When `xs` fits in the spare capacity it is copied there, into the array
that every other slice of it sees; otherwise the result gets a fresh array and the old one is
left as it was. Returns the result and the old array afterwards. Go may round a fresh array's
capacity up; nothing here appends to the result again. -/
def append (s : Slice) (xs : Bytes) : Slice × Bytes :=
  if xs.length ≤ s.spare.length then
    (⟨s.view ++ xs, s.spare.drop xs.length⟩, s.view ++ xs ++ s.spare.drop xs.length)
  else (⟨s.view ++ xs, []⟩, s.array)

@[simp] theorem view_ofArray (array : Bytes) (len : Nat) : (ofArray array len).view = array.take len :=
  rfl

@[simp] theorem array_ofArray (array : Bytes) (len : Nat) : (ofArray array len).array = array :=
  List.take_append_drop len array

@[simp] theorem append_view (s : Slice) (xs : Bytes) : (s.append xs).1.view = s.view ++ xs := by
  unfold append
  split <;> rfl

theorem reslice_of_le {s : Slice} {hi : Nat} (h : hi ≤ s.array.length) :
    s.reslice hi = .ok (ofArray s.array hi) :=
  if_pos h

theorem reslice_of_lt {s : Slice} {hi : Nat} (h : s.array.length < hi) :
    s.reslice hi = .error (.panic (bytesOf "runtime error: slice bounds out of range")) :=
  if_neg (Nat.not_le.mpr h)

theorem append_snd (s : Slice) (xs : Bytes) :
    (s.append xs).2 =
      if xs.length ≤ s.spare.length then copyAt s.array s.view.length xs else s.array := by
  simp only [append, copyAt, array, List.take_left, List.drop_append]
  split <;> rfl

theorem append_ofArray_snd {array : Bytes} {off : Nat} (h : off ≤ array.length) (xs : Bytes) :
    ((ofArray array off).append xs).2 =
      if off + xs.length ≤ array.length then copyAt array off xs else array := by
  have hv : (ofArray array off).view.length = off := by simp [h]
  rw [append_snd, hv, array_ofArray]
  simp only [ofArray, List.length_drop]
  congr 1
  exact propext (by omega)

theorem length_copyAt {array : Bytes} {off : Nat} {xs : Bytes} (h : off + xs.length ≤ array.length) :
    (copyAt array off xs).length = array.length := by
  simp only [copyAt, List.length_append, List.length_take, List.length_drop]
  omega

theorem take_copyAt {array : Bytes} {off : Nat} (h : off ≤ array.length) (xs : Bytes) :
    (copyAt array off xs).take off = array.take off := by
  have : (array.take off).length = off := by simp [h]
  rw [copyAt, List.append_assoc, List.take_left' this]

theorem drop_copyAt {array : Bytes} {off : Nat} (h : off ≤ array.length) (xs : Bytes) :
    (copyAt array off xs).drop (off + xs.length) = array.drop (off + xs.length) :=
  List.drop_left' (by simp [h])

theorem copyAt_copyAt {array : Bytes} {off : Nat} (h : off ≤ array.length) (xs : Bytes) :
    copyAt (copyAt array off xs) off xs = copyAt array off xs :=
  calc copyAt (copyAt array off xs) off xs
      = (copyAt array off xs).take off ++ xs ++ (copyAt array off xs).drop (off + xs.length) := rfl
    _ = copyAt array off xs := by rw [take_copyAt h, drop_copyAt h]; rfl

theorem take_append_ofArray_snd {array : Bytes} {off : Nat} (h : off ≤ array.length)
    (xs : Bytes) : ((ofArray array off).append xs).2.take off = array.take off := by
  rw [append_ofArray_snd h]
  split
  · exact take_copyAt h xs
  · rfl

theorem append_ofArray_snd_idem {array : Bytes} {off : Nat} (h : off ≤ array.length)
    (xs : Bytes) :
    ((ofArray ((ofArray array off).append xs).2 off).append xs).2 =
      ((ofArray array off).append xs).2 := by
  rw [append_ofArray_snd h]
  split
  · next hroom =>
    rw [append_ofArray_snd (by rw [length_copyAt hroom]; exact h), length_copyAt hroom,
      if_pos hroom, copyAt_copyAt h]
  · next hroom => rw [append_ofArray_snd h, if_neg hroom]

end Slice

/-- A `*RateLimitedTokenRequest` in memory: its ciphertext is a slice whose array other slices
may share. -/
structure SharedRequest where
  tokenKeyID : UInt8
  nameKeyID : Bytes
  encryptedTokenRequest : Slice
  signature : Bytes

/-- What the request holds. -/
def SharedRequest.value (req : SharedRequest) : RateLimitedTokenRequest :=
  { tokenKeyID := req.tokenKeyID, nameKeyID := req.nameKeyID,
    encryptedTokenRequest := req.encryptedTokenRequest.view, signature := req.signature }

@[simp] theorem SharedRequest.value_encryptedTokenRequest (req : SharedRequest) :
    req.value.encryptedTokenRequest = req.encryptedTokenRequest.view :=
  rfl

/-- A request whose ciphertext has `spare` bytes of capacity past it, as the
`append(enc, ct...)` of `encryptOriginTokenRequest` may leave it. -/
def RateLimitedTokenRequest.withSpare (req : RateLimitedTokenRequest) (spare : Bytes) :
    SharedRequest :=
  { tokenKeyID := req.tokenKeyID, nameKeyID := req.nameKeyID,
    encryptedTokenRequest := ⟨req.encryptedTokenRequest, spare⟩, signature := req.signature }

@[simp] theorem value_withSpare (req : RateLimitedTokenRequest) (spare : Bytes) :
    (req.withSpare spare).value = req :=
  rfl

@[simp] theorem withSpare_encryptedTokenRequest (req : RateLimitedTokenRequest) (spare : Bytes) :
    (req.withSpare spare).encryptedTokenRequest = ⟨req.encryptedTokenRequest, spare⟩ :=
  rfl

section Aliasing

variable (P : Primitives)

/-- `sealResponse` in memory: `enc := req.encryptedTokenRequest[0:Npk]` is a slice of the
request's array, and `salt := append(enc, responseNonce...)` copies the nonce into that array
when it has room. Returns the array afterwards too. -/
def CipherSuite.sealResponseShared (suite : CipherSuite) (rand : Entropy)
    (encryptedTokenRequest : Slice) (secret blindSignature : Bytes) : Go (Bytes × Bytes) × Bytes :=
  let responseNonce := randRead rand (max suite.aeadKeySize suite.aeadNonceSize)
  match encryptedTokenRequest.reslice suite.kemPublicKeySize with
  | .error e => (.error e, encryptedTokenRequest.array)
  | .ok enc =>
    let salt := enc.append responseNonce
    let prk := suite.extract salt.1.view secret
    let key := suite.expand prk labelResponseKey suite.aeadKeySize
    let nonce := suite.expand prk labelResponseNonce suite.aeadNonceSize
    ((do
      let ct ← suite.aeadSeal key nonce blindSignature []
      return (responseNonce, ct)), salt.2)

namespace RateLimitedIssuer

/-- The rest of `Evaluate` and `EvaluateWithoutCheck` once `checks` pass, on a request in
memory: seal the blind signature with the salt appended in the request's array, and answer with
`respond responseNonce ct`. Returns the result and the request's ciphertext array afterwards. -/
def sealShared (i : RateLimitedIssuer) (rand : Entropy) (req : SharedRequest)
    (checks : Go (Bytes × Bytes × Bytes)) (respond : Bytes → Bytes → Bytes) :
    Go (Bytes × Bytes) × Bytes :=
  match checks with
  | .error e => (.error e, req.encryptedTokenRequest.array)
  | .ok (secret, blindedRequestKeyEnc, blindSignature) =>
    let sealed :=
      i.nameKey.suite.sealResponseShared rand req.encryptedTokenRequest secret blindSignature
    ((do
      let (responseNonce, ct) ← sealed.1
      return (respond responseNonce ct, blindedRequestKeyEnc)), sealed.2)

/-- `Evaluate` on a request in memory: the response nonce goes in front of the sealed signature. -/
def evaluateShared (i : RateLimitedIssuer) (rand : Entropy) (req : SharedRequest) :
    Go (Bytes × Bytes) × Bytes :=
  i.sealShared rand req (i.evaluateChecks P req.value) (· ++ ·)

/-- `EvaluateWithoutCheck` on a request in memory: the sealed signature alone. -/
def evaluateWithoutCheckShared (i : RateLimitedIssuer) (rand : Entropy) (req : SharedRequest) :
    Go (Bytes × Bytes) × Bytes :=
  i.sealShared rand req (i.evaluateWithoutCheckChecks P req.value) fun _ ct => ct

end RateLimitedIssuer

/-- `FinalizeToken` with `encapEnc` the slice of the request's array that line 321 made and the
response a slice too: `encryptedtokenResponse[:responseNonceLen]` is bounded by the response's
capacity, and the salt's `append` copies the nonce into the request's array when it has room,
before anything else is checked. Returns the result and that array afterwards. -/
def RateLimitedTokenRequestState.finalizeTokenShared (s : RateLimitedTokenRequestState P)
    (encapEnc encryptedtokenResponse : Slice) : Go Token × Bytes :=
  let suite := s.nameKey.suite
  let responseNonceLen := max suite.aeadKeySize suite.aeadNonceSize
  match encryptedtokenResponse.reslice responseNonceLen with
  | .error e => (.error e, encapEnc.array)
  | .ok responseNonce =>
    let salt := encapEnc.append responseNonce.view
    let prk := suite.extract salt.1.view s.encapSecret
    let key := suite.expand prk labelResponseKey suite.aeadKeySize
    let nonce := suite.expand prk labelResponseNonce suite.aeadNonceSize
    ((do
      let ct ← slice encryptedtokenResponse.view responseNonceLen
        encryptedtokenResponse.view.length
      let blindSignature ← suite.aeadOpen key nonce ct []
      let signature ← P.finalize s.verifier blindSignature
      let token ← P.unmarshalToken (s.tokenInput ++ signature)
      P.verifyPSS s.verificationKey (P.sha384 token.authenticatorInput) token.authenticator
      return token), salt.2)

variable {P}

/-- With the encapsulation inside the ciphertext's view, sealing in memory seals what the value
model seals. -/
theorem sealResponseShared_fst {suite : CipherSuite} {rand : Entropy} {etr : Slice}
    (h : suite.kemPublicKeySize ≤ etr.view.length) (secret blindSignature : Bytes) :
    (suite.sealResponseShared rand etr secret blindSignature).1 =
      suite.sealResponse rand etr.view secret blindSignature := by
  have hcap : suite.kemPublicKeySize ≤ etr.array.length := by
    simp only [Slice.array, List.length_append]; omega
  have henc : etr.array.take suite.kemPublicKeySize = etr.view.take suite.kemPublicKeySize :=
    List.take_append_of_le_length h
  simp only [CipherSuite.sealResponseShared, CipherSuite.sealResponse, Slice.reslice_of_le hcap,
    Slice.append_view, Slice.view_ofArray, henc, slice_of_le (Nat.zero_le _) h, List.drop_zero,
    ok_bind]
  rfl

theorem sealResponseShared_snd (suite : CipherSuite) (rand : Entropy) (etr : Slice)
    (secret blindSignature : Bytes) :
    (suite.sealResponseShared rand etr secret blindSignature).2 =
      if suite.kemPublicKeySize + max suite.aeadKeySize suite.aeadNonceSize ≤ etr.array.length
      then Slice.copyAt etr.array suite.kemPublicKeySize
        (randRead rand (max suite.aeadKeySize suite.aeadNonceSize))
      else etr.array := by
  by_cases h : suite.kemPublicKeySize ≤ etr.array.length
  · simp only [CipherSuite.sealResponseShared, Slice.reslice_of_le h,
      Slice.append_ofArray_snd h, length_randRead]
  · have hn : ¬ suite.kemPublicKeySize + max suite.aeadKeySize suite.aeadNonceSize ≤
        etr.array.length := by omega
    simp only [CipherSuite.sealResponseShared, Slice.reslice_of_lt (Nat.lt_of_not_le h), hn,
      if_false]

/-- Past checks that leave the encapsulation inside the ciphertext's view, sealing in memory
answers what the value model answers. -/
theorem sealShared_fst {i : RateLimitedIssuer} {rand : Entropy} {req : SharedRequest}
    {checks : Go (Bytes × Bytes × Bytes)}
    (hlen : ∀ out, checks = .ok out →
      i.nameKey.suite.kemPublicKeySize ≤ req.encryptedTokenRequest.view.length)
    (respond : Bytes → Bytes → Bytes) :
    (i.sealShared rand req checks respond).1 =
      checks >>= fun (secret, blindedRequestKeyEnc, bs) => do
        let (responseNonce, ct) ←
          i.nameKey.suite.sealResponse rand req.encryptedTokenRequest.view secret bs
        return (respond responseNonce ct, blindedRequestKeyEnc) := by
  cases h : checks with
  | error e => rfl
  | ok out => simp only [RateLimitedIssuer.sealShared, ok_bind, sealResponseShared_fst (hlen out h)]

theorem sealShared_snd (i : RateLimitedIssuer) (rand : Entropy) (req : SharedRequest)
    (checks : Go (Bytes × Bytes × Bytes)) (respond : Bytes → Bytes → Bytes) :
    (i.sealShared rand req checks respond).2 =
      if checks.isOk ∧ i.nameKey.suite.kemPublicKeySize +
          max i.nameKey.suite.aeadKeySize i.nameKey.suite.aeadNonceSize ≤
          req.encryptedTokenRequest.array.length
      then Slice.copyAt req.encryptedTokenRequest.array i.nameKey.suite.kemPublicKeySize
        (randRead rand (max i.nameKey.suite.aeadKeySize i.nameKey.suite.aeadNonceSize))
      else req.encryptedTokenRequest.array := by
  cases checks with
  | error e => simp [RateLimitedIssuer.sealShared, Except.isOk, Except.toBool]
  | ok out =>
    simp only [RateLimitedIssuer.sealShared, sealResponseShared_snd, Except.isOk, Except.toBool,
      true_and]

theorem evaluateShared_fst (i : RateLimitedIssuer) (rand : Entropy) (req : SharedRequest) :
    (i.evaluateShared P rand req).1 = i.evaluate P rand req.value := by
  rw [RateLimitedIssuer.evaluateShared, sealShared_fst fun _ h => evaluateChecks_length h]
  rfl

theorem evaluateWithoutCheckShared_fst (i : RateLimitedIssuer) (rand : Entropy)
    (req : SharedRequest) :
    (i.evaluateWithoutCheckShared P rand req).1 = i.evaluateWithoutCheck P rand req.value := by
  rw [RateLimitedIssuer.evaluateWithoutCheckShared,
    sealShared_fst fun _ h => evaluateWithoutCheckChecks_length h]
  rfl

/-- With `encapEnc` showing the state's `encapEnc`, `FinalizeToken` in memory returns what the
value model returns on the response's view. A response shorter than the nonce but with the
capacity for it passes the first slice in memory and panics at the second, with the message the
value model panics with at the first. -/
theorem finalizeTokenShared_fst {s : RateLimitedTokenRequestState P} {encapEnc : Slice}
    (h : encapEnc.view = s.encapEnc) (response : Slice) :
    (s.finalizeTokenShared P encapEnc response).1 = s.finalizeToken P response.view := by
  by_cases hv : max s.nameKey.suite.aeadKeySize s.nameKey.suite.aeadNonceSize ≤ response.view.length
  · have hcap : max s.nameKey.suite.aeadKeySize s.nameKey.suite.aeadNonceSize ≤
        response.array.length := by
      simp only [Slice.array, List.length_append]; omega
    simp only [RateLimitedTokenRequestState.finalizeTokenShared,
      RateLimitedTokenRequestState.finalizeToken, Slice.reslice_of_le hcap, Slice.append_view,
      Slice.view_ofArray, Slice.array, List.take_append_of_le_length hv, h,
      slice_of_le (Nat.zero_le _) hv, List.drop_zero, ok_bind]
    rfl
  · rw [finalizeToken_of_lt (Nat.lt_of_not_le hv)]
    by_cases hc : max s.nameKey.suite.aeadKeySize s.nameKey.suite.aeadNonceSize ≤
        response.array.length
    · simp only [RateLimitedTokenRequestState.finalizeTokenShared, Slice.reslice_of_le hc,
        slice_of_lt_lo (Nat.lt_of_not_le hv), error_bind]
    · simp only [RateLimitedTokenRequestState.finalizeTokenShared,
        Slice.reslice_of_lt (Nat.lt_of_not_le hc)]

theorem finalizeTokenShared_snd_of_le {s : RateLimitedTokenRequestState P} {response : Slice}
    (hc : max s.nameKey.suite.aeadKeySize s.nameKey.suite.aeadNonceSize ≤ response.array.length)
    (encapEnc : Slice) :
    (s.finalizeTokenShared P encapEnc response).2 =
      (encapEnc.append (response.array.take
        (max s.nameKey.suite.aeadKeySize s.nameKey.suite.aeadNonceSize))).2 := by
  simp only [RateLimitedTokenRequestState.finalizeTokenShared, Slice.reslice_of_le hc,
    Slice.view_ofArray]

/-- The in-memory `Evaluate`, `EvaluateWithoutCheck` and `FinalizeToken` return what the value
model returns on what the slices show, whatever the capacities: no call reads the bytes its
`append` copies into a shared array. -/
theorem inMemory_refines_value (i : RateLimitedIssuer) (rand : Entropy) (req : SharedRequest)
    (s : RateLimitedTokenRequestState P) (spare : Bytes) (response : Slice) :
    (i.evaluateShared P rand req).1 = i.evaluate P rand req.value ∧
      (i.evaluateWithoutCheckShared P rand req).1 = i.evaluateWithoutCheck P rand req.value ∧
      (s.finalizeTokenShared P ⟨s.encapEnc, spare⟩ response).1 = s.finalizeToken P response.view :=
  ⟨evaluateShared_fst i rand req, evaluateWithoutCheckShared_fst i rand req,
    finalizeTokenShared_fst rfl response⟩

/-- What `Evaluate` and `EvaluateWithoutCheck` leave in the request's ciphertext array, for every
request and capacity: once their checks pass, the response nonce over the `m` bytes past the
encapsulation if the array has room for them, and otherwise the array as it was. -/
theorem evaluate_in_memory_writes_nonce (i : RateLimitedIssuer) (rand : Entropy)
    (req : SharedRequest) :
    (i.evaluateShared P rand req).2 =
        (if (i.evaluateChecks P req.value).isOk ∧ i.nameKey.suite.kemPublicKeySize +
            max i.nameKey.suite.aeadKeySize i.nameKey.suite.aeadNonceSize ≤
            req.encryptedTokenRequest.array.length
        then Slice.copyAt req.encryptedTokenRequest.array i.nameKey.suite.kemPublicKeySize
          (randRead rand (max i.nameKey.suite.aeadKeySize i.nameKey.suite.aeadNonceSize))
        else req.encryptedTokenRequest.array) ∧
      (i.evaluateWithoutCheckShared P rand req).2 =
        if (i.evaluateWithoutCheckChecks P req.value).isOk ∧ i.nameKey.suite.kemPublicKeySize +
            max i.nameKey.suite.aeadKeySize i.nameKey.suite.aeadNonceSize ≤
            req.encryptedTokenRequest.array.length
        then Slice.copyAt req.encryptedTokenRequest.array i.nameKey.suite.kemPublicKeySize
          (randRead rand (max i.nameKey.suite.aeadKeySize i.nameKey.suite.aeadNonceSize))
        else req.encryptedTokenRequest.array :=
  ⟨sealShared_snd i rand req _ _, sealShared_snd i rand req _ _⟩

/-- What `FinalizeToken` leaves in the array of `encapEnc`, for every state, response and
capacity: the first `m` bytes of the response over the `m` bytes past `encapEnc` as soon as the
response's capacity holds them and the array has room, before the response is opened, so a
response that then fails to open has altered the request all the same; otherwise the array as
it was. -/
theorem finalizeToken_in_memory_writes_nonce (s : RateLimitedTokenRequestState P)
    (encapEnc response : Slice) :
    (s.finalizeTokenShared P encapEnc response).2 =
      if max s.nameKey.suite.aeadKeySize s.nameKey.suite.aeadNonceSize ≤ response.array.length ∧
          max s.nameKey.suite.aeadKeySize s.nameKey.suite.aeadNonceSize ≤ encapEnc.spare.length
      then Slice.copyAt encapEnc.array encapEnc.view.length
        (response.array.take (max s.nameKey.suite.aeadKeySize s.nameKey.suite.aeadNonceSize))
      else encapEnc.array := by
  by_cases hc : max s.nameKey.suite.aeadKeySize s.nameKey.suite.aeadNonceSize ≤
      response.array.length
  · have hm : (response.array.take (max s.nameKey.suite.aeadKeySize
        s.nameKey.suite.aeadNonceSize)).length =
        max s.nameKey.suite.aeadKeySize s.nameKey.suite.aeadNonceSize := by simp [hc]
    rw [finalizeTokenShared_snd_of_le hc, Slice.append_snd, hm]
    simp only [hc, true_and]
  · simp only [RateLimitedTokenRequestState.finalizeTokenShared,
      Slice.reslice_of_lt (Nat.lt_of_not_le hc), hc, false_and, if_false]

/-- The exchange in one process, as the package's callers run it: `Evaluate` on the request the
client's state holds, then `FinalizeToken` on the response, whatever the spare capacity of the
two arrays. `Evaluate` copies the response nonce into the request's array, `FinalizeToken` reads
`encapEnc` from that array after the copy and copies the same nonce again. The token comes out
as in the value model, and the request the state holds is left with the response nonce over the
`m` ciphertext bytes past the encapsulation whenever its array has room for them. -/
theorem issuance_in_memory {key : RsaPrivateKey} {i : RateLimitedIssuer} (hP : P.Lawful)
    (hkey : P.ValidRsa2048 key) (hi : Built P key i) {c : RateLimitedClient} {secret : Bytes}
    (hc : createRateLimitedClientFromSecret P secret = .ok c) {rand : ClientEntropy}
    {challenge nonce blindKeyEnc tokenKeyID o : Bytes} {st : RateLimitedTokenRequestState P}
    (hst : c.createTokenRequest P rand challenge nonce blindKeyEnc tokenKeyID i.publicTokenKey o
      i.publicNameKey = .ok st)
    (hnonce : nonce.length = 32) (htid : tokenKeyID.length = 32) {k : PrivateKey}
    (ho : i.originIndexKeys o = some k) (hlast : ∀ h : o ≠ [], o.getLast h ≠ 0)
    (rn : Entropy) (spare responseSpare : Bytes) :
    ∃ response blindedRequestKeyEnc written token,
      i.evaluateShared P rn (st.request.withSpare spare) =
        (.ok (response, blindedRequestKeyEnc), written) ∧
      st.finalizeTokenShared P (Slice.ofArray written i.nameKey.suite.kemPublicKeySize)
        ⟨response, responseSpare⟩ = (.ok token, written) ∧
      written =
        (if i.nameKey.suite.kemPublicKeySize +
            max i.nameKey.suite.aeadKeySize i.nameKey.suite.aeadNonceSize ≤
            st.request.encryptedTokenRequest.length + spare.length
        then Slice.copyAt (st.request.encryptedTokenRequest ++ spare)
          i.nameKey.suite.kemPublicKeySize
          (randRead rn (max i.nameKey.suite.aeadKeySize i.nameKey.suite.aeadNonceSize))
        else st.request.encryptedTokenRequest ++ spare) ∧
      token.tokenType = P.rateLimitedTokenType ∧ token.nonce = nonce ∧
      token.context = P.sha256 challenge ∧ token.keyID = tokenKeyID ∧
      P.verifyPSS i.publicTokenKey (P.sha384 token.authenticatorInput) token.authenticator =
        .ok () := by
  obtain ⟨hinv, -, blindKey, bm, -, hs⟩ := createTokenRequest_sent_of_built hP hkey hi hc hst
  obtain ⟨-, -, -, -, -, -, -, -, -, -, -, htok, -⟩ := createTokenRequest_inv hst
  obtain ⟨ct, bRKE, bs, hev, -, -, hbs, hopen⟩ := hs.evaluate hP hinv
    (by rw [unpadOriginName_padOriginName_of_getLast hlast, ho]) rn
  obtain ⟨sig, hfin, hver⟩ := hs.finalizeToken hP htok rfl hnonce (hP.length_sha256 _) htid
    hopen hbs
  have hsuite : st.nameKey.suite = i.nameKey.suite := by rw [hs.nameKey]; rfl
  have hm := length_randRead rn (max i.nameKey.suite.aeadKeySize i.nameKey.suite.aeadNonceSize)
  have hA : i.nameKey.suite.kemPublicKeySize ≤ (st.request.encryptedTokenRequest ++ spare).length :=
    hs.length_encryptedTokenRequest.trans (by simp)
  -- What `Evaluate` leaves in the array, as an `append` to `encryptedTokenRequest[0:Npk]`.
  have hW := Slice.append_ofArray_snd hA
    (randRead rn (max i.nameKey.suite.aeadKeySize i.nameKey.suite.aeadNonceSize))
  rw [hm, List.length_append] at hW
  have hchecks : (i.evaluateChecks P st.request).isOk := by
    obtain ⟨_, hx, -⟩ := bind_eq_ok.mp (hev)
    rw [hx]
    rfl
  refine ⟨_, bRKE, _, _, Prod.ext ((evaluateShared_fst i rn _).trans hev) ?_,
    Prod.ext ((finalizeTokenShared_fst ?_ _).trans hfin) ?_, rfl, rfl, rfl, rfl, rfl, ?_⟩
  · simp only [RateLimitedIssuer.evaluateShared, sealShared_snd, value_withSpare, hchecks,
      true_and, withSpare_encryptedTokenRequest, Slice.array, List.length_append]
  · -- `FinalizeToken` reads the encapsulation the copy left alone.
    rw [Slice.view_ofArray, ← hW, Slice.take_append_ofArray_snd hA,
      List.take_append_of_le_length hs.length_encryptedTokenRequest, hs.encapEnc]
  · -- and copies the nonce `Evaluate` copied, where it copied it.
    have hc : max st.nameKey.suite.aeadKeySize st.nameKey.suite.aeadNonceSize ≤
        (Slice.array ⟨randRead rn (max i.nameKey.suite.aeadKeySize i.nameKey.suite.aeadNonceSize) ++
          ct, responseSpare⟩).length := by
      simp only [Slice.array, List.length_append, hsuite, hm]; omega
    rw [finalizeTokenShared_snd_of_le hc, hsuite, Slice.array, List.append_assoc,
      List.take_left' hm, ← hW, Slice.append_ofArray_snd_idem hA]
  · rw [RateLimitedIssuer.publicTokenKey, hinv.tokenKey]
    exact hver

theorem issuance_in_memory_transparent :
    ∃ st, Transparent.client.createTokenRequest Transparent.primitives
        ⟨Transparent.constEntropy 0, Transparent.constEntropy 0, Transparent.constEntropy 0⟩
        [] (List.replicate 32 0) [] (List.replicate 32 0) Transparent.originIssuer.publicTokenKey [1]
        Transparent.originIssuer.publicNameKey = .ok st ∧
      ∃ response blindedRequestKeyEnc written token,
        Transparent.originIssuer.evaluateShared Transparent.primitives (Transparent.constEntropy 0)
            (st.request.withSpare []) = (.ok (response, blindedRequestKeyEnc), written) ∧
        st.finalizeTokenShared Transparent.primitives
          (Slice.ofArray written Transparent.suite.kemPublicKeySize) ⟨response, []⟩ =
            (.ok token, written) ∧
        written =
          (if Transparent.suite.kemPublicKeySize +
              max Transparent.suite.aeadKeySize Transparent.suite.aeadNonceSize ≤
              st.request.encryptedTokenRequest.length + ([] : Bytes).length
          then Slice.copyAt (st.request.encryptedTokenRequest ++ []) Transparent.suite.kemPublicKeySize
            (randRead (Transparent.constEntropy 0)
              (max Transparent.suite.aeadKeySize Transparent.suite.aeadNonceSize))
          else st.request.encryptedTokenRequest ++ []) ∧
        token.tokenType = Transparent.primitives.rateLimitedTokenType ∧
        token.nonce = List.replicate 32 0 ∧ token.context = Transparent.primitives.sha256 [] ∧
        token.keyID = List.replicate 32 0 ∧
        Transparent.primitives.verifyPSS Transparent.originIssuer.publicTokenKey
          (Transparent.primitives.sha384 token.authenticatorInput) token.authenticator = .ok () := by
  obtain ⟨st, hst, -⟩ := Transparent.request_sent Transparent.originIssuer_built [1] (by decide)
  exact ⟨st, hst, issuance_in_memory Transparent.lawful Transparent.tokenKey_valid
    Transparent.originIssuer_built (Transparent.client_eq []) hst (List.length_replicate 32 0)
    (List.length_replicate 32 0) (k := ⟨⟨1, 0⟩, 1⟩) rfl (fun _ => by simp) _ [] []⟩

end Aliasing

end RateLimitedIssuance
