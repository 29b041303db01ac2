import RateLimitedIssuance.Issuer

namespace RateLimitedIssuance

namespace Transparent

/-- The suite: `DeriveKeyPair` returns `ikm` twice, and the context is the key and `info`. -/
def suite : CipherSuite where
  kemID := dhkemX25519
  kdfID := kdfHkdfSha256
  aeadID := aeadAesGcm128
  kemPublicKeySize := 32
  kemPrivateKeySize := 32
  aeadKeySize := 16
  aeadNonceSize := 12
  deriveKeyPair ikm := .ok (ikm, ikm)
  setupBaseS rand publicKey info := .ok (randRead rand 32, publicKey ++ info)
  setupBaseR privateKey _ info := .ok (privateKey ++ info)
  contextSeal _ _ pt := pt
  contextOpen _ _ ct := .ok ct
  contextExport _ _ L := List.replicate L 0
  extract salt ikm := salt ++ ikm
  expand _ _ L := List.replicate L 0
  aeadSeal _ _ pt _ := .ok pt
  aeadOpen _ _ ct _ := .ok ct

theorem suite_isX25519 : suite.IsX25519 where
  lawful :=
    { setupBaseS_ok := fun ikm sk pk rand info h => by
        simp only [suite, Except.ok.injEq, Prod.mk.injEq] at h
        obtain ⟨rfl, rfl⟩ := h
        exact ⟨_, _, rfl, length_randRead rand 32, rfl⟩
      contextOpen_contextSeal := fun _ _ _ => rfl
      length_expand := fun _ _ L => List.length_replicate L 0
      aeadOpen_aeadSeal := fun _ _ pt _ _ _ => ⟨pt, rfl, rfl⟩ }
  kemID := rfl
  kdfID := rfl
  aeadID := rfl
  kemPublicKeySize := rfl
  kemPrivateKeySize := rfl
  aeadKeySize := rfl
  aeadNonceSize := rfl
  deriveKeyPair_ok := fun ikm _ => ⟨ikm, ikm, rfl⟩

/-- The group law: `d` acts on the first coordinate by `^^^`, its own inverse. -/
def scalarMult (Q : Point) (d : Nat) : Point := ⟨Q.x ^^^ d, Q.y⟩

/-- Points with a 384-bit first coordinate and a zero second one. -/
def isOnCurve (Q : Point) : Bool := decide (Q.x < 256 ^ 48 ∧ Q.y = 0)

/-- What a `nil` coordinate does when it is dereferenced. -/
def nilDereference : Failure :=
  .panic (bytesOf "runtime error: invalid memory address or nil pointer dereference")

/-- `0x02` followed by the 48 bytes of the first coordinate. -/
def marshalCompressed : Option Point → Go Bytes
  | some Q => .ok (2 :: toBigEndian 48 Q.x)
  | none => .error nilDereference

/-- Multiplication of a public key by a scalar, as blinding and unblinding do it. -/
def mulPublicKey (Q : Option Point) (d : Nat) : Go (Option Point) :=
  match Q with
  | some Q => .ok (some (scalarMult Q d))
  | none => .error nilDereference

def unmarshalCompressed : Bytes → Option Point
  | b :: x => if b = 2 ∧ x.length = 48 then some ⟨setBytes x, 0⟩ else none
  | [] => none

/-- Reads `type ‖ nonce ‖ context ‖ keyID` and takes the rest as the authenticator. -/
def readToken (b : Bytes) : Option Token := do
  let (tokenType, s) ← readBytes b 2
  let (nonce, s) ← readBytes s 32
  let (context, s) ← readBytes s 32
  let (keyID, authenticator) ← readBytes s 32
  return { tokenType := UInt16.ofNat (setBytes tokenType), nonce, context, keyID, authenticator }

def unmarshalToken (b : Bytes) : Go Token :=
  match readToken b with
  | some t => .ok t
  | none => .error (.error (bytesOf "invalid token"))

/-- A lawful instance on which every hypothesis of the exchange theorems can be met: the
identity for `Seal`, `Open` and blind RSA, and scalar multiplication on P-384 replaced by
`x ^^^ d` on the first coordinate, with generator `(0, 0)`. -/
def primitives : Primitives where
  rateLimitedTokenType := 0x0003
  sha256 _ := List.replicate 32 0
  sha384 _ := List.replicate 48 0
  assembleCipherSuite _ _ _ := .ok suite
  nameKeyMarshal id _ _ _ publicKey := id :: publicKey
  marshalTokenKeyPSSOID _ := .ok []
  createKey _ := .ok ⟨⟨1, 0⟩, 1⟩
  generateKey rand := .ok ⟨⟨(rand 0).toNat + 1, 0⟩, (rand 0).toNat + 1⟩
  blindPublicKey Q k := mulPublicKey Q k.d
  unblindPublicKey Q k := mulPublicKey Q k.d
  blindKeySign _ _ _ _ := .ok (0, 0)
  verify _ _ _ _ := .ok true
  marshalCompressed := marshalCompressed
  unmarshalCompressed := unmarshalCompressed
  VerifierState := Unit
  blind _ _ _ := .ok (List.replicate 256 0, ())
  finalize _ blindSignature := .ok blindSignature
  blindSign _ blindedMsg := .ok blindedMsg
  verifyPSS _ _ _ := .ok ()
  rsaValidate _ := true
  unmarshalToken := unmarshalToken
  hkdfSha384 secret _ _ _ := .ok secret
  isOnCurve := isOnCurve
  scalarMult := scalarMult
  inverse d := d
  curveN := 256 ^ 48
  generator := ⟨0, 0⟩

theorem primitives_unmarshalCompressed : primitives.unmarshalCompressed = unmarshalCompressed := rfl

theorem primitives_unmarshalToken : primitives.unmarshalToken = unmarshalToken := rfl

theorem isOnCurve_iff (Q : Point) : isOnCurve Q = true ↔ Q.x < 256 ^ 48 ∧ Q.y = 0 := by
  simp [isOnCurve]

theorem isOnCurve_zero : isOnCurve ⟨0, 0⟩ = true := by decide

theorem scalarMult_zero (d : Nat) : scalarMult ⟨0, 0⟩ d = ⟨d, 0⟩ := by
  simp only [scalarMult, Nat.zero_xor]

theorem unmarshalCompressed_marshal {Q : Point} (h : isOnCurve Q = true) :
    unmarshalCompressed (2 :: toBigEndian 48 Q.x) = some Q := by
  obtain ⟨x, y⟩ := Q
  obtain ⟨hx, rfl⟩ := (isOnCurve_iff _).mp h
  have hd : setBytes (toBigEndian 48 x) = x := by rw [setBytes_toBigEndian, Nat.mod_eq_of_lt hx]
  simp [unmarshalCompressed, hd]

theorem unmarshalToken_append (t : Token) (sig : Bytes) (hn : t.nonce.length = 32)
    (hc : t.context.length = 32) (hk : t.keyID.length = 32) :
    unmarshalToken (t.authenticatorInput ++ sig) = .ok { t with authenticator := sig } := by
  have hty : UInt16.ofNat (setBytes (toBigEndian 2 t.tokenType.toNat)) = t.tokenType := by
    have := UInt16.toNat_lt_size t.tokenType
    have h2 : t.tokenType.toNat < 256 ^ 2 := this
    rw [setBytes_toBigEndian, Nat.mod_eq_of_lt h2]
    exact UInt16.toNat.inj (UInt16.toNat_ofNat_of_lt this)
  simp only [unmarshalToken, readToken, Token.authenticatorInput, List.append_assoc,
    Option.bind_eq_bind, readBytes_append _ (length_toBigEndian 2 _), Option.some_bind,
    readBytes_append _ hn, readBytes_append _ hc, readBytes_append _ hk, hty]

theorem lawful : primitives.Lawful where
  length_sha256 _ := List.length_replicate 32 0
  length_sha384 _ := List.length_replicate 48 0
  generator_onCurve := isOnCurve_zero
  assembleCipherSuite_ok := ⟨suite, rfl, suite_isX25519⟩
  createKey_valid e k h := by
    cases h
    exact ⟨by decide, by decide, (scalarMult_zero 1).symm⟩
  generateKey_valid rand k h := by
    cases h
    have := UInt8.toNat_lt_size (rand 0)
    refine ⟨Nat.succ_pos _, ?_, (scalarMult_zero _).symm⟩
    show (rand 0).toNat + 1 < 256 ^ 48
    simp only [UInt8.size] at this
    omega
  scalarMult_onCurve Q d hQ _ hd := by
    obtain ⟨hx, hy⟩ := (isOnCurve_iff Q).mp hQ
    have hxor : ∀ n, Q.x < 2 ^ n → d < 2 ^ n → Q.x ^^^ d < 2 ^ n := fun _ => Nat.xor_lt_two_pow
    have hd' : d < 256 ^ 48 := hd
    rw [← two_pow_384] at hx hd'
    exact (isOnCurve_iff (scalarMult Q d)).mpr ⟨two_pow_384 ▸ hxor 384 hx hd', hy⟩
  scalarMult_comm Q a b := by
    show Point.mk (Q.x ^^^ a ^^^ b) Q.y = Point.mk (Q.x ^^^ b ^^^ a) Q.y
    rw [Nat.xor_assoc, Nat.xor_comm a, ← Nat.xor_assoc]
  scalarMult_inverse Q a _ _ := by
    show Point.mk (Q.x ^^^ a ^^^ a) Q.y = Q
    rw [Nat.xor_assoc, Nat.xor_self, Nat.xor_zero]
  blindPublicKey_eq _ _ _ _ := rfl
  unblindPublicKey_eq _ _ _ _ := rfl
  marshalCompressed_ok Q hQ :=
    ⟨2 :: toBigEndian 48 Q.x, rfl, by rw [List.length_cons, length_toBigEndian],
      by rw [primitives_unmarshalCompressed]; exact unmarshalCompressed_marshal hQ⟩
  blindKeySign_ok _ _ _ _ _ _ :=
    have h : ∀ n, 0 < 2 ^ n := Nat.two_pow_pos
    ⟨0, 0, rfl, h 384, h 384, rfl⟩
  marshalTokenKeyPSSOID_ok _ _ := ⟨[], rfl⟩
  blind_ok _ _ _ _ :=
    ⟨_, (), rfl, List.length_replicate 256 0, _, rfl, _, rfl, List.length_replicate 256 0, rfl⟩
  unmarshalToken_append t sig _ hn hc hk _ := by
    rw [primitives_unmarshalToken]
    exact unmarshalToken_append t sig hn hc hk

/-- A 2048-bit RSA key. -/
def tokenKey : RsaPrivateKey := ⟨⟨2 ^ 2047, 65537⟩, 1⟩

theorem tokenKey_valid : primitives.ValidRsa2048 tokenKey := by
  have h : ∀ n m : Nat, n < m → 2 ^ n < 2 ^ m := fun _ _ => Nat.pow_lt_pow_of_lt (by decide)
  exact ⟨rfl, Nat.le_refl _, h 2047 2048 (by decide)⟩

/-- Entropy that reads the byte `b` everywhere. -/
def constEntropy (b : UInt8) : Entropy := fun _ => b

/-- The issuer `NewRateLimitedIssuer` returns on zero entropy. -/
def issuer : RateLimitedIssuer :=
  { nameKey := { id := 0x00, suite, publicKey := randRead (constEntropy 0) 32,
                 privateKey := randRead (constEntropy 0) 32 },
    tokenKey, originIndexKeys := fun _ => none }

theorem issuer_built : Built primitives tokenKey issuer :=
  @Built.new primitives tokenKey (constEntropy 0) issuer rfl

/-- The issuer after `AddOrigin([1])` on zero entropy: index key scalar 1. -/
def originIssuer : RateLimitedIssuer :=
  { issuer with originIndexKeys := fun o => if o = [1] then some ⟨⟨1, 0⟩, 1⟩ else none }

theorem originIssuer_built : Built primitives tokenKey originIssuer :=
  .addOrigin issuer_built (show issuer.addOrigin primitives (constEntropy 0) [1] = .ok originIssuer
    from rfl)

/-- `originIssuer` after `AddOrigin([1, 0])` on entropy 1: index key scalar 2 for `[1, 0]`. -/
def twoOriginIssuer : RateLimitedIssuer :=
  { issuer with
    originIndexKeys := fun o =>
      if o = [1, 0] then some ⟨⟨2, 0⟩, 2⟩ else if o = [1] then some ⟨⟨1, 0⟩, 1⟩ else none }

theorem twoOriginIssuer_built : Built primitives tokenKey twoOriginIssuer :=
  .addOrigin originIssuer_built
    (show originIssuer.addOrigin primitives (constEntropy 1) [1, 0] = .ok twoOriginIssuer from rfl)

/-- The client `CreateRateLimitedClientFromSecret` returns. -/
def client : RateLimitedClient := ⟨⟨⟨1, 0⟩, 1⟩⟩

theorem client_eq (secret : Bytes) : createRateLimitedClientFromSecret primitives secret = .ok client :=
  rfl

end Transparent

end RateLimitedIssuance
