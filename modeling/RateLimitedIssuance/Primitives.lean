import RateLimitedIssuance.OriginTokenRequest
import RateLimitedIssuance.Padding
import Mathlib.Data.List.OfFn

namespace RateLimitedIssuance

/-- Random bytes as `rand.Reader` yields them. -/
abbrev Entropy := Nat → UInt8

/-- `rand.Read` into a fresh buffer of `n` bytes. -/
def randRead (rand : Entropy) (n : Nat) : Bytes := List.ofFn fun i : Fin n => rand i

@[simp] theorem length_randRead (rand : Entropy) (n : Nat) : (randRead rand n).length = n := by
  simp [randRead, List.length_ofFn]

/-- `elliptic.P384().Params().BitSize`. -/
def p384BitSize : Nat := 384

/-- Affine coordinates of a P-384 point. -/
structure Point where
  x : Nat
  y : Nat
deriving DecidableEq, Repr

/-- `ecdsa.PrivateKey`: its public point and its scalar `D`. -/
structure PrivateKey where
  publicKey : Point
  d : Nat
deriving DecidableEq, Repr

/-- `rsa.PublicKey`. -/
structure RsaPublicKey where
  n : Nat
  e : Nat
deriving DecidableEq, Repr

/-- `rsa.PrivateKey`. -/
structure RsaPrivateKey where
  publicKey : RsaPublicKey
  d : Nat
deriving DecidableEq, Repr

/-- `Token` of the surrounding framework. -/
structure Token where
  tokenType : UInt16
  nonce : Bytes
  context : Bytes
  keyID : Bytes
  authenticator : Bytes
deriving DecidableEq, Repr

/-- Modelled from the spec: `Token.AuthenticatorInput()` concatenates the fields preceding
the authenticator, the type as a big-endian `uint16`. -/
def Token.authenticatorInput (t : Token) : Bytes :=
  toBigEndian 2 t.tokenType.toNat ++ t.nonce ++ t.context ++ t.keyID

/-- Modelled from the spec: `RateLimitedTokenRequest`, the message the client sends. -/
structure RateLimitedTokenRequest where
  tokenKeyID : UInt8
  nameKeyID : Bytes
  encryptedTokenRequest : Bytes
  signature : Bytes
deriving DecidableEq, Repr

/-- An HPKE ciphersuite (`hpke.CipherSuite`): identifiers, sizes, and the KEM, KDF, AEAD and
context operations the exchange calls. A context is represented by its key schedule. -/
structure CipherSuite where
  kemID : UInt16
  kdfID : UInt16
  aeadID : UInt16
  kemPublicKeySize : Nat
  kemPrivateKeySize : Nat
  aeadKeySize : Nat
  aeadNonceSize : Nat
  /-- `KEM.DeriveKeyPair(ikm)`, as `(private, public)`. -/
  deriveKeyPair : Bytes → Go (Bytes × Bytes)
  /-- `hpke.SetupBaseS(suite, rand, pkR, info)`, as `(enc, context)`. -/
  setupBaseS : Entropy → Bytes → Bytes → Go (Bytes × Bytes)
  /-- `hpke.SetupBaseR(suite, skR, enc, info)`. -/
  setupBaseR : Bytes → Bytes → Bytes → Go Bytes
  /-- `context.Seal(aad, pt)`. -/
  contextSeal : Bytes → Bytes → Bytes → Bytes
  /-- `context.Open(aad, ct)`. -/
  contextOpen : Bytes → Bytes → Bytes → Go Bytes
  /-- `context.Export(exporterContext, L)`. -/
  contextExport : Bytes → Bytes → Nat → Bytes
  /-- `KDF.Extract(salt, ikm)`. -/
  extract : Bytes → Bytes → Bytes
  /-- `KDF.Expand(prk, info, L)`. -/
  expand : Bytes → Bytes → Nat → Bytes
  /-- `AEAD.New(key)`, then `Seal(nil, nonce, pt, aad)`. -/
  aeadSeal : Bytes → Bytes → Bytes → Bytes → Go Bytes
  /-- `AEAD.New(key)`, then `Open(nil, nonce, ct, aad)`. -/
  aeadOpen : Bytes → Bytes → Bytes → Bytes → Go Bytes

/-- `PublicNameKey`. -/
structure PublicNameKey where
  id : UInt8
  suite : CipherSuite
  publicKey : Bytes

/-- `PrivateNameKey`. -/
structure PrivateNameKey where
  id : UInt8
  suite : CipherSuite
  publicKey : Bytes
  privateKey : Bytes

/-- Modelled from the spec: `PrivateNameKey.Public()`, the key without its private part. -/
def PrivateNameKey.public (k : PrivateNameKey) : PublicNameKey := ⟨k.id, k.suite, k.publicKey⟩

/-- `hpke.DHKEM_X25519`. -/
def dhkemX25519 : UInt16 := 0x0020

/-- `hpke.KDF_HKDF_SHA256`. -/
def kdfHkdfSha256 : UInt16 := 0x0001

/-- `hpke.AEAD_AESGCM128`. -/
def aeadAesGcm128 : UInt16 := 0x0001

/-- The operations outside the file that the exchange calls: hashes, `hpke.AssembleCipherSuite`,
the `PublicNameKey` and `Token` codecs, P-384 key-blinding ECDSA (the `ecdsa` package and
`elliptic`), blind RSA, and HKDF-SHA384; `RateLimitedTokenType` is a constant of the token
framework. `isOnCurve`, `scalarMult`, `inverse`, `curveN` and `generator` name the curve
arithmetic in which the laws are stated. -/
structure Primitives where
  rateLimitedTokenType : UInt16
  sha256 : Bytes → Bytes
  sha384 : Bytes → Bytes
  assembleCipherSuite : UInt16 → UInt16 → UInt16 → Go CipherSuite
  /-- `PublicNameKey.Marshal()`, from the id, the suite identifiers and the KEM public key. -/
  nameKeyMarshal : UInt8 → UInt16 → UInt16 → UInt16 → Bytes → Bytes
  marshalTokenKeyPSSOID : RsaPublicKey → Go Bytes
  createKey : Bytes → Go PrivateKey
  generateKey : Entropy → Go PrivateKey
  /-- `ecdsa.BlindPublicKey`; `none` is a key whose coordinates are `nil`. -/
  blindPublicKey : Option Point → PrivateKey → Go (Option Point)
  unblindPublicKey : Option Point → PrivateKey → Go (Option Point)
  blindKeySign : Entropy → PrivateKey → PrivateKey → Bytes → Go (Nat × Nat)
  verify : Option Point → Bytes → Nat → Nat → Go Bool
  marshalCompressed : Option Point → Go Bytes
  /-- `elliptic.UnmarshalCompressed`; `none` is `(nil, nil)`. -/
  unmarshalCompressed : Bytes → Option Point
  VerifierState : Type
  /-- `blindrsa.NewRSAVerifier(pk, sha512.New384()).Blind(rand, msg)`. -/
  blind : RsaPublicKey → Entropy → Bytes → Go (Bytes × VerifierState)
  finalize : VerifierState → Bytes → Go Bytes
  /-- `blindrsa.NewRSASigner(sk).BlindSign(blindedMsg)`. -/
  blindSign : RsaPrivateKey → Bytes → Go Bytes
  /-- `rsa.VerifyPSS(pk, crypto.SHA384, digest, sig, {SHA384, salt 48})`. -/
  verifyPSS : RsaPublicKey → Bytes → Bytes → Go Unit
  /-- `(*rsa.PrivateKey).Validate() == nil`. -/
  rsaValidate : RsaPrivateKey → Bool
  unmarshalToken : Bytes → Go Token
  /-- `io.ReadFull(hkdf.New(sha512.New384, secret, salt, info), buf[:L])`. -/
  hkdfSha384 : Bytes → Bytes → Bytes → Nat → Go Bytes
  isOnCurve : Point → Bool
  scalarMult : Point → Nat → Point
  inverse : Nat → Nat
  curveN : Nat
  generator : Point

namespace Primitives

variable (P : Primitives)

/-- `PublicNameKey.Marshal()`. -/
def nameKeyEncoding (k : PublicNameKey) : Bytes :=
  P.nameKeyMarshal k.id k.suite.kemID k.suite.kdfID k.suite.aeadID k.publicKey

/-- A key as `CreateKey` and `GenerateKey` return it: a scalar `d` in `[1, N)` and the point
`d·G`. -/
def ValidKey (k : PrivateKey) : Prop :=
  0 < k.d ∧ k.d < P.curveN ∧ k.publicKey = P.scalarMult P.generator k.d

/-- A 2048-bit RSA key that passes `Validate()`. -/
def ValidRsa2048 (k : RsaPrivateKey) : Prop :=
  P.rsaValidate k = true ∧ 2 ^ 2047 ≤ k.publicKey.n ∧ k.publicKey.n < 2 ^ 2048

end Primitives

/-- The correctness laws of an HPKE suite: the receiver of `enc` gets the sender's context,
`Open` undoes `Seal`, `Expand` yields the length asked for, and the AEAD opens what it seals
under a key and nonce of the suite's sizes. -/
structure CipherSuite.Lawful (suite : CipherSuite) : Prop where
  setupBaseS_ok : ∀ ikm sk pk rand info, suite.deriveKeyPair ikm = .ok (sk, pk) →
    ∃ enc context, suite.setupBaseS rand pk info = .ok (enc, context) ∧
      enc.length = suite.kemPublicKeySize ∧ suite.setupBaseR sk enc info = .ok context
  contextOpen_contextSeal : ∀ context aad pt,
    suite.contextOpen context aad (suite.contextSeal context aad pt) = .ok pt
  length_expand : ∀ prk info L, (suite.expand prk info L).length = L
  aeadOpen_aeadSeal : ∀ key nonce pt aad, key.length = suite.aeadKeySize →
    nonce.length = suite.aeadNonceSize →
    ∃ ct, suite.aeadSeal key nonce pt aad = .ok ct ∧ suite.aeadOpen key nonce ct aad = .ok pt

/-- The suite `NewRateLimitedIssuer` assembles: DHKEM(X25519), HKDF-SHA256, AES-128-GCM. -/
structure CipherSuite.IsX25519 (suite : CipherSuite) : Prop where
  lawful : suite.Lawful
  kemID : suite.kemID = dhkemX25519
  kdfID : suite.kdfID = kdfHkdfSha256
  aeadID : suite.aeadID = aeadAesGcm128
  kemPublicKeySize : suite.kemPublicKeySize = 32
  kemPrivateKeySize : suite.kemPrivateKeySize = 32
  aeadKeySize : suite.aeadKeySize = 16
  aeadNonceSize : suite.aeadNonceSize = 12
  deriveKeyPair_ok : ∀ ikm, ikm.length = 32 → ∃ sk pk, suite.deriveKeyPair ikm = .ok (sk, pk)

/-- The correctness laws the exchange relies on. The generator is on the curve; scalar
multiplication keeps points on it, commutes and is undone by the inverse scalar (a prime-order
group); blinding and unblinding are multiplication by the key's scalar and by its inverse; the
compressed encoding round-trips; a blinded-key signature verifies under the blinded public key;
blind RSA signatures finalize to valid PSS signatures;
the token codec reads back an authenticator input followed by a signature. -/
structure Primitives.Lawful (P : Primitives) : Prop where
  length_sha256 : ∀ b, (P.sha256 b).length = 32
  length_sha384 : ∀ b, (P.sha384 b).length = 48
  generator_onCurve : P.isOnCurve P.generator = true
  assembleCipherSuite_ok : ∃ suite,
    P.assembleCipherSuite dhkemX25519 kdfHkdfSha256 aeadAesGcm128 = .ok suite ∧ suite.IsX25519
  createKey_valid : ∀ e k, P.createKey e = .ok k → P.ValidKey k
  generateKey_valid : ∀ rand k, P.generateKey rand = .ok k → P.ValidKey k
  scalarMult_onCurve : ∀ Q d, P.isOnCurve Q = true → 0 < d → d < P.curveN →
    P.isOnCurve (P.scalarMult Q d) = true
  scalarMult_comm : ∀ Q a b, P.scalarMult (P.scalarMult Q a) b = P.scalarMult (P.scalarMult Q b) a
  scalarMult_inverse : ∀ Q a, 0 < a → a < P.curveN →
    P.scalarMult (P.scalarMult Q a) (P.inverse a) = Q
  blindPublicKey_eq : ∀ Q k, P.isOnCurve Q = true → P.ValidKey k →
    P.blindPublicKey (some Q) k = .ok (some (P.scalarMult Q k.d))
  unblindPublicKey_eq : ∀ Q k, P.isOnCurve Q = true → P.ValidKey k →
    P.unblindPublicKey (some Q) k = .ok (some (P.scalarMult Q (P.inverse k.d)))
  marshalCompressed_ok : ∀ Q, P.isOnCurve Q = true →
    ∃ b, P.marshalCompressed (some Q) = .ok b ∧ b.length = 49 ∧ P.unmarshalCompressed b = some Q
  blindKeySign_ok : ∀ rand sk b digest, P.ValidKey sk → P.ValidKey b →
    ∃ r s, P.blindKeySign rand sk b digest = .ok (r, s) ∧ r < 2 ^ 384 ∧ s < 2 ^ 384 ∧
      P.verify (some (P.scalarMult sk.publicKey b.d)) digest r s = .ok true
  marshalTokenKeyPSSOID_ok : ∀ k, P.ValidRsa2048 k → ∃ b, P.marshalTokenKeyPSSOID k.publicKey = .ok b
  blind_ok : ∀ k rand msg, P.ValidRsa2048 k →
    ∃ blindedMsg state, P.blind k.publicKey rand msg = .ok (blindedMsg, state) ∧
      blindedMsg.length = 256 ∧ ∃ blindSig, P.blindSign k blindedMsg = .ok blindSig ∧
        ∃ sig, P.finalize state blindSig = .ok sig ∧ sig.length = 256 ∧
          P.verifyPSS k.publicKey (P.sha384 msg) sig = .ok ()
  unmarshalToken_append : ∀ (t : Token) sig, t.tokenType = P.rateLimitedTokenType →
    t.nonce.length = 32 → t.context.length = 32 → t.keyID.length = 32 → sig.length = 256 →
    P.unmarshalToken (t.authenticatorInput ++ sig) = .ok { t with authenticator := sig }

theorem Primitives.Lawful.isOnCurve_of_validKey {P : Primitives} (hP : P.Lawful) {k : PrivateKey}
    (hk : P.ValidKey k) : P.isOnCurve k.publicKey = true := by
  rw [hk.2.2]
  exact hP.scalarMult_onCurve _ _ hP.generator_onCurve hk.1 hk.2.1

end RateLimitedIssuance
