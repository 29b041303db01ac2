import Mathlib.Data.List.Basic
import Mathlib.Algebra.Order.Group.Nat

namespace RateLimitedIssuance

/-- Go's `[]byte`, and Go's `string` where the code converts between the two. -/
abbrev Bytes := List UInt8

/-- The bytes of a Go string literal. -/
def bytesOf (s : String) : Bytes := s.toUTF8.toList

/-- How a Go call ends without a value: a non-nil `error`, or a panic, each with its text. -/
inductive Failure where
  | error (message : Bytes)
  | panic (value : Bytes)
deriving DecidableEq, Repr

/-- A Go call: its results, or the way it failed. -/
abbrev Go := Except Failure

/-- The call came back to its caller, with results or an `error`: it did not panic. -/
def returns {α : Type} : Go α → Bool
  | .error (.panic _) => false
  | _ => true

/-- `if err != nil { panic(err) }`. -/
def orPanic {α : Type} : Go α → Go α
  | .error (.error m) => .error (.panic m)
  | r => r

@[simp] theorem orPanic_ok {α : Type} (a : α) : orPanic (Except.ok a : Go α) = .ok a := rfl

@[simp] theorem ok_bind {α β : Type} (a : α) (f : α → Go β) : (Except.ok a >>= f) = f a := rfl

@[simp] theorem error_bind {α β : Type} (e : Failure) (f : α → Go β) :
    (Except.error e >>= f) = Except.error e := rfl

@[simp] theorem pure_eq_ok {α : Type} (a : α) : (pure a : Go α) = .ok a := rfl

@[simp] theorem throw_eq_error {α : Type} (e : Failure) : (throw e : Go α) = .error e := rfl

theorem bind_eq_ok {α β : Type} {x : Go α} {f : α → Go β} {b : β} :
    (x >>= f) = .ok b ↔ ∃ a, x = .ok a ∧ f a = .ok b := by
  cases x <;> simp

@[simp] theorem returns_ok {α : Type} (a : α) : returns (Except.ok a : Go α) = true := rfl

@[simp] theorem returns_error {α : Type} (m : Bytes) :
    returns (Except.error (.error m) : Go α) = true := rfl

@[simp] theorem returns_panic {α : Type} (r : Bytes) :
    returns (Except.error (.panic r) : Go α) = false := rfl

/-- Go's `s[lo:hi]` on a slice whose capacity is its length: out of range, it panics. -/
def slice (s : Bytes) (lo hi : Nat) : Go Bytes :=
  if lo ≤ hi ∧ hi ≤ s.length then .ok ((s.take hi).drop lo)
  else .error (.panic (bytesOf "runtime error: slice bounds out of range"))

/-- Go's `s[i]`. -/
def index (s : Bytes) (i : Nat) : Go UInt8 :=
  match s[i]? with
  | some b => .ok b
  | none => .error (.panic (bytesOf "runtime error: index out of range"))

theorem slice_of_le {s : Bytes} {lo hi : Nat} (hlo : lo ≤ hi) (hhi : hi ≤ s.length) :
    slice s lo hi = .ok ((s.take hi).drop lo) := by
  simp [slice, hlo, hhi]

theorem slice_of_lt {s : Bytes} {lo hi : Nat} (h : s.length < hi) :
    slice s lo hi = .error (.panic (bytesOf "runtime error: slice bounds out of range")) := by
  simp [slice, show ¬hi ≤ s.length by omega]

theorem slice_of_lt_lo {s : Bytes} {lo hi : Nat} (h : hi < lo) :
    slice s lo hi = .error (.panic (bytesOf "runtime error: slice bounds out of range")) := by
  simp [slice, show ¬lo ≤ hi by omega]

@[simp] theorem slice_append_left (a b : Bytes) : slice (a ++ b) 0 a.length = .ok a := by
  simp [slice]

@[simp] theorem slice_append_right (a b : Bytes) :
    slice (a ++ b) a.length (a.length + b.length) = .ok b := by
  rw [← List.length_append, slice_of_le (by simp) le_rfl, List.take_length, List.drop_left]

theorem slice_eq_ok_iff {s r : Bytes} {lo hi : Nat} :
    slice s lo hi = .ok r ↔ lo ≤ hi ∧ hi ≤ s.length ∧ r = (s.take hi).drop lo := by
  unfold slice
  split <;> simp_all [eq_comm]

@[simp] theorem index_cons_zero (b : UInt8) (s : Bytes) : index (b :: s) 0 = .ok b := by
  simp [index]

theorem index_zero_of_pos {s : Bytes} (h : 0 < s.length) : ∃ b, index s 0 = .ok b := by
  cases s with
  | nil => cases h
  | cons b s => exact ⟨b, index_cons_zero b s⟩

/-- `x` as `n` big-endian bytes, most significant first: `x` modulo `256 ^ n`. -/
def toBigEndian : Nat → Nat → Bytes
  | 0, _ => []
  | n + 1, x => toBigEndian n (x / 256) ++ [UInt8.ofNat x]

/-- `new(big.Int).SetBytes(b)`: the unsigned big-endian value of `b`. -/
def setBytes (b : Bytes) : Nat := b.foldl (fun acc byte => acc * 256 + byte.toNat) 0

/-- `x.FillBytes(buf)` on a buffer of `n` bytes: `x` zero-padded on the left; it panics
when `x` needs more than `n` bytes. -/
def fillBytes (x n : Nat) : Go Bytes :=
  if x < 256 ^ n then .ok (toBigEndian n x)
  else .error (.panic (bytesOf "math/big: buffer too small to fit value"))

@[simp] theorem length_toBigEndian (n x : Nat) : (toBigEndian n x).length = n := by
  induction n generalizing x <;> simp [toBigEndian, *]

theorem setBytes_append_singleton (b : Bytes) (byte : UInt8) :
    setBytes (b ++ [byte]) = setBytes b * 256 + byte.toNat := by
  simp [setBytes, List.foldl_append]

theorem setBytes_toBigEndian (n x : Nat) : setBytes (toBigEndian n x) = x % 256 ^ n := by
  induction n generalizing x with
  | zero => simp [toBigEndian, setBytes, Nat.mod_one]
  | succ n ih =>
    have hx : (UInt8.ofNat x).toNat = x % 256 := rfl
    rw [toBigEndian, setBytes_append_singleton, ih, hx, pow_succ', Nat.mod_mul]
    omega

theorem setBytes_lt (b : Bytes) : setBytes b < 256 ^ b.length := by
  induction b using List.reverseRecOn with
  | nil => simp [setBytes]
  | append_singleton b byte ih =>
    have := UInt8.toNat_lt_size byte
    rw [setBytes_append_singleton, List.length_append, List.length_singleton, pow_succ]
    simp only [UInt8.size] at this
    omega

theorem toBigEndian_setBytes (b : Bytes) : toBigEndian b.length (setBytes b) = b := by
  induction b using List.reverseRecOn with
  | nil => rfl
  | append_singleton b byte ih =>
    have hb := UInt8.toNat_lt_size byte
    simp only [UInt8.size] at hb
    have hdiv : (setBytes b * 256 + byte.toNat) / 256 = setBytes b := by omega
    have hbyte : UInt8.ofNat (setBytes b * 256 + byte.toNat) = byte :=
      UInt8.toNat.inj (show (setBytes b * 256 + byte.toNat) % 256 = byte.toNat by omega)
    rw [List.length_append, List.length_singleton, toBigEndian, setBytes_append_singleton, hdiv,
      hbyte, ih]

theorem toBigEndian_injective {n x y : Nat} (hx : x < 256 ^ n) (hy : y < 256 ^ n)
    (h : toBigEndian n x = toBigEndian n y) : x = y := by
  have := congrArg setBytes h
  rwa [setBytes_toBigEndian, setBytes_toBigEndian, Nat.mod_eq_of_lt hx, Nat.mod_eq_of_lt hy] at this

theorem fillBytes_of_lt {x n : Nat} (h : x < 256 ^ n) : fillBytes x n = .ok (toBigEndian n x) := by
  simp [fillBytes, h]

theorem fillBytes_eq_ok_iff {x n : Nat} {b : Bytes} :
    fillBytes x n = .ok b ↔ x < 256 ^ n ∧ b = toBigEndian n x := by
  unfold fillBytes
  split <;> simp_all [eq_comm]

theorem two_pow_384 : (2 : Nat) ^ 384 = 256 ^ 48 := by
  rw [show (256 : Nat) = 2 ^ 8 from rfl, ← pow_mul]

theorem setBytes_signature {r s : Nat} (hr : r < 2 ^ 384) (hs : s < 2 ^ 384) :
    setBytes ((toBigEndian 48 r ++ toBigEndian 48 s).take 48) = r ∧
      setBytes ((toBigEndian 48 r ++ toBigEndian 48 s).drop 48) = s := by
  rw [two_pow_384] at hr hs
  rw [List.take_left' (length_toBigEndian 48 r), List.drop_left' (length_toBigEndian 48 r),
    setBytes_toBigEndian, setBytes_toBigEndian, Nat.mod_eq_of_lt hr, Nat.mod_eq_of_lt hs]
  exact ⟨rfl, rfl⟩

/-- Go's `AddUint16` writes `byte(v>>8), byte(v)`; two values with the same bytes are equal. -/
theorem toBigEndian_uint16_injective {a b : UInt16}
    (h : toBigEndian 2 a.toNat = toBigEndian 2 b.toNat) : a = b :=
  UInt16.toNat.inj (toBigEndian_injective (UInt16.toNat_lt_size a) (UInt16.toNat_lt_size b) h)

end RateLimitedIssuance
