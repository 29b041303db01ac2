import RateLimitedIssuance.Bytes
import Mathlib.Data.List.DropRight

namespace RateLimitedIssuance

/-- `padOriginName`: `N = 31 - ((len - 1) % 32)` zero bytes. Go's `%` truncates, so for the
empty name `-1 % 32 = -1` and `N = 32`. -/
def padOriginName (originName : Bytes) : Bytes :=
  let N : Int := 31 - ((originName.length : Int) - 1).tmod 32
  originName ++ List.replicate N.toNat 0

/-- The loop of `unpadOriginName`, at `lastNonZero = i - 1`. -/
def unpadScan (paddedOriginName : Bytes) : Nat → Bytes
  | 0 => []
  | i + 1 =>
    if paddedOriginName.getD i 0 ≠ 0 then paddedOriginName.take (i + 1)
    else unpadScan paddedOriginName i

/-- `unpadOriginName`: scan back from the last byte to the last nonzero one. -/
def unpadOriginName (paddedOriginName : Bytes) : Bytes :=
  unpadScan paddedOriginName paddedOriginName.length

@[simp] theorem unpadOriginName_nil : unpadOriginName [] = [] := rfl

theorem padOriginName_eq (s : Bytes) :
    padOriginName s =
      s ++ List.replicate (if s.length = 0 then 32 else 31 - (s.length - 1) % 32) 0 := by
  unfold padOriginName
  cases h : s.length with
  | zero => simp; decide
  | succ k =>
    have hN : (31 - (((k + 1 : Nat) : Int) - 1).tmod 32).toNat = 31 - k % 32 := by
      rw [show ((k + 1 : Nat) : Int) - 1 = ((k : Nat) : Int) by omega,
        show (k : Int).tmod 32 = ((k % 32 : Nat) : Int) from (Int.ofNat_tmod k 32).symm]
      omega
    simp only [hN, Nat.add_one_ne_zero, if_false, Nat.add_sub_cancel]

theorem length_padOriginName (s : Bytes) :
    (padOriginName s).length =
      s.length + if s.length = 0 then 32 else 31 - (s.length - 1) % 32 := by
  simp [padOriginName_eq]

theorem length_padOriginName_least (s : Bytes) :
    (padOriginName s).length % 32 = 0 ∧ 0 < (padOriginName s).length ∧
      s.length ≤ (padOriginName s).length ∧
      ∀ m, 0 < m → m % 32 = 0 → s.length ≤ m → (padOriginName s).length ≤ m := by
  rw [length_padOriginName]
  refine ⟨?_, ?_, ?_, fun m hm h32 hs => ?_⟩ <;> split <;> omega

/-- The empty name pads to a full block of 32 zero bytes. -/
example : padOriginName [] = List.replicate 32 0 := by decide

theorem unpadScan_eq (p : Bytes) {i : Nat} (hi : i ≤ p.length) :
    unpadScan p i = (p.take i).rdropWhile (· == 0) := by
  induction i with
  | zero => simp [unpadScan]
  | succ i ih =>
    have hlt : i < p.length := hi
    rw [unpadScan, List.take_succ, List.getElem?_eq_getElem hlt, Option.toList_some,
      List.rdropWhile_concat, ← ih (by omega), List.getD_eq_getElem?_getD,
      List.getElem?_eq_getElem hlt, Option.getD_some]
    by_cases h0 : p[i] = 0 <;> simp [h0]

theorem unpadOriginName_eq (p : Bytes) : unpadOriginName p = p.rdropWhile (· == 0) := by
  rw [unpadOriginName, unpadScan_eq p le_rfl, List.take_length]

theorem rdropWhile_append_zeros (s : Bytes) (n : Nat) :
    (s ++ List.replicate n 0).rdropWhile (· == 0) = s.rdropWhile (· == 0) := by
  induction n with
  | zero => simp
  | succ n ih =>
    rw [List.replicate_succ', ← List.append_assoc, List.rdropWhile_concat_pos _ _ _ (by decide), ih]

theorem unpadOriginName_padOriginName (s : Bytes) :
    unpadOriginName (padOriginName s) = s.rdropWhile (· == 0) := by
  rw [unpadOriginName_eq, padOriginName_eq, rdropWhile_append_zeros]

/-- A name that ends in a zero byte loses it in the round trip. -/
example : unpadOriginName (padOriginName [1, 0]) = [1] := by decide

theorem unpadOriginName_padOriginName_of_getLast {s : Bytes}
    (h : ∀ h : s ≠ [], s.getLast h ≠ 0) : unpadOriginName (padOriginName s) = s := by
  rw [unpadOriginName_padOriginName, List.rdropWhile_eq_self_iff]
  simpa using h

/-- `unpadOriginName` never returns a name that ends in a zero byte. -/
theorem unpadOriginName_ne_of_getLast_eq_zero {o : Bytes} (ho : o ≠ []) (hz : o.getLast ho = 0)
    (p : Bytes) : unpadOriginName p ≠ o := by
  intro h
  have hfix : o.rdropWhile (· == 0) = o := by
    rw [← h, unpadOriginName_eq, List.rdropWhile_idempotent]
  exact List.rdropWhile_eq_self_iff.mp hfix ho (by simp [hz])

/-- Padding law: `pad` appends zero bytes up to the least positive multiple of 32, `unpad`
strips trailing zeros, and they round-trip exactly on names that are empty or end in a
nonzero byte. -/
theorem origin_padding_law (s p : Bytes) :
    padOriginName s = s ++ List.replicate ((padOriginName s).length - s.length) 0 ∧
      ((padOriginName s).length % 32 = 0 ∧ 0 < (padOriginName s).length ∧
        s.length ≤ (padOriginName s).length ∧
        ∀ m, 0 < m → m % 32 = 0 → s.length ≤ m → (padOriginName s).length ≤ m) ∧
      unpadOriginName p = p.rdropWhile (· == 0) ∧
      (unpadOriginName (padOriginName s) = s ↔ ∀ h : s ≠ [], s.getLast h ≠ 0) := by
  refine ⟨?_, length_padOriginName_least s, unpadOriginName_eq p, ?_⟩
  · rw [length_padOriginName, Nat.add_sub_cancel_left]
    exact padOriginName_eq s
  · rw [unpadOriginName_padOriginName, List.rdropWhile_eq_self_iff]
    simp

end RateLimitedIssuance
