import RateLimitedIssuance.Bytes

namespace RateLimitedIssuance

/-- `cryptobyte.Builder`: the bytes added so far, and the error that stopped it, if any. -/
structure Builder where
  result : Bytes
  err : Option String

namespace Builder

/-- `cryptobyte.NewBuilder(nil)`. -/
def new : Builder := ⟨[], none⟩

/-- `AddBytes`: ignored once the builder has an error. -/
def addBytes (b : Builder) (v : Bytes) : Builder :=
  match b.err with
  | none => ⟨b.result ++ v, none⟩
  | some _ => b

/-- `AddUint8`. -/
def addUint8 (b : Builder) (v : UInt8) : Builder := b.addBytes [v]

/-- `AddUint16`: `byte(v>>8), byte(v)`. -/
def addUint16 (b : Builder) (v : UInt16) : Builder := b.addBytes (toBigEndian 2 v.toNat)

/-- `AddUint16LengthPrefixed` whose continuation adds exactly `child`: a child longer than
`0xFFFF` bytes records the error of `flushChild`. -/
def addUint16LengthPrefixed (b : Builder) (child : Bytes) : Builder :=
  match b.err with
  | some _ => b
  | none =>
    if 0xFFFF < child.length then
      ⟨b.result, some ("cryptobyte: pending child length " ++ toString child.length ++
        " exceeds 2-byte length prefix")⟩
    else ⟨b.result ++ toBigEndian 2 child.length ++ child, none⟩

/-- `BytesOrPanic`: panics with the recorded error. -/
def bytesOrPanic (b : Builder) : Go Bytes :=
  match b.err with
  | none => .ok b.result
  | some e => .error (.panic (bytesOf e))

@[simp] theorem addBytes_mk (r v : Bytes) : (⟨r, none⟩ : Builder).addBytes v = ⟨r ++ v, none⟩ := rfl

@[simp] theorem addUint8_mk (r : Bytes) (v : UInt8) :
    (⟨r, none⟩ : Builder).addUint8 v = ⟨r ++ [v], none⟩ := rfl

@[simp] theorem addUint16_mk (r : Bytes) (v : UInt16) :
    (⟨r, none⟩ : Builder).addUint16 v = ⟨r ++ toBigEndian 2 v.toNat, none⟩ := rfl

@[simp] theorem new_eq : new = ⟨[], none⟩ := rfl

@[simp] theorem bytesOrPanic_mk (r : Bytes) : (⟨r, none⟩ : Builder).bytesOrPanic = .ok r := rfl

theorem addUint16LengthPrefixed_of_le (r child : Bytes) (h : child.length ≤ 0xFFFF) :
    (⟨r, none⟩ : Builder).addUint16LengthPrefixed child =
      ⟨r ++ toBigEndian 2 child.length ++ child, none⟩ := by
  simp [addUint16LengthPrefixed, show ¬0xFFFF < child.length by omega]

theorem addUint16LengthPrefixed_bytesOrPanic_of_lt (r child : Bytes) (h : 0xFFFF < child.length) :
    ((⟨r, none⟩ : Builder).addUint16LengthPrefixed child).bytesOrPanic =
      .error (.panic (bytesOf ("cryptobyte: pending child length " ++ toString child.length ++
        " exceeds 2-byte length prefix"))) := by
  simp [addUint16LengthPrefixed, h, bytesOrPanic]

end Builder

/-- `String.ReadBytes(&out, n)`: the first `n` bytes and what is left, or `none` when fewer
than `n` remain. -/
def readBytes (s : Bytes) (n : Nat) : Option (Bytes × Bytes) :=
  if n ≤ s.length then some (s.take n, s.drop n) else none

/-- `String.ReadUint16LengthPrefixed(&out)`: a two-byte big-endian length, then that many
bytes. -/
def readUint16LengthPrefixed (s : Bytes) : Option (Bytes × Bytes) := do
  let (lenBytes, rest) ← readBytes s 2
  readBytes rest (setBytes lenBytes)

theorem readBytes_append {a : Bytes} (b : Bytes) {n : Nat} (h : a.length = n) :
    readBytes (a ++ b) n = some (a, b) := by
  subst h
  simp [readBytes]

theorem readBytes_sound {s a b : Bytes} {n : Nat} (h : readBytes s n = some (a, b)) :
    a.length = n ∧ s = a ++ b := by
  unfold readBytes at h
  split at h
  next hn =>
    cases h
    exact ⟨by simp [hn], (List.take_append_drop n s).symm⟩
  next => cases h

theorem readUint16LengthPrefixed_append {a : Bytes} (b : Bytes) (h : a.length ≤ 0xFFFF) :
    readUint16LengthPrefixed (toBigEndian 2 a.length ++ a ++ b) = some (a, b) := by
  have hv : setBytes (toBigEndian 2 a.length) = a.length := by
    rw [setBytes_toBigEndian, Nat.mod_eq_of_lt (by omega)]
  simp only [readUint16LengthPrefixed, List.append_assoc, Option.bind_eq_bind,
    readBytes_append (a ++ b) (length_toBigEndian 2 a.length), Option.some_bind, hv,
    readBytes_append b rfl]

theorem readUint16LengthPrefixed_sound {s a b : Bytes} (h : readUint16LengthPrefixed s = some (a, b)) :
    a.length ≤ 0xFFFF ∧ s = toBigEndian 2 a.length ++ a ++ b := by
  simp only [readUint16LengthPrefixed, Option.bind_eq_bind, Option.bind_eq_some] at h
  obtain ⟨⟨lenBytes, rest⟩, hl, hr⟩ := h
  dsimp only at hr
  obtain ⟨hlen, rfl⟩ := readBytes_sound hl
  obtain ⟨ha, rfl⟩ := readBytes_sound hr
  have hv : toBigEndian 2 (setBytes lenBytes) = lenBytes := hlen ▸ toBigEndian_setBytes lenBytes
  refine ⟨?_, by rw [ha, hv, List.append_assoc]⟩
  have := setBytes_lt lenBytes
  rw [hlen] at this
  omega

end RateLimitedIssuance
