import IconAssets.Text.Basic

/-!
# UTF-8

Texts as bytes.  `scan` cuts bytes into characters and ill-formed parts; reading strictly
refuses any ill-formed part, reading leniently shows U+FFFD for each.  An ill-formed part is the
longest start of a character that the bytes hold, or else one byte.

Result: `decode_encode`, writing a text and reading it strictly gives the text back.
-/

namespace IconAssets

/-- The content of a file. -/
abbrev Bytes := List UInt8

namespace Utf8

/-- The bytes of a text. -/
def encode (t : Text) : Bytes := t.flatMap String.utf8EncodeChar

/-- What a first byte promises: the number of bytes that follow it, and the least and the
greatest value of the first of them. -/
def promise (a : Nat) : Option (Nat × Nat × Nat) :=
  if 0xC2 ≤ a && a ≤ 0xDF then some (1, 0x80, 0xBF)
  else if a = 0xE0 then some (2, 0xA0, 0xBF)
  else if a = 0xED then some (2, 0x80, 0x9F)
  else if 0xE1 ≤ a && a ≤ 0xEF then some (2, 0x80, 0xBF)
  else if a = 0xF0 then some (3, 0x90, 0xBF)
  else if 0xF1 ≤ a && a ≤ 0xF3 then some (3, 0x80, 0xBF)
  else if a = 0xF4 then some (3, 0x80, 0x8F)
  else none

/-- Collects the promised bytes behind a first byte.  The answer is the character, if all of
them are there, and the number of bytes that belong to it. -/
def follow (value : Nat) : Nat → Nat → Nat → Bytes → Option Char × Nat
  | 0, _, _, _ => (some (Char.ofNat value), 0)
  | _ + 1, _, _, [] => (none, 0)
  | n + 1, low, high, b :: bs =>
    if low ≤ b.toNat && b.toNat ≤ high then
      let r := follow (value * 64 + (b.toNat - 0x80)) n 0x80 0xBF bs
      (r.1, r.2 + 1)
    else (none, 0)

/-- The character or ill-formed part that starts with byte `a`, and the number of bytes that
belong to it besides `a`. -/
def lead (a : UInt8) (bs : Bytes) : Option Char × Nat :=
  if a.toNat < 0x80 then (some (Char.ofNat a.toNat), 0)
  else
    match promise a.toNat with
    | none => (none, 0)
    | some (n, low, high) => follow (a.toNat % (64 >>> n)) n low high bs

/-- The characters and, as `none`, the ill-formed parts of bytes; the first `skip` bytes belong
to a part already listed. -/
def scan : Nat → Bytes → List (Option Char)
  | _, [] => []
  | skip + 1, _ :: bs => scan skip bs
  | 0, b :: bs =>
    let r := lead b bs
    r.1 :: scan r.2 bs

/-- Reads bytes that are UTF-8 throughout. -/
def decode (bs : Bytes) : Option Text := (scan 0 bs).mapM id

/-- Reads any bytes, showing U+FFFD for each ill-formed part. -/
def decodeLenient (bs : Bytes) : Text := (scan 0 bs).map fun c => c.getD '\uFFFD'

@[simp] theorem scan_nil (skip : Nat) : scan skip [] = [] := by
  cases skip <;> rfl

@[simp] theorem scan_skip_cons (skip : Nat) (b : UInt8) (bs : Bytes) :
    scan (skip + 1) (b :: bs) = scan skip bs := rfl

theorem scan_cons (b : UInt8) (bs : Bytes) :
    scan 0 (b :: bs) = (lead b bs).1 :: scan (lead b bs).2 bs := rfl

private theorem toNat_ofNat_of_lt {n : Nat} (h : n < 256) : (UInt8.ofNat n).toNat = n := by
  simp [Nat.mod_eq_of_lt h]

/-- A byte of six further bits, within the bounds the bytes before it set. -/
private theorem follow_cons {low high m : Nat} (value n : Nat) (bs : Bytes)
    (hl : low ≤ m % 64 + 128) (hh : m % 64 + 128 ≤ high) :
    follow value (n + 1) low high (UInt8.ofNat (m % 64 + 128) :: bs) =
      ((follow (value * 64 + m % 64) n 0x80 0xBF bs).1,
        (follow (value * 64 + m % 64) n 0x80 0xBF bs).2 + 1) := by
  have h : (UInt8.ofNat (m % 64 + 128)).toNat = m % 64 + 128 := toNat_ofNat_of_lt (by omega)
  simp only [follow, h]
  rw [if_pos (by simp; omega)]
  simp

/-- A character's bytes are read as that character. -/
theorem scan_encodeChar (c : Char) (bs : Bytes) :
    scan 0 (String.utf8EncodeChar c ++ bs) = some c :: scan 0 bs := by
  have hv : c.val.toNat < 0xD800 ∨ (0xDFFF < c.val.toNat ∧ c.val.toNat < 0x110000) := c.valid
  have hc : Char.ofNat c.val.toNat = c := Char.ofNat_toNat c
  unfold String.utf8EncodeChar
  simp only []
  generalize c.val.toNat = n at hv hc
  split
  next h1 =>
    have ha : (UInt8.ofNat n).toNat = n := toNat_ofNat_of_lt (by omega)
    have hl : lead (UInt8.ofNat n) bs = (some c, 0) := by
      rw [lead, ha, if_pos (by omega), hc]
    rw [List.singleton_append, scan_cons, hl]
  split
  next h1 h2 =>
    have ha : (UInt8.ofNat (n / 64 % 32 + 192)).toNat = n / 64 % 32 + 192 :=
      toNat_ofNat_of_lt (by omega)
    have hp : promise (n / 64 % 32 + 192) = some (1, 0x80, 0xBF) := by
      rw [promise, if_pos (by simp; omega)]
    have hl : lead (UInt8.ofNat (n / 64 % 32 + 192)) (UInt8.ofNat (n % 64 + 128) :: bs) =
        (some c, 1) := by
      rw [lead, ha, if_neg (by omega), hp]
      simp only []
      rw [follow_cons _ _ _ (by omega) (by omega)]
      rw [follow, show 64 >>> 1 = 32 from rfl,
        show (n / 64 % 32 + 192) % 32 * 64 + n % 64 = n by omega, hc]
    rw [List.cons_append, List.singleton_append, scan_cons, hl, scan_skip_cons]
  split
  next h1 h2 h3 =>
    have ha : (UInt8.ofNat (n / 4096 % 16 + 224)).toNat = n / 4096 % 16 + 224 :=
      toNat_ofNat_of_lt (by omega)
    obtain ⟨low, high, hp, hlow, hhigh⟩ : ∃ low high,
        promise (n / 4096 % 16 + 224) = some (2, low, high) ∧
          low ≤ n / 64 % 64 + 128 ∧ n / 64 % 64 + 128 ≤ high := by
      unfold promise
      rw [if_neg (by simp)]
      split
      · exact ⟨_, _, rfl, by omega, by omega⟩
      split
      · exact ⟨_, _, rfl, by omega, by omega⟩
      rw [if_pos (by simp; omega)]
      exact ⟨_, _, rfl, by omega, by omega⟩
    have hl : lead (UInt8.ofNat (n / 4096 % 16 + 224))
        (UInt8.ofNat (n / 64 % 64 + 128) :: UInt8.ofNat (n % 64 + 128) :: bs) = (some c, 2) := by
      rw [lead, ha, if_neg (by omega), hp]
      simp only []
      rw [follow_cons _ _ _ hlow hhigh, follow_cons _ _ _ (by omega) (by omega)]
      rw [follow, show 64 >>> 2 = 16 from rfl,
        show ((n / 4096 % 16 + 224) % 16 * 64 + n / 64 % 64) * 64 + n % 64 = n
        by omega, hc]
    rw [List.cons_append, List.cons_append, List.singleton_append, scan_cons, hl,
      scan_skip_cons, scan_skip_cons]
  next h1 h2 h3 =>
    have ha : (UInt8.ofNat (n / 262144 % 8 + 240)).toNat = n / 262144 % 8 + 240 :=
      toNat_ofNat_of_lt (by omega)
    obtain ⟨low, high, hp, hlow, hhigh⟩ : ∃ low high,
        promise (n / 262144 % 8 + 240) = some (3, low, high) ∧
          low ≤ n / 4096 % 64 + 128 ∧ n / 4096 % 64 + 128 ≤ high := by
      unfold promise
      rw [if_neg (by simp), if_neg (by omega), if_neg (by omega), if_neg (by simp)]
      split
      · exact ⟨_, _, rfl, by omega, by omega⟩
      split
      · exact ⟨_, _, rfl, by omega, by omega⟩
      next h4 h5 =>
        simp only [Bool.and_eq_true, decide_eq_true_eq, not_and] at h5
        rw [if_pos (by omega)]
        exact ⟨_, _, rfl, by omega, by omega⟩
    have hl : lead (UInt8.ofNat (n / 262144 % 8 + 240))
        (UInt8.ofNat (n / 4096 % 64 + 128) :: UInt8.ofNat (n / 64 % 64 + 128) ::
          UInt8.ofNat (n % 64 + 128) :: bs) = (some c, 3) := by
      rw [lead, ha, if_neg (by omega), hp]
      simp only []
      rw [follow_cons _ _ _ hlow hhigh, follow_cons _ _ _ (by omega) (by omega),
        follow_cons _ _ _ (by omega) (by omega)]
      rw [follow, show 64 >>> 3 = 8 from rfl,
        show (((n / 262144 % 8 + 240) % 8 * 64 + n / 4096 % 64) * 64 +
        n / 64 % 64) * 64 + n % 64 = n by omega, hc]
    rw [List.cons_append, List.cons_append, List.cons_append, List.singleton_append, scan_cons,
      hl, scan_skip_cons, scan_skip_cons, scan_skip_cons]

/-- A text's bytes are read as its characters. -/
theorem scan_encode (t : Text) : scan 0 (encode t) = t.map some := by
  induction t with
  | nil => rfl
  | cons c cs ih =>
    rw [encode, List.flatMap_cons, scan_encodeChar]
    exact congrArg _ ih

/-- Writing a text and reading it strictly gives the text back. -/
@[simp] theorem decode_encode (t : Text) : decode (encode t) = some t := by
  rw [decode, scan_encode]
  induction t with
  | nil => rfl
  | cons c cs ih => simp_all

/-- Lenient reading agrees with strict reading on UTF-8. -/
@[simp] theorem decodeLenient_encode (t : Text) : decodeLenient (encode t) = t := by
  rw [decodeLenient, scan_encode, List.map_map]
  exact List.map_id t

end Utf8
end IconAssets
