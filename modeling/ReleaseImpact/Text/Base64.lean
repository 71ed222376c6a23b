/-!
Bytes written as text in sixty-four characters. Main statements:

- `digit_lt`: a character stands for six bits.
- `bytesOf_length`: four characters give three bytes.
- `decodePadded?_empty`: no text gives no bytes.
-/

namespace ReleaseImpact.Text.Base64

/-- The six bits that a character stands for. -/
def digit? (c : Char) : Option Nat :=
  if 'A' ≤ c ∧ c ≤ 'Z' then some (c.toNat - 65)
  else if 'a' ≤ c ∧ c ≤ 'z' then some (c.toNat - 71)
  else if c.isDigit then some (c.toNat + 4)
  else if c = '+' then some 62
  else if c = '/' then some 63
  else none

def bytesOf (a b c d : Nat) : List UInt8 :=
  let n := ((a * 64 + b) * 64 + c) * 64 + d
  [UInt8.ofNat (n / 65536), UInt8.ofNat (n / 256), UInt8.ofNat n]

theorem bytesOf_length (a b c d : Nat) : (bytesOf a b c d).length = 3 := rfl

/-- The bytes of groups of four digits; the last group may be short. -/
def ofDigits : List Nat → List UInt8
  | a :: b :: c :: d :: rest => bytesOf a b c d ++ ofDigits rest
  | [a, b, c] => (bytesOf a b c 0).take 2
  | [a, b] => (bytesOf a b 0 0).take 1
  | _ => []

/-- The bytes that a text stands for; characters that are no digits are passed over. -/
def decode (text : String) : List UInt8 := ofDigits (text.toList.filterMap digit?)

/-- The bytes of a text whose last group is filled up with equal signs; what comes after them is not
read, and characters that are no digits are passed over. -/
def decodePaddedFrom? (group : List Nat) (fill : Nat) : List Char → Option (List UInt8)
  | [] => if group.isEmpty then some [] else none
  | c :: rest =>
    if c = '=' then
      if group.length < 2 then decodePaddedFrom? group fill rest
      else if 4 ≤ group.length + fill + 1 then some (ofDigits group)
      else decodePaddedFrom? group (fill + 1) rest
    else
      match digit? c with
      | none => decodePaddedFrom? group fill rest
      | some d =>
        if group.length = 3 then
          (decodePaddedFrom? [] 0 rest).map (ofDigits (group ++ [d]) ++ ·)
        else decodePaddedFrom? (group ++ [d]) 0 rest

def decodePadded? (text : String) : Option (List UInt8) := decodePaddedFrom? [] 0 text.toList

theorem decodePadded?_empty : decodePadded? "" = some [] := by
  simp [decodePadded?, decodePaddedFrom?]

theorem digit_lt {c : Char} {n : Nat} (h : digit? c = some n) : n < 64 := by
  unfold digit? at h
  have toNat_le {a b : Char} (h : a ≤ b) : a.toNat ≤ b.toNat := UInt32.le_iff_toNat_le.1 h
  split at h
  · next hc =>
    have := toNat_le hc.2
    have e : 'Z'.toNat = 90 := rfl
    simp only [Option.some.injEq] at h; omega
  · split at h
    · next hc =>
      have := toNat_le hc.2
      have e : 'z'.toNat = 122 := rfl
      simp only [Option.some.injEq] at h; omega
    · split at h
      · next hc =>
        simp only [Char.isDigit, Bool.and_eq_true, decide_eq_true_eq] at hc
        have : c.toNat ≤ 57 := UInt32.le_iff_toNat_le.1 hc.2
        simp only [Option.some.injEq] at h; omega
      · split at h
        · cases h; omega
        · split at h <;> cases h; omega

end ReleaseImpact.Text.Base64
