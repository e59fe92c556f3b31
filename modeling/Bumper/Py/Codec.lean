import Mathlib.Data.List.Basic

/-!
# Bumper — byte codecs: UTF-8 and base 64

Two library decoders stand between the wire and the server's text:

* `bytes.decode("utf-8")` (`utf8Decode`), strict, as CPython's decoder: a byte
  sequence that is not well-formed UTF-8 (a stray continuation byte, an overlong
  form, a surrogate, a truncated sequence) raises `UnicodeDecodeError`;
* `base64.b64decode(text)` (`b64decode`), CPython's `binascii.a2b_base64` in its
  default, non-strict mode: characters outside the alphabet are skipped, a pad
  `=` ends the input once it completes a quad, and a final partial quad raises
  `binascii.Error`.

Each raising path is `none`. `utf8Encode` is `str.encode("utf-8")`.
-/

namespace Bumper.Py

/-! ## UTF-8 -/

/-- A continuation byte `10xxxxxx`. -/
def isCont (c : Nat) : Bool := 0x80 ≤ c && c ≤ 0xBF

/-- The allowed range of the second byte after the lead byte `n`: the narrower
ranges after `E0`, `ED`, `F0` and `F4` exclude overlong forms, surrogates and
code points above `10FFFF`. -/
def secondOk (n c : Nat) : Bool :=
  if n = 0xE0 then 0xA0 ≤ c && c ≤ 0xBF
  else if n = 0xED then 0x80 ≤ c && c ≤ 0x9F
  else if n = 0xF0 then 0x90 ≤ c && c ≤ 0xBF
  else if n = 0xF4 then 0x80 ≤ c && c ≤ 0x8F
  else isCont c

/-- Strict UTF-8 decoding of a byte list. -/
def utf8DecodeList : List UInt8 → Option (List Char)
  | [] => some []
  | b :: rest =>
    let n := b.toNat
    if n < 0x80 then (Char.ofNat n :: ·) <$> utf8DecodeList rest
    else match rest with
    | [] => none
    | c1 :: rest1 =>
      if 0xC2 ≤ n && n ≤ 0xDF then
        if isCont c1.toNat then
          (Char.ofNat ((n - 0xC0) * 64 + (c1.toNat - 0x80)) :: ·) <$> utf8DecodeList rest1
        else none
      else match rest1 with
      | [] => none
      | c2 :: rest2 =>
        if 0xE0 ≤ n && n ≤ 0xEF then
          if secondOk n c1.toNat && isCont c2.toNat then
            (Char.ofNat ((n - 0xE0) * 4096 + (c1.toNat - 0x80) * 64 + (c2.toNat - 0x80)) :: ·)
              <$> utf8DecodeList rest2
          else none
        else match rest2 with
        | [] => none
        | c3 :: rest3 =>
          if 0xF0 ≤ n && n ≤ 0xF4 && secondOk n c1.toNat && isCont c2.toNat &&
              isCont c3.toNat then
            (Char.ofNat ((n - 0xF0) * 262144 + (c1.toNat - 0x80) * 4096 +
                (c2.toNat - 0x80) * 64 + (c3.toNat - 0x80)) :: ·) <$> utf8DecodeList rest3
          else none

/-- `data.decode("utf-8")`. -/
def utf8Decode (data : List UInt8) : Option String := String.mk <$> utf8DecodeList data

/-- The UTF-8 encoding of one character. -/
def utf8EncodeChar (c : Char) : List UInt8 :=
  let n := c.toNat
  if n < 0x80 then [n.toUInt8]
  else if n < 0x800 then [(0xC0 + n / 64).toUInt8, (0x80 + n % 64).toUInt8]
  else if n < 0x10000 then
    [(0xE0 + n / 4096).toUInt8, (0x80 + n / 64 % 64).toUInt8, (0x80 + n % 64).toUInt8]
  else
    [(0xF0 + n / 262144).toUInt8, (0x80 + n / 4096 % 64).toUInt8,
      (0x80 + n / 64 % 64).toUInt8, (0x80 + n % 64).toUInt8]

/-- `text.encode("utf-8")`. -/
def utf8Encode (s : String) : List UInt8 := s.data.flatMap utf8EncodeChar

theorem utf8Encode_append (s t : String) : utf8Encode (s ++ t) = utf8Encode s ++ utf8Encode t := by
  simp [utf8Encode]

/-! ### Decoding what was encoded

Decoding one well-formed sequence of one to four bytes, then the round trip:
every string survives `encode` then `decode`. -/

theorem toNat_toUInt8 {n : Nat} (h : n < 256) : n.toUInt8.toNat = n := by
  simp [Nat.toUInt8, UInt8.toNat, UInt8.ofNat, Fin.ofNat, Nat.mod_eq_of_lt h]

section decode
variable {b c1 c2 c3 : UInt8} {rest : List UInt8}

theorem utf8DecodeList_one (h : b.toNat < 0x80) :
    utf8DecodeList (b :: rest) = (Char.ofNat b.toNat :: ·) <$> utf8DecodeList rest := by
  rw [utf8DecodeList.eq_def]; simp [h]

theorem utf8DecodeList_two (h : ¬b.toNat < 0x80) (h0 : 0xC2 ≤ b.toNat ∧ b.toNat ≤ 0xDF)
    (h1 : isCont c1.toNat) :
    utf8DecodeList (b :: c1 :: rest) =
      (Char.ofNat ((b.toNat - 0xC0) * 64 + (c1.toNat - 0x80)) :: ·) <$> utf8DecodeList rest := by
  rw [utf8DecodeList.eq_def]; simp [h, h0, h1]

theorem utf8DecodeList_three (h : ¬b.toNat < 0x80) (h' : ¬(0xC2 ≤ b.toNat ∧ b.toNat ≤ 0xDF))
    (h0 : 0xE0 ≤ b.toNat ∧ b.toNat ≤ 0xEF) (h1 : secondOk b.toNat c1.toNat) (h2 : isCont c2.toNat) :
    utf8DecodeList (b :: c1 :: c2 :: rest) =
      (Char.ofNat ((b.toNat - 0xE0) * 4096 + (c1.toNat - 0x80) * 64 + (c2.toNat - 0x80)) :: ·) <$>
        utf8DecodeList rest := by
  rw [utf8DecodeList.eq_def]
  simp only [Bool.and_eq_true, decide_eq_true_eq, if_neg h, if_neg h', h0, h1, h2, and_self, if_true]

theorem utf8DecodeList_four (h : ¬b.toNat < 0x80) (h' : ¬(0xC2 ≤ b.toNat ∧ b.toNat ≤ 0xDF))
    (h'' : ¬(0xE0 ≤ b.toNat ∧ b.toNat ≤ 0xEF)) (h0 : 0xF0 ≤ b.toNat ∧ b.toNat ≤ 0xF4)
    (h1 : secondOk b.toNat c1.toNat) (h2 : isCont c2.toNat) (h3 : isCont c3.toNat) :
    utf8DecodeList (b :: c1 :: c2 :: c3 :: rest) =
      (Char.ofNat ((b.toNat - 0xF0) * 262144 + (c1.toNat - 0x80) * 4096 + (c2.toNat - 0x80) * 64 +
        (c3.toNat - 0x80)) :: ·) <$> utf8DecodeList rest := by
  rw [utf8DecodeList.eq_def]
  simp only [Bool.and_eq_true, decide_eq_true_eq, if_neg h, if_neg h', if_neg h'', h0, h1, h2, h3,
    and_self, if_true]

end decode

/-- A continuation byte meets `secondOk` after any lead byte whose narrower range
it is in. -/
theorem secondOk_of {n c : Nat} (hc : 0x80 ≤ c ∧ c ≤ 0xBF) (h0 : n = 0xE0 → 0xA0 ≤ c)
    (h1 : n = 0xED → c ≤ 0x9F) (h2 : n = 0xF0 → 0x90 ≤ c) (h3 : n = 0xF4 → c ≤ 0x8F) :
    secondOk n c = true := by
  unfold secondOk isCont
  split_ifs <;> simp only [Bool.and_eq_true, decide_eq_true_eq] <;> omega

theorem utf8DecodeList_encodeChar_append (c : Char) (rest : List UInt8) :
    utf8DecodeList (utf8EncodeChar c ++ rest) = (c :: ·) <$> utf8DecodeList rest := by
  have hv : c.toNat < 0xD800 ∨ 0xDFFF < c.toNat ∧ c.toNat < 0x110000 := c.valid
  have hc : Char.ofNat c.toNat = c := Char.ofNat_toNat c
  unfold utf8EncodeChar
  generalize c.toNat = n at hv hc ⊢
  by_cases h1 : n < 0x80
  · rw [if_pos h1, List.singleton_append, utf8DecodeList_one] <;>
      rw [toNat_toUInt8 (by omega)] <;> simp [h1, hc]
  by_cases h2 : n < 0x800
  · have t0 := toNat_toUInt8 (show 0xC0 + n / 64 < 256 by omega)
    have t1 := toNat_toUInt8 (show 0x80 + n % 64 < 256 by omega)
    have e : n / 64 * 64 + n % 64 = n := by omega
    rw [if_neg h1, if_pos h2, List.cons_append, List.cons_append, List.nil_append,
      utf8DecodeList_two] <;> simp only [t0, t1, Nat.add_sub_cancel_left, e, hc, isCont, Bool.and_eq_true, decide_eq_true_eq] <;> omega
  by_cases h3 : n < 0x10000
  · have t0 := toNat_toUInt8 (show 0xE0 + n / 4096 < 256 by omega)
    have t1 := toNat_toUInt8 (show 0x80 + n / 64 % 64 < 256 by omega)
    have t2 := toNat_toUInt8 (show 0x80 + n % 64 < 256 by omega)
    have e : n / 4096 * 4096 + n / 64 % 64 * 64 + n % 64 = n := by omega
    have hs : secondOk (0xE0 + n / 4096) (0x80 + n / 64 % 64) = true :=
      secondOk_of (by omega) (fun _ => by omega) (fun _ => by omega) (fun _ => by omega) (fun _ => by omega)
    rw [if_neg h1, if_neg h2, if_pos h3, List.cons_append, List.cons_append, List.cons_append,
      List.nil_append, utf8DecodeList_three] <;>
      simp only [t0, t1, t2, Nat.add_sub_cancel_left, e, hc, hs, isCont, Bool.and_eq_true, decide_eq_true_eq] <;> omega
  · have t0 := toNat_toUInt8 (show 0xF0 + n / 262144 < 256 by omega)
    have t1 := toNat_toUInt8 (show 0x80 + n / 4096 % 64 < 256 by omega)
    have t2 := toNat_toUInt8 (show 0x80 + n / 64 % 64 < 256 by omega)
    have t3 := toNat_toUInt8 (show 0x80 + n % 64 < 256 by omega)
    have e : n / 262144 * 262144 + n / 4096 % 64 * 4096 + n / 64 % 64 * 64 + n % 64 = n := by omega
    have hs : secondOk (0xF0 + n / 262144) (0x80 + n / 4096 % 64) = true :=
      secondOk_of (by omega) (fun _ => by omega) (fun _ => by omega) (fun _ => by omega) (fun _ => by omega)
    rw [if_neg h1, if_neg h2, if_neg h3, List.cons_append, List.cons_append, List.cons_append,
      List.cons_append, List.nil_append, utf8DecodeList_four] <;>
      simp only [t0, t1, t2, t3, Nat.add_sub_cancel_left, e, hc, hs, isCont, Bool.and_eq_true, decide_eq_true_eq] <;> omega

/-- **UTF-8 round trip**: `s.encode().decode()` is `s`. -/
theorem utf8Decode_utf8Encode (s : String) : utf8Decode (utf8Encode s) = some s := by
  suffices ∀ cs : List Char, utf8DecodeList (cs.flatMap utf8EncodeChar) = some cs by
    simp [utf8Decode, utf8Encode, this]
  intro cs
  induction cs with
  | nil => rfl
  | cons c cs ih => simp [List.flatMap_cons, utf8DecodeList_encodeChar_append, ih]


/-! ## Base 64 -/

/-- `table_a2b_base64`: the value of a base-64 digit, `none` for any other character. -/
def b64Digit (c : Char) : Option Nat :=
  if 'A' ≤ c && c ≤ 'Z' then some (c.toNat - 65)
  else if 'a' ≤ c && c ≤ 'z' then some (c.toNat - 71)
  else if '0' ≤ c && c ≤ '9' then some (c.toNat + 4)
  else if c = '+' then some 62
  else if c = '/' then some 63
  else none

/-- The loop of `binascii.a2b_base64`: `quad` is `quad_pos`, `left` the bits
carried to the next byte, `pads` the pads seen since the last digit. Returns the
bytes written and the `quad_pos` the loop ends in; a completing pad jumps to
`done`, which skips the final check, and is returned as position `0`. -/
def a2bScan : Nat → Nat → Nat → List Char → List Nat × Nat
  | quad, _, _, [] => ([], quad)
  | quad, left, pads, c :: cs =>
    if c = '=' then
      if 2 ≤ quad && 4 ≤ quad + (pads + 1) then ([], 0)
      else a2bScan quad left (if 2 ≤ quad then pads + 1 else pads) cs
    else match b64Digit c with
    | none => a2bScan quad left pads cs
    | some v =>
      match quad with
      | 0 => a2bScan 1 v 0 cs
      | 1 => let r := a2bScan 2 (v % 16) 0 cs; ((left * 4 + v / 16) :: r.1, r.2)
      | 2 => let r := a2bScan 3 (v % 4) 0 cs; ((left * 16 + v / 4) :: r.1, r.2)
      | _ => let r := a2bScan 0 0 0 cs; ((left * 64 + v) :: r.1, r.2)

/-- `base64.b64decode(text)`: `none` when the text is not ASCII (`ValueError`) or
ends inside a quad (`binascii.Error`). -/
def b64decode (text : String) : Option (List UInt8) :=
  if text.data.all (·.toNat < 128) then
    let r := a2bScan 0 0 0 text.data
    if r.2 = 0 then some (r.1.map Nat.toUInt8) else none
  else none

end Bumper.Py
