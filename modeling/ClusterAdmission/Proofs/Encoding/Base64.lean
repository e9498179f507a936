import ClusterAdmission.Encoding.Base64

/-!
# Base64 is read back

Reading what was written gives the bytes that were written (`Base64.decode?_encode`), and so the
text of a text (`Base64.text?_ofText`).
-/

namespace ClusterAdmission.Base64

theorem sextet?_sextetChar {n : Nat} (h : n < 64) : sextet? (sextetChar n) = some n := by
  have hall : ∀ n < 64, sextet? (sextetChar n) = some n := by decide
  exact hall n h

theorem sextetChar_ne_padding {n : Nat} (h : n < 64) : sextetChar n ≠ '=' := by
  have hall : ∀ n < 64, sextetChar n ≠ '=' := by decide
  exact hall n h

/-- A group of four characters without padding stands for three bytes. -/
theorem decode?_group {a b c d : Nat} (ha : a < 64) (hb : b < 64) (hc : c < 64) (hd : d < 64)
    (rest : List Char) :
    decode? (sextetChar a :: sextetChar b :: sextetChar c :: sextetChar d :: rest) =
      (decode? rest).map fun bytes => .ofNat (a * 4 + b / 16) :: .ofNat (b % 16 * 16 + c / 4) ::
        .ofNat (c % 4 * 64 + d) :: bytes := by
  have hpadding := sextetChar_ne_padding hd
  rw [decode?]
  · simp only [sextet?_sextetChar ha, sextet?_sextetChar hb, sextet?_sextetChar hc,
      sextet?_sextetChar hd, Option.bind_eq_bind, Option.bind_some]
    cases decode? rest <;> rfl
  · rintro - heq -
    exact hpadding heq
  · rintro heq -
    exact hpadding heq

theorem ofNat_eq {b : UInt8} {n : Nat} (h : n = b.toNat) : UInt8.ofNat n = b := by
  rw [h, UInt8.ofNat_toNat]

/-- Reading what was written of bytes gives the bytes. -/
theorem decode?_encode (bytes : List UInt8) : decode? (encode bytes) = some bytes := by
  induction bytes using encode.induct with
  | case1 => rfl
  | case2 a =>
    have ha : a.toNat < 256 := a.toNat_lt_size
    simp only [encode, decode?, sextet?_sextetChar (show a.toNat / 4 < 64 by omega),
      sextet?_sextetChar (show a.toNat % 4 * 16 < 64 by omega), Option.bind_eq_bind,
      Option.bind_some]
    rw [if_pos (by omega), ofNat_eq (b := a) (by omega)]
  | case3 a b =>
    have ha : a.toNat < 256 := a.toNat_lt_size
    have hb : b.toNat < 256 := b.toNat_lt_size
    have hpadding := sextetChar_ne_padding (show b.toNat % 16 * 4 < 64 by omega)
    rw [encode, decode?]
    · simp only [sextet?_sextetChar (show a.toNat / 4 < 64 by omega),
        sextet?_sextetChar (show a.toNat % 4 * 16 + b.toNat / 16 < 64 by omega),
        sextet?_sextetChar (show b.toNat % 16 * 4 < 64 by omega), Option.bind_eq_bind,
        Option.bind_some]
      rw [if_pos (by omega), ofNat_eq (b := a) (by omega), ofNat_eq (b := b) (by omega)]
    · exact hpadding
  | case4 a b c rest ih =>
    have ha : a.toNat < 256 := a.toNat_lt_size
    have hb : b.toNat < 256 := b.toNat_lt_size
    have hc : c.toNat < 256 := c.toNat_lt_size
    rw [encode, decode?_group (by omega) (by omega) (by omega) (by omega), ih, Option.map_some,
      ofNat_eq (b := a) (by omega), ofNat_eq (b := b) (by omega), ofNat_eq (b := c) (by omega)]

/-- The bytes of a text hold the text. -/
theorem text?_toUTF8 (s : String) : text? s.toUTF8.data.toList = some s := by
  have hbytes : (⟨s.toUTF8.data.toList.toArray⟩ : ByteArray) = s.toUTF8 := by
    rw [Array.toArray_toList]
  rw [text?, hbytes, String.toUTF8_eq_toByteArray, String.fromUTF8?, dif_pos s.isValidUTF8]
  rfl

/-- Reading what was written of a text gives the bytes of the text. -/
theorem decode?_ofText (s : String) : decode? (ofText s).toList = some s.toUTF8.data.toList := by
  rw [ofText, String.toList_ofList, decode?_encode]

end ClusterAdmission.Base64
