import ClusterAdmission.Text.Bytes
import ClusterAdmission.Text.Numeral

/-!
# Slices and layouts by bytes

A character of ASCII is one byte, and every other character starts with a byte from 192 on. So a
text can be sliced between any two of its characters (`slice?_bytes`), and the texts that fit a
layout of ASCII are known character by character (`fitsLayout_bytes_cons`).
-/

namespace ClusterAdmission.Text

variable {c l : Char} {cs front mid back layout : List Char}

/-! ## Encoded characters -/

theorem bytes_cons (c : Char) (cs : List Char) :
    bytes (c :: cs) = String.utf8EncodeChar c ++ bytes cs := rfl

theorem bytes_append (front back : List Char) : bytes (front ++ back) = bytes front ++ bytes back :=
  List.flatMap_append

theorem utf8EncodeChar_of_ascii (h : c.toNat < 128) :
    String.utf8EncodeChar c = [UInt8.ofNat c.toNat] :=
  if_pos (Nat.le_of_lt_succ h)

/-- A character beyond ASCII starts with a byte from 192 on. -/
theorem utf8EncodeChar_of_not_ascii (h : 128 ≤ c.toNat) :
    ∃ b rest, String.utf8EncodeChar c = b :: rest ∧ 192 ≤ b := by
  have hlarge (n base : Nat) (hbase : 192 ≤ base) (hfits : n + base < 256) :
      192 ≤ UInt8.ofNat (n + base) := by
    rw [UInt8.le_iff_toNat_le, UInt8.toNat_ofNat_of_lt' hfits]
    exact Nat.le_add_left_of_le hbase
  have hone : ¬ c.val.toNat ≤ 0x7f := Nat.not_le_of_lt h
  simp only [String.utf8EncodeChar, if_neg hone]
  split
  · exact ⟨_, _, rfl, hlarge _ 192 (Nat.le_refl _) (by omega)⟩
  · split
    · exact ⟨_, _, rfl, hlarge _ 224 (by decide) (by omega)⟩
    · exact ⟨_, _, rfl, hlarge _ 240 (by decide) (by omega)⟩

theorem exists_bytes_cons (c : Char) (cs : List Char) :
    ∃ b rest, bytes (c :: cs) = b :: rest ∧ startsChar b := by
  rcases Nat.lt_or_ge c.toNat 128 with h | h
  · refine ⟨UInt8.ofNat c.toNat, bytes cs, by rw [bytes_cons, utf8EncodeChar_of_ascii h]; rfl, ?_⟩
    have hlt : UInt8.ofNat c.toNat < 128 := by
      rw [UInt8.lt_iff_toNat_lt, UInt8.toNat_ofNat_of_lt' (Nat.lt_trans h (by decide))]
      exact h
    simp [startsChar, hlt]
  · obtain ⟨b, rest, hencode, hb⟩ := utf8EncodeChar_of_not_ascii h
    exact ⟨b, rest ++ bytes cs, by rw [bytes_cons, hencode]; rfl, by simp [startsChar, hb]⟩

theorem bytes_of_ascii (h : ∀ c ∈ cs, c.toNat < 128) :
    bytes cs = cs.map fun c => UInt8.ofNat c.toNat := by
  induction cs with
  | nil => rfl
  | cons c cs ih =>
    obtain ⟨hc, hrest⟩ := List.forall_mem_cons.1 h
    rw [bytes_cons, utf8EncodeChar_of_ascii hc, ih hrest, List.map_cons, List.singleton_append]

/-! ## Slices -/

/-- The position behind some of the characters of a text lies between two characters. -/
theorem isBoundary_bytes (front back : List Char) :
    isBoundary (bytes front).length (bytes front ++ bytes back) := by
  unfold isBoundary
  rw [List.getElem?_append_right (Nat.le_refl _), Nat.sub_self]
  cases back with
  | nil => simp [bytes]
  | cons c cs =>
    obtain ⟨b, rest, hbytes, hb⟩ := exists_bytes_cons c cs
    simp [hbytes, hb]

/-- A text is sliced between its characters. -/
theorem slice?_bytes (front mid back : List Char) :
    slice? (bytes front).length ((bytes front).length + (bytes mid).length)
      (bytes (front ++ (mid ++ back))) = some (bytes mid) := by
  have hlo : isBoundary (bytes front).length (bytes (front ++ (mid ++ back))) := by
    rw [bytes_append]
    exact isBoundary_bytes front (mid ++ back)
  have hhi : isBoundary ((bytes front).length + (bytes mid).length)
      (bytes (front ++ (mid ++ back))) := by
    have h := isBoundary_bytes (front ++ mid) back
    rwa [← bytes_append, bytes_append front mid, List.length_append, List.append_assoc] at h
  have hle := Nat.le_add_right (bytes front).length (bytes mid).length
  rw [slice?, if_pos (by simp [hlo, hhi, hle]), bytes_append, bytes_append]
  simp [List.take_append]

/-! ## Layouts -/

theorem fitsLayout_nil {bs : List UInt8} : fitsLayout [] bs ↔ bs = [] := by
  simp [fitsLayout]

/-- What may stand in the place of a byte of a layout. -/
def FitsByte (l b : UInt8) : Prop := if isDigitByte l then isDigitByte b = true else b = l

theorem fitsLayout_cons {l : UInt8} {ls bs : List UInt8} :
    fitsLayout (l :: ls) bs ↔
      ∃ b rest, bs = b :: rest ∧ FitsByte l b ∧ fitsLayout ls rest := by
  cases bs with
  | nil => simp [fitsLayout]
  | cons b rest =>
    have hcons : fitsLayout (l :: ls) (b :: rest) ↔ FitsByte l b ∧ fitsLayout ls rest := by
      simp [fitsLayout, FitsByte, and_left_comm]
    rw [hcons]
    constructor
    · exact fun ⟨hb, hrest⟩ => ⟨b, rest, rfl, hb, hrest⟩
    · rintro ⟨_, _, heq, hb, hrest⟩
      cases heq
      exact ⟨hb, hrest⟩

theorem isDigit_lt {c : Char} (h : c.isDigit) : c.toNat < 128 :=
  Nat.lt_of_le_of_lt (Char.isDigit_iff_toNat.1 h).2 (by decide)

theorem isDigitByte_ofNat (h : c.toNat < 128) : isDigitByte (UInt8.ofNat c.toNat) = c.isDigit := by
  have hlt : c.toNat < 256 := Nat.lt_trans h (by decide)
  rw [Bool.eq_iff_iff, Char.isDigit_iff_toNat]
  simp [isDigitByte, UInt8.le_iff_toNat_le, Nat.mod_eq_of_lt hlt]

theorem ofNat_inj_of_ascii (hc : c.toNat < 128) (hl : l.toNat < 128) :
    UInt8.ofNat c.toNat = UInt8.ofNat l.toNat ↔ c = l := by
  have hlt {d : Char} (hd : d.toNat < 128) : d.toNat < 256 := Nat.lt_trans hd (by decide)
  rw [← UInt8.toNat_inj, UInt8.toNat_ofNat_of_lt' (hlt hc), UInt8.toNat_ofNat_of_lt' (hlt hl),
    Char.toNat_inj]

/-- What may stand in the place of a character of a layout. -/
def FitsChar (l c : Char) : Prop := if l.isDigit then c.isDigit = true else c = l

theorem FitsChar.lt (h : FitsChar l c) (hl : l.toNat < 128) : c.toNat < 128 := by
  unfold FitsChar at h
  split at h
  · exact isDigit_lt h
  · exact h ▸ hl

theorem fitsByte_ofNat (hl : l.toNat < 128) (hc : c.toNat < 128) :
    FitsByte (UInt8.ofNat l.toNat) (UInt8.ofNat c.toNat) ↔ FitsChar l c := by
  rw [FitsByte, FitsChar, isDigitByte_ofNat hl, isDigitByte_ofNat hc, ofNat_inj_of_ascii hc hl]

theorem FitsByte.lt {b : UInt8} (hl : l.toNat < 128) (h : FitsByte (UInt8.ofNat l.toNat) b) :
    b < 192 := by
  unfold FitsByte at h
  split at h
  · have hb : b ≤ 57 := by simpa using (Bool.and_eq_true_iff.1 h).2
    exact Std.lt_of_le_of_lt hb (by decide)
  · rw [h, UInt8.lt_iff_toNat_lt, UInt8.toNat_ofNat_of_lt' (Nat.lt_trans hl (by decide))]
    exact Nat.lt_trans hl (by decide)

/-- A layout of ASCII is compared with a text character by character, since the bytes of other
characters do not fit it. -/
theorem fitsLayout_bytes_cons (hl : l.toNat < 128) :
    fitsLayout (bytes (l :: layout)) (bytes cs) ↔
      ∃ c rest, cs = c :: rest ∧ FitsChar l c ∧ fitsLayout (bytes layout) (bytes rest) := by
  have hlayout : bytes (l :: layout) = UInt8.ofNat l.toNat :: bytes layout := by
    rw [bytes_cons, utf8EncodeChar_of_ascii hl, List.singleton_append]
  rw [hlayout, fitsLayout_cons]
  cases cs with
  | nil => exact iff_of_false (fun ⟨_, _, h, _⟩ => nomatch h) fun ⟨_, _, h, _⟩ => nomatch h
  | cons c cs =>
    constructor
    · rintro ⟨b, rest, hbytes, hb, hrest⟩
      have hc : c.toNat < 128 := by
        refine Nat.lt_of_not_le fun hlarge => ?_
        obtain ⟨b', rest', hencode, hb'⟩ := utf8EncodeChar_of_not_ascii hlarge
        rw [bytes_cons, hencode, List.cons_append] at hbytes
        have hlt := hb.lt hl
        rw [← (List.cons.inj hbytes).1] at hlt
        exact absurd hb' (UInt8.not_le.2 hlt)
      rw [bytes_cons, utf8EncodeChar_of_ascii hc, List.singleton_append] at hbytes
      cases hbytes
      exact ⟨c, cs, rfl, (fitsByte_ofNat hl hc).1 hb, hrest⟩
    · rintro ⟨_, _, heq, hfits, hrest⟩
      cases heq
      have hc := hfits.lt hl
      refine ⟨UInt8.ofNat c.toNat, bytes cs, ?_, (fitsByte_ofNat hl hc).2 hfits, hrest⟩
      rw [bytes_cons, utf8EncodeChar_of_ascii hc, List.singleton_append]

theorem fitsLayout_end : fitsLayout (bytes []) (bytes cs) ↔ cs = [] := by
  change fitsLayout [] (bytes cs) ↔ _
  rw [fitsLayout_nil]
  cases cs with
  | nil => simp [bytes]
  | cons c cs =>
    obtain ⟨b, rest, hbytes, -⟩ := exists_bytes_cons c cs
    simp [hbytes]

/-- A character that is no digit stands for itself. -/
theorem fitsLayout_char (hl : l.toNat < 128) (hdigit : l.isDigit = false) :
    fitsLayout (bytes (l :: layout)) (bytes cs) ↔
      ∃ rest, cs = l :: rest ∧ fitsLayout (bytes layout) (bytes rest) := by
  rw [fitsLayout_bytes_cons hl]
  constructor
  · rintro ⟨c, rest, rfl, hc, hrest⟩
    rw [FitsChar, hdigit, if_neg Bool.false_ne_true] at hc
    exact ⟨rest, by rw [hc], hrest⟩
  · rintro ⟨rest, rfl, hrest⟩
    exact ⟨l, rest, rfl, by rw [FitsChar, hdigit, if_neg Bool.false_ne_true], hrest⟩

/-- Digits stand for as many digits. -/
theorem fitsLayout_digits {ds : List Char} (hds : ds.all Char.isDigit) :
    fitsLayout (bytes (ds ++ layout)) (bytes cs) ↔
      ∃ number rest, cs = number ++ rest ∧ number.length = ds.length ∧
        (∀ c ∈ number, c.isDigit) ∧ fitsLayout (bytes layout) (bytes rest) := by
  induction ds generalizing cs with
  | nil =>
    constructor
    · intro h
      exact ⟨[], cs, rfl, rfl, List.forall_mem_nil _, h⟩
    · rintro ⟨number, rest, rfl, hlength, -, hrest⟩
      rwa [List.eq_nil_of_length_eq_zero hlength]
  | cons d ds ih =>
    obtain ⟨hd, hrest⟩ := Bool.and_eq_true_iff.1 hds
    rw [List.cons_append, fitsLayout_bytes_cons (isDigit_lt hd)]
    constructor
    · rintro ⟨c, _, rfl, hc, hfits⟩
      obtain ⟨number, rest, rfl, hlength, hnumber, hfits⟩ := (ih hrest).1 hfits
      rw [FitsChar, hd, if_pos rfl] at hc
      exact ⟨c :: number, rest, rfl, by rw [List.length_cons, List.length_cons, hlength],
        List.forall_mem_cons.2 ⟨hc, hnumber⟩, hfits⟩
    · rintro ⟨number, rest, rfl, hlength, hnumber, hfits⟩
      cases number with
      | nil => cases hlength
      | cons c number =>
        obtain ⟨hc, hnumber⟩ := List.forall_mem_cons.1 hnumber
        refine ⟨c, number ++ rest, rfl, by rw [FitsChar, hd, if_pos rfl]; exact hc,
          (ih hrest).2 ⟨number, rest, rfl, Nat.succ.inj hlength, hnumber, hfits⟩⟩

end ClusterAdmission.Text
