import RecordStore.Text.Ranges

/-!
# Letter case

Which characters are uppercase, and what their lowercase form is. Both follow the character
standard: a titlecase letter is not uppercase, an uppercase symbol such as a circled letter is, and
one letter has a lowercase form of two characters. Case is decided character by character, never
from the neighbours.
-/

namespace RecordStore.Text

/-- First member, last member and stride of each run of uppercase characters beyond ASCII. -/
def uppercaseRuns : List (Nat × Nat × Nat) :=
  [(0x00c0, 0x00d6, 1), (0x00d8, 0x00de, 1), (0x0100, 0x0136, 2), (0x0139, 0x0147, 2),
   (0x014a, 0x0178, 2), (0x0179, 0x017d, 2), (0x0181, 0x0182, 1), (0x0184, 0x0186, 2),
   (0x0187, 0x0189, 2), (0x018a, 0x018b, 1), (0x018e, 0x0191, 1), (0x0193, 0x0194, 1),
   (0x0196, 0x0198, 1), (0x019c, 0x019d, 1), (0x019f, 0x01a0, 1), (0x01a2, 0x01a6, 2),
   (0x01a7, 0x01a9, 2), (0x01ac, 0x01ae, 2), (0x01af, 0x01b1, 2), (0x01b2, 0x01b3, 1),
   (0x01b5, 0x01b7, 2), (0x01b8, 0x01b8, 1), (0x01bc, 0x01bc, 1), (0x01c4, 0x01c4, 1),
   (0x01c7, 0x01c7, 1), (0x01ca, 0x01ca, 1), (0x01cd, 0x01db, 2), (0x01de, 0x01ee, 2),
   (0x01f1, 0x01f1, 1), (0x01f4, 0x01f6, 2), (0x01f7, 0x01f8, 1), (0x01fa, 0x0232, 2),
   (0x023a, 0x023b, 1), (0x023d, 0x023e, 1), (0x0241, 0x0243, 2), (0x0244, 0x0246, 1),
   (0x0248, 0x024e, 2), (0x0370, 0x0372, 2), (0x0376, 0x0376, 1), (0x037f, 0x037f, 1),
   (0x0386, 0x0388, 2), (0x0389, 0x038a, 1), (0x038c, 0x038e, 2), (0x038f, 0x0391, 2),
   (0x0392, 0x03a1, 1), (0x03a3, 0x03ab, 1), (0x03cf, 0x03cf, 1), (0x03d2, 0x03d4, 1),
   (0x03d8, 0x03ee, 2), (0x03f4, 0x03f4, 1), (0x03f7, 0x03f9, 2), (0x03fa, 0x03fa, 1),
   (0x03fd, 0x042f, 1), (0x0460, 0x0480, 2), (0x048a, 0x04c0, 2), (0x04c1, 0x04cd, 2),
   (0x04d0, 0x052e, 2), (0x0531, 0x0556, 1), (0x10a0, 0x10c5, 1), (0x10c7, 0x10c7, 1),
   (0x10cd, 0x10cd, 1), (0x13a0, 0x13f5, 1), (0x1c89, 0x1c89, 1), (0x1c90, 0x1cba, 1),
   (0x1cbd, 0x1cbf, 1), (0x1e00, 0x1e94, 2), (0x1e9e, 0x1efe, 2), (0x1f08, 0x1f0f, 1),
   (0x1f18, 0x1f1d, 1), (0x1f28, 0x1f2f, 1), (0x1f38, 0x1f3f, 1), (0x1f48, 0x1f4d, 1),
   (0x1f59, 0x1f5f, 2), (0x1f68, 0x1f6f, 1), (0x1fb8, 0x1fbb, 1), (0x1fc8, 0x1fcb, 1),
   (0x1fd8, 0x1fdb, 1), (0x1fe8, 0x1fec, 1), (0x1ff8, 0x1ffb, 1), (0x2102, 0x2102, 1),
   (0x2107, 0x2107, 1), (0x210b, 0x210d, 1), (0x2110, 0x2112, 1), (0x2115, 0x2115, 1),
   (0x2119, 0x211d, 1), (0x2124, 0x212a, 2), (0x212b, 0x212d, 1), (0x2130, 0x2133, 1),
   (0x213e, 0x213f, 1), (0x2145, 0x2145, 1), (0x2160, 0x216f, 1), (0x2183, 0x2183, 1),
   (0x24b6, 0x24cf, 1), (0x2c00, 0x2c2f, 1), (0x2c60, 0x2c62, 2), (0x2c63, 0x2c64, 1),
   (0x2c67, 0x2c6d, 2), (0x2c6e, 0x2c70, 1), (0x2c72, 0x2c72, 1), (0x2c75, 0x2c75, 1),
   (0x2c7e, 0x2c80, 1), (0x2c82, 0x2ce2, 2), (0x2ceb, 0x2ced, 2), (0x2cf2, 0x2cf2, 1),
   (0xa640, 0xa66c, 2), (0xa680, 0xa69a, 2), (0xa722, 0xa72e, 2), (0xa732, 0xa76e, 2),
   (0xa779, 0xa77d, 2), (0xa77e, 0xa786, 2), (0xa78b, 0xa78d, 2), (0xa790, 0xa792, 2),
   (0xa796, 0xa7aa, 2), (0xa7ab, 0xa7ae, 1), (0xa7b0, 0xa7b4, 1), (0xa7b6, 0xa7c4, 2),
   (0xa7c5, 0xa7c7, 1), (0xa7c9, 0xa7cb, 2), (0xa7cc, 0xa7dc, 2), (0xa7f5, 0xa7f5, 1),
   (0xff21, 0xff3a, 1), (0x10400, 0x10427, 1), (0x104b0, 0x104d3, 1), (0x10570, 0x1057a, 1),
   (0x1057c, 0x1058a, 1), (0x1058c, 0x10592, 1), (0x10594, 0x10595, 1), (0x10c80, 0x10cb2, 1),
   (0x10d50, 0x10d65, 1), (0x118a0, 0x118bf, 1), (0x16e40, 0x16e5f, 1), (0x16ea0, 0x16eb8, 1),
   (0x1d400, 0x1d419, 1), (0x1d434, 0x1d44d, 1), (0x1d468, 0x1d481, 1), (0x1d49c, 0x1d49e, 2),
   (0x1d49f, 0x1d49f, 1), (0x1d4a2, 0x1d4a2, 1), (0x1d4a5, 0x1d4a6, 1), (0x1d4a9, 0x1d4ac, 1),
   (0x1d4ae, 0x1d4b5, 1), (0x1d4d0, 0x1d4e9, 1), (0x1d504, 0x1d505, 1), (0x1d507, 0x1d50a, 1),
   (0x1d50d, 0x1d514, 1), (0x1d516, 0x1d51c, 1), (0x1d538, 0x1d539, 1), (0x1d53b, 0x1d53e, 1),
   (0x1d540, 0x1d544, 1), (0x1d546, 0x1d546, 1), (0x1d54a, 0x1d550, 1), (0x1d56c, 0x1d585, 1),
   (0x1d5a0, 0x1d5b9, 1), (0x1d5d4, 0x1d5ed, 1), (0x1d608, 0x1d621, 1), (0x1d63c, 0x1d655, 1),
   (0x1d670, 0x1d689, 1), (0x1d6a8, 0x1d6c0, 1), (0x1d6e2, 0x1d6fa, 1), (0x1d71c, 0x1d734, 1),
   (0x1d756, 0x1d76e, 1), (0x1d790, 0x1d7a8, 1), (0x1d7ca, 0x1d7ca, 1), (0x1e900, 0x1e921, 1),
   (0x1f130, 0x1f149, 1), (0x1f150, 0x1f169, 1), (0x1f170, 0x1f189, 1)]

/-- Runs of characters beyond ASCII whose lowercase form is one character: first member, last
member, stride, and the distance from a member to its lowercase form. -/
def lowercaseRuns : List (Nat × Nat × Nat × Int) :=
  [(0x00c0, 0x00d6, 1, 32), (0x00d8, 0x00de, 1, 32), (0x0100, 0x012e, 2, 1),
   (0x0132, 0x0136, 2, 1), (0x0139, 0x0147, 2, 1), (0x014a, 0x0176, 2, 1),
   (0x0178, 0x0178, 1, -121), (0x0179, 0x017d, 2, 1), (0x0181, 0x0181, 1, 210),
   (0x0182, 0x0184, 2, 1), (0x0186, 0x0186, 1, 206), (0x0187, 0x0187, 1, 1),
   (0x0189, 0x018a, 1, 205), (0x018b, 0x018b, 1, 1), (0x018e, 0x018e, 1, 79),
   (0x018f, 0x018f, 1, 202), (0x0190, 0x0190, 1, 203), (0x0191, 0x0191, 1, 1),
   (0x0193, 0x0193, 1, 205), (0x0194, 0x0194, 1, 207), (0x0196, 0x0196, 1, 211),
   (0x0197, 0x0197, 1, 209), (0x0198, 0x0198, 1, 1), (0x019c, 0x019c, 1, 211),
   (0x019d, 0x019d, 1, 213), (0x019f, 0x019f, 1, 214), (0x01a0, 0x01a4, 2, 1),
   (0x01a6, 0x01a6, 1, 218), (0x01a7, 0x01a7, 1, 1), (0x01a9, 0x01a9, 1, 218),
   (0x01ac, 0x01ac, 1, 1), (0x01ae, 0x01ae, 1, 218), (0x01af, 0x01af, 1, 1),
   (0x01b1, 0x01b2, 1, 217), (0x01b3, 0x01b5, 2, 1), (0x01b7, 0x01b7, 1, 219),
   (0x01b8, 0x01b8, 1, 1), (0x01bc, 0x01bc, 1, 1), (0x01c4, 0x01c4, 1, 2), (0x01c7, 0x01c7, 1, 2),
   (0x01ca, 0x01ca, 1, 2), (0x01cd, 0x01db, 2, 1), (0x01de, 0x01ee, 2, 1), (0x01f1, 0x01f1, 1, 2),
   (0x01f4, 0x01f4, 1, 1), (0x01f6, 0x01f6, 1, -97), (0x01f7, 0x01f7, 1, -56),
   (0x01f8, 0x021e, 2, 1), (0x0220, 0x0220, 1, -130), (0x0222, 0x0232, 2, 1),
   (0x023a, 0x023a, 1, 10795), (0x023b, 0x023b, 1, 1), (0x023d, 0x023d, 1, -163),
   (0x023e, 0x023e, 1, 10792), (0x0241, 0x0241, 1, 1), (0x0243, 0x0243, 1, -195),
   (0x0244, 0x0244, 1, 69), (0x0245, 0x0245, 1, 71), (0x0246, 0x024e, 2, 1),
   (0x0370, 0x0372, 2, 1), (0x0376, 0x0376, 1, 1), (0x037f, 0x037f, 1, 116),
   (0x0386, 0x0386, 1, 38), (0x0388, 0x038a, 1, 37), (0x038c, 0x038c, 1, 64),
   (0x038e, 0x038f, 1, 63), (0x0391, 0x03a1, 1, 32), (0x03a3, 0x03ab, 1, 32),
   (0x03cf, 0x03cf, 1, 8), (0x03d8, 0x03ee, 2, 1), (0x03f4, 0x03f4, 1, -60),
   (0x03f7, 0x03f7, 1, 1), (0x03f9, 0x03f9, 1, -7), (0x03fa, 0x03fa, 1, 1),
   (0x03fd, 0x03ff, 1, -130), (0x0400, 0x040f, 1, 80), (0x0410, 0x042f, 1, 32),
   (0x0460, 0x0480, 2, 1), (0x048a, 0x04be, 2, 1), (0x04c0, 0x04c0, 1, 15),
   (0x04c1, 0x04cd, 2, 1), (0x04d0, 0x052e, 2, 1), (0x0531, 0x0556, 1, 48),
   (0x10a0, 0x10c5, 1, 7264), (0x10c7, 0x10c7, 1, 7264), (0x10cd, 0x10cd, 1, 7264),
   (0x13a0, 0x13ef, 1, 38864), (0x13f0, 0x13f5, 1, 8), (0x1c89, 0x1c89, 1, 1),
   (0x1c90, 0x1cba, 1, -3008), (0x1cbd, 0x1cbf, 1, -3008), (0x1e00, 0x1e94, 2, 1),
   (0x1e9e, 0x1e9e, 1, -7615), (0x1ea0, 0x1efe, 2, 1), (0x1f08, 0x1f0f, 1, -8),
   (0x1f18, 0x1f1d, 1, -8), (0x1f28, 0x1f2f, 1, -8), (0x1f38, 0x1f3f, 1, -8),
   (0x1f48, 0x1f4d, 1, -8), (0x1f59, 0x1f5f, 2, -8), (0x1f68, 0x1f6f, 1, -8),
   (0x1fb8, 0x1fb9, 1, -8), (0x1fba, 0x1fbb, 1, -74), (0x1fc8, 0x1fcb, 1, -86),
   (0x1fd8, 0x1fd9, 1, -8), (0x1fda, 0x1fdb, 1, -100), (0x1fe8, 0x1fe9, 1, -8),
   (0x1fea, 0x1feb, 1, -112), (0x1fec, 0x1fec, 1, -7), (0x1ff8, 0x1ff9, 1, -128),
   (0x1ffa, 0x1ffb, 1, -126), (0x2126, 0x2126, 1, -7517), (0x212a, 0x212a, 1, -8383),
   (0x212b, 0x212b, 1, -8262), (0x2132, 0x2132, 1, 28), (0x2160, 0x216f, 1, 16),
   (0x2183, 0x2183, 1, 1), (0x24b6, 0x24cf, 1, 26), (0x2c00, 0x2c2f, 1, 48),
   (0x2c60, 0x2c60, 1, 1), (0x2c62, 0x2c62, 1, -10743), (0x2c63, 0x2c63, 1, -3814),
   (0x2c64, 0x2c64, 1, -10727), (0x2c67, 0x2c6b, 2, 1), (0x2c6d, 0x2c6d, 1, -10780),
   (0x2c6e, 0x2c6e, 1, -10749), (0x2c6f, 0x2c6f, 1, -10783), (0x2c70, 0x2c70, 1, -10782),
   (0x2c72, 0x2c72, 1, 1), (0x2c75, 0x2c75, 1, 1), (0x2c7e, 0x2c7f, 1, -10815),
   (0x2c80, 0x2ce2, 2, 1), (0x2ceb, 0x2ced, 2, 1), (0x2cf2, 0x2cf2, 1, 1), (0xa640, 0xa66c, 2, 1),
   (0xa680, 0xa69a, 2, 1), (0xa722, 0xa72e, 2, 1), (0xa732, 0xa76e, 2, 1), (0xa779, 0xa77b, 2, 1),
   (0xa77d, 0xa77d, 1, -35332), (0xa77e, 0xa786, 2, 1), (0xa78b, 0xa78b, 1, 1),
   (0xa78d, 0xa78d, 1, -42280), (0xa790, 0xa792, 2, 1), (0xa796, 0xa7a8, 2, 1),
   (0xa7aa, 0xa7aa, 1, -42308), (0xa7ab, 0xa7ab, 1, -42319), (0xa7ac, 0xa7ac, 1, -42315),
   (0xa7ad, 0xa7ad, 1, -42305), (0xa7ae, 0xa7ae, 1, -42308), (0xa7b0, 0xa7b0, 1, -42258),
   (0xa7b1, 0xa7b1, 1, -42282), (0xa7b2, 0xa7b2, 1, -42261), (0xa7b3, 0xa7b3, 1, 928),
   (0xa7b4, 0xa7c2, 2, 1), (0xa7c4, 0xa7c4, 1, -48), (0xa7c5, 0xa7c5, 1, -42307),
   (0xa7c6, 0xa7c6, 1, -35384), (0xa7c7, 0xa7c9, 2, 1), (0xa7cb, 0xa7cb, 1, -42343),
   (0xa7cc, 0xa7da, 2, 1), (0xa7dc, 0xa7dc, 1, -42561), (0xa7f5, 0xa7f5, 1, 1),
   (0xff21, 0xff3a, 1, 32), (0x10400, 0x10427, 1, 40), (0x104b0, 0x104d3, 1, 40),
   (0x10570, 0x1057a, 1, 39), (0x1057c, 0x1058a, 1, 39), (0x1058c, 0x10592, 1, 39),
   (0x10594, 0x10595, 1, 39), (0x10c80, 0x10cb2, 1, 64), (0x10d50, 0x10d65, 1, 32),
   (0x118a0, 0x118bf, 1, 32), (0x16e40, 0x16e5f, 1, 32), (0x16ea0, 0x16eb8, 1, 27),
   (0x1e900, 0x1e921, 1, 34)]

def isUppercase (c : Char) : Bool :=
  if c.toNat < 0x80 then 'A' ≤ c && c ≤ 'Z' else inRuns uppercaseRuns c

/-- The distance from an uppercase character beyond ASCII to its lowercase form, zero when it has
none of its own. -/
def lowercaseOffset (c : Char) : Int :=
  match lowercaseRuns.find? fun (first, last, stride, _) =>
      first ≤ c.toNat && c.toNat ≤ last && (c.toNat - first) % stride == 0 with
  | some (_, _, _, offset) => offset
  | none => 0

def lowercase (c : Char) : List Char :=
  if c.toNat < 0x80 then [c.toLower]
  else if c.toNat = 0x130 then ['i', Char.ofNat 0x307]
  else [Char.ofNat (c.toNat + lowercaseOffset c).toNat]

/-- A text with its ASCII letters in lower case and every other character as it is. -/
def asciiLowercase (text : List Char) : List Char := text.map Char.toLower

/-! ### Lowercase letters and digits of ASCII -/

theorem exists_eq_ofNat {c : Char} {first count : Nat}
    (h : first ≤ c.toNat ∧ c.toNat < first + count) :
    ∃ n : Fin count, c = Char.ofNat (first + n) := by
  refine ⟨⟨c.toNat - first, by omega⟩, ?_⟩
  rw [show first + (c.toNat - first) = c.toNat by omega, Char.ofNat_toNat]

theorem exists_of_isLower {c : Char} (h : c.isLower = true) :
    ∃ n : Fin 26, c = Char.ofNat (97 + n) := by
  have hbounds : 97 ≤ c.toNat ∧ c.toNat ≤ 122 := by
    change (decide (c.val ≥ 97) && decide (c.val ≤ 122)) = true at h
    simpa [UInt32.le_iff_toNat_le] using h
  exact exists_eq_ofNat (by omega)

theorem exists_of_isDigit {c : Char} (h : c.isDigit = true) :
    ∃ n : Fin 10, c = Char.ofNat (48 + n) := by
  have hbounds : 48 ≤ c.toNat ∧ c.toNat ≤ 57 := Char.isDigit_iff_toNat.1 h
  exact exists_eq_ofNat (by omega)

/-- A capital of ASCII has its letter as lowercase form, in the standard as in ASCII. -/
theorem toUpper_of_isLower {c : Char} (h : c.isLower = true) :
    isUppercase c.toUpper = true ∧ lowercase c.toUpper = [c] ∧ c.toUpper.toLower = c := by
  obtain ⟨n, rfl⟩ := exists_of_isLower h
  revert n
  decide

theorem toUpper_of_not_isLower {c : Char} (h : c.isLower = false) : c.toUpper = c := by
  refine dif_neg fun hrange => ne_true_of_eq_false h ?_
  exact Bool.and_eq_true_iff.2 ⟨decide_eq_true hrange.1, decide_eq_true hrange.2⟩

theorem isUppercase_toUpper {c : Char} (h : isUppercase c = false) :
    isUppercase c.toUpper = c.isLower := by
  cases hlower : c.isLower with
  | true => exact (toUpper_of_isLower hlower).1
  | false => rwa [toUpper_of_not_isLower hlower]

/-- Characters that are no capitals can be told apart in upper case. -/
theorem eq_of_toUpper_eq {c d : Char} (hc : isUppercase c = false) (hd : isUppercase d = false)
    (h : c.toUpper = d.toUpper) : c = d := by
  have hcase : c.isLower = d.isLower := by rw [← isUppercase_toUpper hc, h, isUppercase_toUpper hd]
  cases hlower : c.isLower with
  | true =>
    have hother : d.isLower = true := hcase.symm.trans hlower
    rw [← (toUpper_of_isLower hlower).2.2, h, (toUpper_of_isLower hother).2.2]
  | false =>
    have hother : d.isLower = false := hcase.symm.trans hlower
    rwa [toUpper_of_not_isLower hlower, toUpper_of_not_isLower hother] at h

theorem small_of_plain {c : Char} (h : c.isLower = true ∨ c.isDigit = true) :
    isUppercase c = false ∧ c.toLower = c := by
  rcases h with h | h
  · obtain ⟨n, rfl⟩ := exists_of_isLower h
    clear h
    revert n
    decide
  · obtain ⟨n, rfl⟩ := exists_of_isDigit h
    clear h
    revert n
    decide

end RecordStore.Text
