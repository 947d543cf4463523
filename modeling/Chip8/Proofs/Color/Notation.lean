import Chip8.Color
import Chip8.Proofs.Text.Hexadecimal

/-!
How a colour is written: six hexadecimal digits, two for each byte, behind one mark or none. These
texts are read, and no others; and what is printed for a colour is read as that colour, whatever
mark it is given and in whatever case its digits are.
-/

namespace Chip8

namespace Text

theorem isHexDigit_upperHexDigit {n : Nat} (h : n < 16) : IsHexDigit (upperHexDigit n) n :=
  hexValue?_eq_some_iff.1 (hexValue?_upperHexDigit n h)

end Text

namespace Color

open Text (IsHexDigit hexAlphabet)

/-! ### Numbers -/

theorem toNat_rgb (c : Color) : c.rgb.toNat = 65536 * c.r.toNat + 256 * c.g.toNat + c.b.toNat := by
  have hr := c.r.toNat_lt
  have hg := c.g.toNat_lt
  have hb := c.b.toNat_lt
  have hred : (c.r.toUInt32 <<< 16).toNat = 65536 * c.r.toNat := by
    simp only [UInt32.toNat_shiftLeft, UInt8.toNat_toUInt32, UInt32.reduceToNat, Nat.reduceMod,
      Nat.shiftLeft_eq, Nat.reducePow]
    omega
  have hgreen : (c.g.toUInt32 <<< 8).toNat = 256 * c.g.toNat := by
    simp only [UInt32.toNat_shiftLeft, UInt8.toNat_toUInt32, UInt32.reduceToNat, Nat.reduceMod,
      Nat.shiftLeft_eq, Nat.reducePow]
    omega
  have hupper : 65536 * c.r.toNat ||| 256 * c.g.toNat = 2 ^ 8 * (256 * c.r.toNat + c.g.toNat) := by
    show 2 ^ 16 * c.r.toNat ||| 256 * c.g.toNat = _
    rw [← Nat.two_pow_add_eq_or_of_lt (by omega)]
    omega
  rw [rgb, UInt32.toNat_or, UInt32.toNat_or, hred, hgreen, UInt8.toNat_toUInt32, hupper,
    ← Nat.two_pow_add_eq_or_of_lt hb]
  omega

theorem toNat_rgb_ofRgb (v : UInt32) : (ofRgb v).rgb.toNat = v.toNat % 2 ^ 24 := by
  have hred : (v >>> 16).toUInt8.toNat = v.toNat / 65536 % 256 := by
    simp [Nat.shiftRight_eq_div_pow]
  have hgreen : (v >>> 8).toUInt8.toNat = v.toNat / 256 % 256 := by
    simp [Nat.shiftRight_eq_div_pow]
  have hblue : v.toUInt8.toNat = v.toNat % 256 := by simp
  rw [toNat_rgb, ofRgb, hred, hgreen, hblue]
  omega

/-! ### Digits -/

/-- The two digits of a byte. -/
def WritesByte (hi lo : Char) (b : UInt8) : Prop :=
  IsHexDigit hi (b.toNat / 16) ∧ IsHexDigit lo (b.toNat % 16)

/-- The six digits of a colour, two for each of its bytes. -/
def Writes (digits : List Char) (c : Color) : Prop :=
  ∃ r₁ r₀ g₁ g₀ b₁ b₀, digits = [r₁, r₀, g₁, g₀, b₁, b₀] ∧
    WritesByte r₁ r₀ c.r ∧ WritesByte g₁ g₀ c.g ∧ WritesByte b₁ b₀ c.b

theorem byte?_eq_some_iff {hi lo : Char} {b : UInt8} :
    byte? hi lo = some b ↔ WritesByte hi lo b := by
  simp only [byte?, Option.bind_eq_bind, Option.bind_eq_some_iff, Option.pure_def,
    Option.some.injEq, Text.hexValue?_eq_some_iff]
  constructor
  · rintro ⟨m, hm, n, hn, rfl⟩
    have hmlt := hm.lt
    have hnlt := hn.lt
    have hvalue : (UInt8.ofNat (16 * m + n)).toNat = 16 * m + n := by
      rw [UInt8.toNat_ofNat']
      omega
    rw [WritesByte, hvalue, Nat.mul_add_div (by decide), Nat.div_eq_of_lt hnlt,
      Nat.mul_add_mod, Nat.mod_eq_of_lt hnlt]
    exact ⟨hm, hn⟩
  · rintro ⟨hhi, hlo⟩
    refine ⟨_, hhi, _, hlo, ?_⟩
    rw [Nat.div_add_mod, UInt8.ofNat_toNat]

theorem ofDigits?_eq_some_iff {digits : List Char} {c : Color} :
    ofDigits? digits = some c ↔ Writes digits c := by
  constructor
  · intro h
    unfold ofDigits? at h
    split at h
    case h_1 r₁ r₀ g₁ g₀ b₁ b₀ =>
      obtain ⟨r, hr, h⟩ := Option.bind_eq_some_iff.1 h
      obtain ⟨g, hg, h⟩ := Option.bind_eq_some_iff.1 h
      obtain ⟨b, hb, h⟩ := Option.bind_eq_some_iff.1 h
      cases h
      exact ⟨r₁, r₀, g₁, g₀, b₁, b₀, rfl, byte?_eq_some_iff.1 hr, byte?_eq_some_iff.1 hg,
        byte?_eq_some_iff.1 hb⟩
    case h_2 => cases h
  · rintro ⟨r₁, r₀, g₁, g₀, b₁, b₀, rfl, hr, hg, hb⟩
    rw [ofDigits?, byte?_eq_some_iff.2 hr, byte?_eq_some_iff.2 hg, byte?_eq_some_iff.2 hb]
    rfl

theorem writes_map_toUpper {digits : List Char} {c : Color} :
    Writes (digits.map Char.toUpper) c ↔ Writes digits c := by
  rw [← ofDigits?_eq_some_iff, ← ofDigits?_eq_some_iff]
  match digits with
  | [r₁, r₀, g₁, g₀, b₁, b₀] => simp only [List.map, ofDigits?, byte?, Text.hexValue?_toUpper]
  | [] | [_] | [_, _] | [_, _, _] | [_, _, _, _] | [_, _, _, _, _] => rfl
  | _ :: _ :: _ :: _ :: _ :: _ :: _ :: _ => rfl

theorem exists_writesByte {hi lo : Char} (hhi : hi.toLower ∈ hexAlphabet)
    (hlo : lo.toLower ∈ hexAlphabet) : ∃ b, WritesByte hi lo b := by
  obtain ⟨m, hm⟩ := List.mem_iff_getElem?.1 hhi
  obtain ⟨n, hn⟩ := List.mem_iff_getElem?.1 hlo
  refine ⟨UInt8.ofNat (16 * m + n), byte?_eq_some_iff.1 ?_⟩
  rw [byte?, Text.hexValue?_eq_some_iff.2 hm, Text.hexValue?_eq_some_iff.2 hn]
  rfl

theorem exists_writes_iff {digits : List Char} :
    (∃ c, Writes digits c) ↔ digits.length = 6 ∧ ∀ d ∈ digits, d.toLower ∈ hexAlphabet := by
  constructor
  · rintro ⟨c, r₁, r₀, g₁, g₀, b₁, b₀, rfl, ⟨hr₁, hr₀⟩, ⟨hg₁, hg₀⟩, ⟨hb₁, hb₀⟩⟩
    refine ⟨rfl, ?_⟩
    simp only [List.forall_mem_cons]
    exact ⟨List.mem_of_getElem? hr₁, List.mem_of_getElem? hr₀, List.mem_of_getElem? hg₁,
      List.mem_of_getElem? hg₀, List.mem_of_getElem? hb₁, List.mem_of_getElem? hb₀,
      List.forall_mem_nil _⟩
  · rintro ⟨hlength, hdigits⟩
    match digits with
    | [r₁, r₀, g₁, g₀, b₁, b₀] =>
      simp only [List.forall_mem_cons] at hdigits
      obtain ⟨hr₁, hr₀, hg₁, hg₀, hb₁, hb₀, -⟩ := hdigits
      obtain ⟨r, hr⟩ := exists_writesByte hr₁ hr₀
      obtain ⟨g, hg⟩ := exists_writesByte hg₁ hg₀
      obtain ⟨b, hb⟩ := exists_writesByte hb₁ hb₀
      exact ⟨⟨r, g, b⟩, r₁, r₀, g₁, g₀, b₁, b₀, rfl, hr, hg, hb⟩

theorem exists_writes_text (c : Color) :
    ∃ digits, c.text = "0x" ++ String.ofList digits ∧ Writes digits c := by
  have hr := c.r.toNat_lt
  have hg := c.g.toNat_lt
  have hb := c.b.toNat_lt
  have hrgb := c.toNat_rgb
  refine ⟨(Text.nibbles 6 c.rgb.toNat).map Text.upperHexDigit, ?_, ?_⟩
  · rw [text, ← Text.toList_upperHex_of_lt (by decide) (by omega), String.ofList_toList]
  · have hdigits : Text.nibbles 6 c.rgb.toNat =
        [c.r.toNat / 16, c.r.toNat % 16, c.g.toNat / 16, c.g.toNat % 16,
          c.b.toNat / 16, c.b.toNat % 16] := by
      simp only [Text.nibbles, List.nil_append, List.cons_append, List.cons.injEq, and_true]
      omega
    rw [hdigits]
    exact ⟨_, _, _, _, _, _, rfl,
      ⟨Text.isHexDigit_upperHexDigit (by omega), Text.isHexDigit_upperHexDigit (by omega)⟩,
      ⟨Text.isHexDigit_upperHexDigit (by omega), Text.isHexDigit_upperHexDigit (by omega)⟩,
      ⟨Text.isHexDigit_upperHexDigit (by omega), Text.isHexDigit_upperHexDigit (by omega)⟩⟩

/-! ### Marks -/

/-- What may stand before the digits: one mark or none. -/
def marks : List String := ["", "0x", "#"]

theorem dropMark_append {mark : String} (hmark : mark ∈ marks) {digits : List Char}
    (h : ∀ d ∈ digits, d.toLower ∈ hexAlphabet) : dropMark (mark.toList ++ digits) = digits := by
  simp only [marks, List.mem_cons, List.not_mem_nil, or_false] at hmark
  rcases hmark with rfl | rfl | rfl
  · show dropMark digits = digits
    unfold dropMark
    split
    · exact absurd (h 'x' (List.mem_cons_of_mem _ List.mem_cons_self)) (by decide)
    · exact absurd (h '#' List.mem_cons_self) (by decide)
    · rfl
  · rfl
  · rfl

theorem exists_mark (s : List Char) : ∃ mark ∈ marks, s = mark.toList ++ dropMark s := by
  unfold dropMark
  split
  · exact ⟨"0x", by decide, rfl⟩
  · exact ⟨"#", by decide, rfl⟩
  · exact ⟨"", by decide, rfl⟩

/-! ### Reading -/

theorem parse_eq_ok_iff {s : String} {c : Color} :
    parse s = .ok c ↔
      ∃ mark ∈ marks, ∃ digits, s = mark ++ String.ofList digits ∧ Writes digits c := by
  have hread : parse s = .ok c ↔ Writes (dropMark s.toList) c := by
    rw [← ofDigits?_eq_some_iff, parse]
    cases ofDigits? (dropMark s.toList) <;> simp
  rw [hread]
  constructor
  · intro h
    obtain ⟨mark, hmark, hs⟩ := exists_mark s.toList
    refine ⟨mark, hmark, _, ?_, h⟩
    rw [← String.toList_inj, String.toList_append, String.toList_ofList]
    exact hs
  · rintro ⟨mark, hmark, digits, rfl, h⟩
    have hdigits := (exists_writes_iff.1 ⟨c, h⟩).2
    rwa [String.toList_append, String.toList_ofList, dropMark_append hmark hdigits]

theorem parse_eq_error_iff {s : String} {e : ColorError} :
    parse s = .error e ↔ (¬ ∃ c, parse s = .ok c) ∧ e = ⟨s⟩ := by
  rw [parse]
  cases ofDigits? (dropMark s.toList) <;> simp [eq_comm]

/-- A text is read exactly if it is six digits behind at most one mark, as the colour that the
digits write; any other text is named by the error. What is printed for a colour is such a text,
and any other mark and letter case do as well. The number of a colour loses nothing but its high
byte. -/
theorem parse_exact :
    (∀ s c, parse s = .ok c ↔
      ∃ mark ∈ marks, ∃ digits, s = mark ++ String.ofList digits ∧ Writes digits c) ∧
    (∀ s, (∃ c, parse s = .ok c) ↔
      ∃ mark ∈ marks, ∃ digits, s = mark ++ String.ofList digits ∧ digits.length = 6 ∧
        ∀ d ∈ digits, d.toLower ∈ hexAlphabet) ∧
    (∀ s, (¬ ∃ c, parse s = .ok c) → parse s = .error ⟨s⟩) ∧
    (∀ c : Color, parse c.text = .ok c ∧
      ∃ digits, c.text = "0x" ++ String.ofList digits ∧
        ∀ mark ∈ marks, ∀ digits', digits'.map Char.toUpper = digits.map Char.toUpper →
          parse (mark ++ String.ofList digits') = .ok c) ∧
    ∀ v : UInt32, (ofRgb v).rgb.toNat = v.toNat % 2 ^ 24 := by
  refine ⟨fun s c => parse_eq_ok_iff, fun s => ?_, fun s h => parse_eq_error_iff.2 ⟨h, rfl⟩,
    fun c => ?_, toNat_rgb_ofRgb⟩
  · simp only [parse_eq_ok_iff, ← exists_writes_iff]
    constructor
    · rintro ⟨c, mark, hmark, digits, hs, hdigits⟩
      exact ⟨mark, hmark, digits, hs, c, hdigits⟩
    · rintro ⟨mark, hmark, digits, hs, c, hdigits⟩
      exact ⟨c, mark, hmark, digits, hs, hdigits⟩
  · obtain ⟨digits, htext, hdigits⟩ := exists_writes_text c
    refine ⟨parse_eq_ok_iff.2 ⟨"0x", by decide, digits, htext, hdigits⟩, digits, htext, ?_⟩
    intro mark hmark digits' hcase
    refine parse_eq_ok_iff.2 ⟨mark, hmark, digits', rfl, ?_⟩
    rwa [← writes_map_toUpper, hcase, writes_map_toUpper]

/-- The case of each digit is free, and a second mark is none. -/
theorem parse_exact_mixedCase :
    "#" ∈ marks ∧
      "aABb0f".toList.map Char.toUpper = "AABB0F".toList.map Char.toUpper ∧
      parse ("#" ++ String.ofList "aABb0f".toList) = .ok ⟨0xAA, 0xBB, 0x0F⟩ ∧
      (¬ ∃ c, parse "0x#12345" = .ok c) ∧ parse "0x#12345" = .error ⟨"0x#12345"⟩ := by
  obtain ⟨-, -, herror, hprinted, -⟩ := parse_exact
  have hmark : "#" ∈ marks := by decide
  have hcase : "aABb0f".toList.map Char.toUpper = "AABB0F".toList.map Char.toUpper := by decide
  have hrefused : ¬ ∃ c, parse "0x#12345" = .ok c := by
    rintro ⟨c, hc⟩
    cases hc
  obtain ⟨-, digits, htext, hread⟩ := hprinted ⟨0xAA, 0xBB, 0x0F⟩
  have hdigits : digits = "AABB0F".toList := by
    have hlist : "0xAABB0F".toList = _ := congrArg String.toList htext
    rw [String.toList_append, String.toList_ofList (l := digits)] at hlist
    exact (List.cons.inj (List.cons.inj hlist).2).2.symm
  subst hdigits
  exact ⟨hmark, hcase, hread "#" hmark _ hcase, hrefused, herror _ hrefused⟩

end Color

end Chip8
