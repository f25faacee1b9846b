import MarkupTree.Proofs.Number.Literals
import MarkupTree.Proofs.Number.TextRoundTrip

/-! # How the text of a number is laid out

The shortest digits of a number are significant: neither the first nor the last one is a zero
(`Magnitude.isSignificant_shortest`). The power of ten of the first digit says how they are
written: with zeros behind them, with a point among them, with zeros in front of them behind a
point, or with an exponent (`Layout.InText`). Wherever a point is put or zeros are counted, the
place is among the digits and the count is no less than none, so that nothing is cut off
(`Layout.inText_write`). What the text looks like follows in each of the four cases
(`Number.display_laidOut`).
-/

namespace MarkupTree

/-- Digits of which neither the first nor the last one is a zero. -/
structure IsSignificant (digits : List Char) : Prop where
  present : digits ≠ []
  areDigits : ∀ char ∈ digits, isDigit char = true
  begins : ∀ char ∈ digits.head?, char ≠ '0'
  ends : ∀ char ∈ digits.getLast?, char ≠ '0'

namespace Decimal

/-- The digits as they are written. -/
def chars (decimal : Decimal) : List Char := Nat.toDigits 10 decimal.digits

/-- The power of ten of the first digit. -/
def leading (decimal : Decimal) : Int := decimal.chars.length - 1 + decimal.exponent

/-- Taking the zeros off the end leaves digits that do not end with one. -/
theorem digits_strip_mod_ten {decimal : Decimal} (nonzero : decimal.strip.digits ≠ 0) :
    decimal.strip.digits % 10 ≠ 0 := by
  fun_induction strip decimal with
  | case1 decimal ends ih => exact ih nonzero
  | case2 decimal done => exact fun zero => done ⟨nonzero, zero⟩

theorem isSignificant_chars {decimal : Decimal} (ends : decimal.digits % 10 ≠ 0) :
    IsSignificant decimal.chars where
  present := Nat.toDigits_ne_nil
  areDigits := fun _ => isDigit_of_mem_toDigits
  begins := by
    have nonzero : decimal.digits ≠ 0 := by omega
    obtain ⟨first, rest, digits, proper⟩ := head_toDigits nonzero
    rw [chars, digits]
    rintro char ⟨⟩
    exact proper
  ends := by
    have last : (Nat.toDigits 10 decimal.digits).getLast? =
        some (decimal.digits % 10).digitChar := by
      by_cases single : decimal.digits < 10
      · rw [Nat.toDigits_of_lt_base single, Nat.mod_eq_of_lt single]
        rfl
      · rw [Nat.toDigits_of_base_le (by decide) (by omega), List.getLast?_concat]
    rw [chars, last]
    rintro char ⟨⟩
    exact fun zero => ends (Nat.digitChar_eq_zero.mp zero)

end Decimal

/-- The shortest digits of a number that is not zero are significant. -/
theorem Magnitude.isSignificant_shortest (tie : Tie) {magnitude : Magnitude}
    (nonzero : magnitude.rank ≠ 0) : IsSignificant (magnitude.shortest tie).chars := by
  apply Decimal.isSignificant_chars
  exact Decimal.digits_strip_mod_ten (Number.digits_shortest_ne_zero tie nonzero)

namespace Layout

open Number (pointed)

/-- How digits are written by the power of ten of the first one: with zeros behind them, with a
point among them, behind a point, or with an exponent. Places and counts are those that the power
asks for, without any being negative or a place behind the digits. -/
inductive InText (digits : List Char) (leading : Int) : List Char → Prop where
  | whole (zeros : Nat) (count : (zeros : Int) = leading + 1 - digits.length)
    (low : leading ≤ 20) :
    InText digits leading (digits ++ List.replicate zeros '0')
  | mixed (ahead : Nat) (place : (ahead : Int) = leading + 1) (front : 0 < ahead)
    (inside : ahead < digits.length) (low : leading ≤ 20) :
    InText digits leading (digits.take ahead ++ '.' :: digits.drop ahead)
  | fraction (zeros : Nat) (count : (zeros : Int) = -(leading + 1)) (high : -6 ≤ leading) :
    InText digits leading ('0' :: '.' :: (List.replicate zeros '0' ++ digits))
  | scientific (first : Char) (rest : List Char) (split : digits = first :: rest)
    (far : leading ≤ -7 ∨ 21 ≤ leading) :
    InText digits leading
      (first :: (if rest = [] then [] else '.' :: rest) ++
        'e' :: (if leading < 0 then '-' else '+') :: Nat.toDigits 10 leading.natAbs)

/-- **A decimal is laid out by the power of ten of its first digit.** -/
theorem inText_write (decimal : Decimal) :
    InText decimal.chars decimal.leading (text.write decimal) := by
  have positive : 0 < decimal.chars.length := List.length_pos_of_ne_nil Nat.toDigits_ne_nil
  unfold write
  dsimp only
  rw [← Decimal.chars, ← Decimal.leading]
  have leading : decimal.leading = decimal.chars.length - 1 + decimal.exponent := rfl
  have lowest : text.lowest = -6 := rfl
  have highest : text.highest = 20 := rfl
  split
  · next near =>
    rw [lowest, highest] at near
    unfold plain
    dsimp only
    split
    · next whole =>
      have count : (decimal.exponent.toNat : Int) = decimal.leading + 1 - decimal.chars.length := by
        omega
      have pointless : text.point = false := rfl
      simp only [pointless, Bool.false_eq_true, ↓reduceIte, List.append_nil]
      exact .whole _ count near.2
    · split
      · next behind ahead => exact .mixed _ (by omega) (by omega) (by omega) near.2
      · next behind ahead => exact .fraction _ (by omega) near.1
  · next far =>
    rw [lowest, highest] at far
    obtain ⟨first, rest, split⟩ := List.exists_cons_of_ne_nil (List.ne_nil_of_length_pos positive)
    have sign : (if decimal.leading < 0 then ['-'] else if text.plus then ['+'] else []) =
        [if decimal.leading < 0 then '-' else '+'] := by
      split <;> rfl
    have form : text.scientific decimal.chars decimal.leading =
        first :: (if rest = [] then [] else '.' :: rest) ++
          'e' :: (if decimal.leading < 0 then '-' else '+') ::
            Nat.toDigits 10 decimal.leading.natAbs := by
      rw [split]
      unfold scientific
      dsimp only
      rw [sign]
      cases rest with
      | nil => rfl
      | cons second more => simp
    rw [form]
    exact .scientific first rest split (by omega)

/-- What plain notation is made of: digits and, behind a point, more digits. There are digits on
either side of the point. The last one behind it is no zero, and the first one before it is a
zero if the number is below one and only then, as the only one before the point. -/
structure IsPlain (leading : Int) (whole : List Char) (fraction : Option (List Char)) : Prop where
  present : whole ≠ []
  areDigits : ∀ char ∈ whole, isDigit char = true
  below : leading < 0 → whole = ['0']
  begins : 0 ≤ leading → ∀ char ∈ whole.head?, char ≠ '0'
  behindPresent : ∀ behind ∈ fraction, behind ≠ []
  behindDigits : ∀ behind ∈ fraction, ∀ char ∈ behind, isDigit char = true
  ends : ∀ behind ∈ fraction, ∀ char ∈ behind.getLast?, char ≠ '0'

section Forms

variable {digits : List Char} {leading : Int} {chars : List Char}

/-- Digits with zeros behind them have no point. -/
theorem isPlain_whole (significant : IsSignificant digits) {zeros : Nat} (above : 0 ≤ leading) :
    IsPlain leading (digits ++ List.replicate zeros '0') none where
  present := List.append_ne_nil_of_left_ne_nil significant.present _
  areDigits char member := by
    rcases List.mem_append.mp member with digit | zero
    · exact significant.areDigits char digit
    · rw [List.eq_of_mem_replicate zero]
      rfl
  below negative := absurd above (Int.not_le.mpr negative)
  begins _ := by
    rw [List.head?_append_of_ne_nil _ significant.present]
    exact significant.begins
  behindPresent := nofun
  behindDigits := nofun
  ends := nofun

/-- A point among the digits has digits on either side. -/
theorem isPlain_mixed (significant : IsSignificant digits) {ahead : Nat} (above : 0 ≤ leading)
    (front : 0 < ahead) (inside : ahead < digits.length) :
    IsPlain leading (digits.take ahead) (some (digits.drop ahead)) where
  present := List.ne_nil_of_length_pos (by rw [List.length_take]; omega)
  areDigits char member := significant.areDigits char (List.mem_of_mem_take member)
  below negative := absurd above (Int.not_le.mpr negative)
  begins _ := by
    rw [List.head?_take, if_neg (Nat.ne_of_gt front)]
    exact significant.begins
  behindPresent := by
    rintro behind ⟨⟩
    exact List.ne_nil_of_length_pos (by rw [List.length_drop]; omega)
  behindDigits := by
    rintro behind ⟨⟩ char member
    exact significant.areDigits char (List.mem_of_mem_drop member)
  ends := by
    rintro behind ⟨⟩
    rw [List.getLast?_drop, if_neg (Nat.not_le.mpr inside)]
    exact significant.ends

/-- Behind a single zero and a point the digits follow, zeros in front of them. -/
theorem isPlain_fraction (significant : IsSignificant digits) {zeros : Nat} (low : leading < 0) :
    IsPlain leading ['0'] (some (List.replicate zeros '0' ++ digits)) where
  present := List.cons_ne_nil _ _
  areDigits := List.forall_mem_singleton.mpr rfl
  below _ := rfl
  begins above := absurd above (Int.not_le.mpr low)
  behindPresent := by
    rintro behind ⟨⟩
    exact List.append_ne_nil_of_right_ne_nil _ significant.present
  behindDigits := by
    rintro behind ⟨⟩ char member
    rcases List.mem_append.mp member with zero | digit
    · rw [List.eq_of_mem_replicate zero]
      rfl
    · exact significant.areDigits char digit
  ends := by
    rintro behind ⟨⟩
    rw [List.getLast?_append_of_ne_nil _ significant.present]
    exact significant.ends

/-- Between the thresholds the notation is plain, with a point if not all digits are before it. -/
theorem InText.exists_plain (laidOut : InText digits leading chars)
    (significant : IsSignificant digits) (near : -7 < leading ∧ leading < 21) :
    ∃ whole fraction, chars = whole ++ pointed fraction ∧ IsPlain leading whole fraction ∧
      (fraction.isSome = true ↔ leading < digits.length - 1) := by
  have positive : 0 < digits.length := List.length_pos_of_ne_nil significant.present
  cases laidOut with
  | whole zeros count low =>
      refine ⟨_, none, (List.append_nil _).symm, isPlain_whole significant (by omega), ?_⟩
      simp only [Option.isSome_none, Bool.false_eq_true, false_iff]
      omega
  | mixed ahead place front inside low =>
      refine ⟨_, some _, rfl, isPlain_mixed significant (by omega) front inside, ?_⟩
      simp only [Option.isSome_some, true_iff]
      omega
  | fraction zeros count high =>
      refine ⟨['0'], some _, rfl, isPlain_fraction significant (by omega), ?_⟩
      simp only [Option.isSome_some, true_iff]
      omega
  | scientific first rest split far => omega

theorem IsPlain.not_mem {whole : List Char} {fraction : Option (List Char)}
    (plain : IsPlain leading whole fraction) {char : Char} (other : isDigit char = false)
    (noPoint : char ≠ '.') : char ∉ whole ++ pointed fraction := by
  intro member
  have digit : isDigit char = true := by
    rcases List.mem_append.mp member with inWhole | behind
    · exact plain.areDigits char inWhole
    · cases fraction with
      | none => cases behind
      | some digits =>
          rcases List.mem_cons.mp behind with rfl | inFraction
          · exact absurd rfl noPoint
          · exact plain.behindDigits digits rfl char inFraction
  rw [other] at digit
  cases digit

theorem IsPlain.point_mem_iff {whole : List Char} {fraction : Option (List Char)}
    (plain : IsPlain leading whole fraction) :
    '.' ∈ whole ++ pointed fraction ↔ fraction.isSome = true := by
  have front : '.' ∉ whole := fun member => absurd (plain.areDigits _ member) (by decide)
  cases fraction <;> simp [pointed, front]

/-- From the thresholds on the notation has an exponent with a sign and no zero in front. -/
theorem InText.exists_scientific (laidOut : InText digits leading chars)
    (significant : IsSignificant digits) (far : leading ≤ -7 ∨ 21 ≤ leading) :
    ∃ first rest power, digits = first :: rest ∧
      chars = first :: (if rest = [] then [] else '.' :: rest) ++
        'e' :: (if leading < 0 then '-' else '+') :: power ∧
      power = Nat.toDigits 10 leading.natAbs ∧ ∀ char ∈ power.head?, char ≠ '0' := by
  have positive : 0 < digits.length := List.length_pos_of_ne_nil significant.present
  cases laidOut with
  | whole zeros count low => omega
  | mixed ahead place front inside low => omega
  | fraction zeros count high => omega
  | scientific first rest split _ =>
      refine ⟨first, rest, _, split, rfl, rfl, ?_⟩
      obtain ⟨leader, others, power, proper⟩ :=
        head_toDigits (by omega : leading.natAbs ≠ 0)
      rw [power]
      rintro char ⟨⟩
      exact proper

theorem InText.exponent_mem_iff (laidOut : InText digits leading chars)
    (significant : IsSignificant digits) :
    'e' ∈ chars ↔ 21 ≤ leading ∨ leading ≤ -7 := by
  by_cases near : -7 < leading ∧ leading < 21
  · obtain ⟨whole, fraction, rfl, plain, -⟩ := laidOut.exists_plain significant near
    exact iff_of_false (plain.not_mem rfl (by decide)) (by omega)
  · obtain ⟨first, rest, power, -, rfl, -⟩ :=
      laidOut.exists_scientific significant (by omega)
    exact iff_of_true (List.mem_append_right _ List.mem_cons_self) (by omega)

/-- The text begins with a digit. -/
theorem InText.isDigit_head (laidOut : InText digits leading chars)
    (significant : IsSignificant digits) :
    ∃ first rest, chars = first :: rest ∧ isDigit first = true := by
  by_cases near : -7 < leading ∧ leading < 21
  · obtain ⟨whole, fraction, rfl, plain, -⟩ := laidOut.exists_plain significant near
    obtain ⟨first, rest, rfl⟩ := List.exists_cons_of_ne_nil plain.present
    exact ⟨first, _, rfl, plain.areDigits first List.mem_cons_self⟩
  · obtain ⟨first, rest, power, rfl, rfl, -⟩ :=
      laidOut.exists_scientific significant (by omega)
    exact ⟨first, _, rfl, significant.areDigits first List.mem_cons_self⟩

end Forms

end Layout

namespace Number

/-- The text of a number that is not zero is the layout of its shortest digits behind its sign. -/
theorem toList_display (negative : Bool) {magnitude : Magnitude} (nonzero : magnitude.rank ≠ 0) :
    (finite negative magnitude).display.toList =
      signed negative (Layout.text.write (magnitude.shortest Layout.text.tie)) := by
  simp only [display, displayChars, nonzero, ↓reduceIte, Layout.writeMagnitude,
    String.toList_ofList]

/-- **How the text of a number looks** follows from its shortest digits and the power of ten of
the first of them. It begins with a minus sign if the number is negative. It has an exponent
exactly from the power of 21 on and from the power of -7 down. Without one, there is a point
exactly if there are digits for behind it. With one, the first digit stands before the point and
the exponent has a sign. Every place and every count on the way is the one asked for. -/
theorem display_laidOut (negative : Bool) {magnitude : Magnitude} (nonzero : magnitude.rank ≠ 0) :
    let decimal := magnitude.shortest Layout.text.tie
    let digits := decimal.chars
    let exponent := decimal.leading
    let text := (finite negative magnitude).display.toList
    ofDecimal negative decimal = finite negative magnitude ∧ IsSignificant digits ∧
      (text.head? = some '-' ↔ negative = true) ∧
      ('e' ∈ text ↔ 21 ≤ exponent ∨ exponent ≤ -7) ∧
      ∃ unsigned, text = signed negative unsigned ∧ Layout.InText digits exponent unsigned ∧
        ('e' ∉ text →
          ('.' ∈ text ↔ exponent < digits.length - 1) ∧
          ∃ whole fraction, unsigned = whole ++ pointed fraction ∧
            Layout.IsPlain exponent whole fraction) ∧
        ('e' ∈ text →
          ∃ first rest power, digits = first :: rest ∧
            unsigned = first :: (if rest = [] then [] else '.' :: rest) ++
              'e' :: (if exponent < 0 then '-' else '+') :: power ∧
            power = Nat.toDigits 10 exponent.natAbs ∧ ∀ char ∈ power.head?, char ≠ '0') := by
  intro decimal digits exponent text
  have significant : IsSignificant digits := Magnitude.isSignificant_shortest _ nonzero
  have laidOut : Layout.InText digits exponent (Layout.text.write decimal) :=
    Layout.inText_write decimal
  have written : text = signed negative (Layout.text.write decimal) :=
    toList_display negative nonzero
  have mem_text {char : Char} (noSign : char ≠ '-') :
      char ∈ text ↔ char ∈ Layout.text.write decimal := by
    rw [written]
    cases negative <;> simp [signed, noSign]
  have powers := laidOut.exponent_mem_iff significant
  refine ⟨ofDecimal_shortest negative _ magnitude, significant, ?_,
    (mem_text (by decide)).trans powers, _, written, laidOut, ?_, ?_⟩
  · obtain ⟨first, rest, chars, digit⟩ := laidOut.isDigit_head significant
    have unsigned : first ≠ '-' := by
      rintro rfl
      exact absurd digit (by decide)
    rw [written, chars]
    cases negative <;> simp [signed, unsigned]
  · rw [mem_text (by decide), powers]
    intro near
    obtain ⟨whole, fraction, chars, plain, behind⟩ :=
      laidOut.exists_plain significant (by omega)
    refine ⟨?_, whole, fraction, chars, plain⟩
    rw [mem_text (by decide), chars, plain.point_mem_iff, behind]
  · rw [mem_text (by decide), powers]
    intro far
    exact laidOut.exists_scientific significant (by omega)

/-- Two digits below zero whose power is the first one that is written. -/
theorem display_laidOut_minusSeven :
    let magnitude : Magnitude := ⟨Decimal.nearestRank .binary64 ⟨15, -8⟩, by decide +kernel⟩
    let text := (finite true magnitude).display.toList
    magnitude.rank ≠ 0 ∧ text = "-1.5e-7".toList ∧
      (magnitude.shortest Layout.text.tie).leading = -7 ∧ text.head? = some '-' ∧ 'e' ∈ text ∧
      ∃ unsigned, text = signed true unsigned ∧ Layout.InText ['1', '5'] (-7) unsigned := by
  intro magnitude text
  have nonzero : magnitude.rank ≠ 0 := by decide +kernel
  have digits : (magnitude.shortest Layout.text.tie).chars = ['1', '5'] := by decide +kernel
  have power : (magnitude.shortest Layout.text.tie).leading = -7 := by decide +kernel
  obtain ⟨-, -, sign, powers, unsigned, written, laidOut, -, -⟩ := display_laidOut true nonzero
  rw [digits, power] at laidOut
  refine ⟨nonzero, by decide +kernel, power, sign.mpr rfl, powers.mpr ?_, unsigned, written,
    laidOut⟩
  rw [power]
  exact .inr (Int.le_refl _)

end Number

end MarkupTree
