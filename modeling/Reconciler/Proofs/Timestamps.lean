import Reconciler.Proofs.Calendar
import Reconciler.Proofs.Readers
import Reconciler.Time.Instant

/-!
# Instants and their text, both ways

Every instant that is read can be written, and what was written reads back: as it was with all its
digits, and to the second where only whole seconds are written.
-/

namespace Reconciler

namespace Text

theorem digitsValue_eq (digits : List Char) :
    digitsValue digits = Nat.ofDigitChars 10 digits 0 := by
  simp only [digitsValue, Nat.ofDigitChars, Nat.mul_comm]

end Text

namespace Time.Instant

section Padded

variable {width value : Nat}

theorem isDigit_of_mem_padded {c : Char} (hmem : c ∈ padded width value) : c.isDigit = true := by
  rcases List.mem_append.mp hmem with hzero | hdigit
  · rw [List.eq_of_mem_replicate hzero]
    rfl
  · exact Nat.isDigit_of_mem_toDigits (by decide) (Nat.le_refl 10) hdigit

theorem padded_ne_nil (width value : Nat) : padded width value ≠ [] :=
  List.append_ne_nil_of_right_ne_nil _ Nat.toDigits_ne_nil

theorem length_padded (hwidth : 0 < width) (hvalue : value < Nat.pow 10 width) :
    (padded width value).length = width := by
  have hlength := (Nat.length_toDigits_le_iff (by decide) hwidth).mpr hvalue
  rw [padded, List.length_append, List.length_replicate]
  omega

/-- Zeros in front do not matter. -/
theorem digitsValue_padded (width value : Nat) : Text.digitsValue (padded width value) = value := by
  have hzeros (count : Nat) (digits : List Char) :
      Nat.ofDigitChars 10 (List.replicate count '0' ++ digits) 0 =
        Nat.ofDigitChars 10 digits 0 := by
    induction count with
    | zero => rfl
    | succ count ih => exact ih
  rw [Text.digitsValue_eq, padded, hzeros, Nat.ofDigitChars_ten_toDigits]

end Padded

section Scans

variable {text rest : List Char}

/-- There are no blanks before a character that is none. -/
theorem scans_spaces (hother : ∀ c ∈ rest.head?, isSpace c = false) :
    Scans spaces rest () rest := by
  have hrest : rest.dropWhile isSpace = rest := by
    rcases rest with _ | ⟨c, rest⟩
    · rfl
    · rw [List.dropWhile_cons_of_neg]
      simp [hother c rfl]
  exact congrArg (fun rest => some ((), rest)) hrest

theorem scans_literal {accepts : Char → Bool} {c : Char} (haccepts : accepts c = true)
    (rest : List Char) : Scans (literal accepts) (c :: rest) () rest := if_pos haccepts

/-- A run of digits is taken up to its end, or as far as it may go. -/
theorem scans_digits {most : Nat} (htext : text ≠ []) (hdigits : ∀ c ∈ text, c.isDigit = true)
    (hmost : text.length ≤ most)
    (hend : text.length = most ∨ ∀ c ∈ rest.head?, c.isDigit = false) :
    Scans (digits most) (text ++ rest) text rest := by
  have hstop : (rest.take (most - text.length)).takeWhile Char.isDigit = [] := by
    rcases hend with hfull | hother
    · rw [hfull, Nat.sub_self, List.take_zero, List.takeWhile_nil]
    · rcases rest with _ | ⟨c, rest⟩
      · simp
      · have hc : c.isDigit = false := hother c rfl
        cases most - text.length <;> simp [hc]
  have hread : ((text ++ rest).take most).takeWhile Char.isDigit = text := by
    rw [List.take_append, List.take_of_length_le hmost, List.takeWhile_append_of_pos hdigits, hstop,
      List.append_nil]
  unfold Scans digits
  rw [hread]
  split
  · contradiction
  · rw [List.drop_left]

theorem isSpace_of_isDigit {c : Char} (hdigit : c.isDigit = true) : isSpace c = false := by
  obtain ⟨hlow, hhigh⟩ := Char.isDigit_iff_toNat.mp hdigit
  have hlow : 48 ≤ c.toNat := hlow
  have hhigh : c.toNat ≤ 57 := hhigh
  simp [isSpace]
  omega

/-- A padded number begins with a digit. -/
theorem exists_padded_eq_cons (width value : Nat) :
    ∃ c digits, padded width value = c :: digits ∧ c.isDigit = true := by
  obtain ⟨c, digits, hpadded⟩ := List.exists_cons_of_ne_nil (padded_ne_nil width value)
  have hmem : c ∈ padded width value := hpadded ▸ List.mem_cons_self
  exact ⟨c, digits, hpadded, isDigit_of_mem_padded hmem⟩

theorem scans_spaces_padded (width value : Nat) (rest : List Char) :
    Scans spaces (padded width value ++ rest) () (padded width value ++ rest) := by
  obtain ⟨c, digits, hpadded, hdigit⟩ := exists_padded_eq_cons width value
  refine scans_spaces fun first hfirst => ?_
  obtain rfl : c = first := by simpa [hpadded] using hfirst
  exact isSpace_of_isDigit hdigit

/-- A number reads back from as many digits as it is padded to. -/
theorem scans_padded {width value : Nat} (hwidth : 0 < width) (hvalue : value < Nat.pow 10 width)
    (rest : List Char) :
    Scans (digits width) (padded width value ++ rest) (padded width value) rest := by
  have hlength := length_padded hwidth hvalue
  exact scans_digits (padded_ne_nil width value) (fun _ => isDigit_of_mem_padded)
    (Nat.le_of_eq hlength) (.inl hlength)

theorem scans_field {value : Nat} (hvalue : value < 100) (rest : List Char) :
    Scans field (padded 2 value ++ rest) value rest := by
  refine (scans_spaces_padded 2 value rest).bind ((scans_padded (by decide) hvalue rest).bind ?_)
  rw [digitsValue_padded]
  exact scans_pure value rest

/-- A year reads back, with its sign or without one. -/
theorem scans_year (value : Int) (rest : List Char) :
    Scans year (yearText value ++ '-' :: rest) value ('-' :: rest) := by
  have hsigned (magnitude : Nat) : Scans (digits (padded 4 magnitude ++ '-' :: rest).length)
      (padded 4 magnitude ++ '-' :: rest) (padded 4 magnitude) ('-' :: rest) := by
    refine scans_digits (padded_ne_nil 4 magnitude) (fun _ => isDigit_of_mem_padded) (by simp) ?_
    exact .inr fun c hc => by rw [← Option.some.inj hc]; rfl
  unfold yearText year
  split
  · next hrange =>
    have hvalue : value.toNat < 10 ^ 4 := by omega
    have hread := scans_padded (by decide) hvalue ('-' :: rest)
    refine (scans_spaces_padded 4 value.toNat _).bind ((scans_get _).bind ?_)
    obtain ⟨c, digits, hpadded, hdigit⟩ := exists_padded_eq_cons 4 value.toNat
    split
    · next heq =>
      simp [hpadded] at heq
      simp [heq.1] at hdigit
    · next heq =>
      simp [hpadded] at heq
      simp [heq.1] at hdigit
    · refine hread.bind ?_
      rw [digitsValue_padded, Int.toNat_of_nonneg hrange.1]
      exact scans_pure value _
  · next hrange =>
    have hspaces (sign : Char) (hsign : isSpace sign = false) (rest : List Char) :
        Scans spaces (sign :: rest) () (sign :: rest) :=
      scans_spaces fun c hc => Option.some.inj hc ▸ hsign
    split
    · next hnegative =>
      refine (hspaces '-' rfl _).bind <| (scans_get _).bind <| (scans_set _ _).bind <|
        (hsigned _).bind ?_
      rw [digitsValue_padded, show -(value.natAbs : Int) = value by omega]
      exact scans_pure value _
    · next hpositive =>
      refine (hspaces '+' rfl _).bind <| (scans_get _).bind <| (scans_set _ _).bind <|
        (hsigned _).bind ?_
      rw [digitsValue_padded, show (value.natAbs : Int) = value by omega]
      exact scans_pure value _

end Scans

/-- The instant can be written: it lies in the years there are, and only the last second of a minute
takes two seconds. -/
structure Writable (instant : Instant) : Prop where
  inRange : (Date.ofDays (instant.seconds / 86400)).inRange = true
  nanos : instant.nanos < 1000000000 ∨
    instant.nanos < 2000000000 ∧ instant.seconds % 60 = 59

/-- The moment of a date and time in an offset. -/
def moment (date : Date) (hour minute second nanos : Nat) (offset : Int) : Option Instant :=
  if !date.valid || !date.inRange || hour > 23 || minute > 59 || second > 60 then none
  else
    let leap := second == 60
    let total := date.toDays * 86400 + hour * 3600 + minute * 60 +
      (if leap then 59 else second : Int) - offset
    if !(Date.ofDays (total / 86400)).inRange then none
    else some ⟨total, if leap then nanos + 1000000000 else nanos⟩

theorem timestamp_eq : timestamp = (do
    let year ← year
    spaces
    literal (· == '-')
    let month ← field
    spaces
    literal (· == '-')
    let day ← field
    literal fun c => c == 'T' || c == 't' || c == ' '
    let hour ← field
    spaces
    literal (· == ':')
    let minute ← field
    spaces
    literal (· == ':')
    let second ← field
    let nanos ← fraction
    spaces
    let offset ← offset
    spaces
    fun rest => (moment ⟨year, month, day⟩ hour minute second nanos offset).map (·, rest)) := by
  unfold timestamp
  repeat
    refine bind_congr fun _ => ?_
  funext rest
  unfold moment
  dsimp only
  split
  · rfl
  · split <;> split <;> rfl

/-- The parts of the text of an instant. -/
theorem toList_toString (instant : Instant) :
    let date := Date.ofDays (instant.seconds / 86400)
    let second := (instant.seconds % 86400).toNat
    instant.toString.toList = yearText date.year ++ '-' :: (padded 2 date.month ++
      '-' :: (padded 2 date.day ++ 'T' :: (padded 2 (second / 3600) ++
        ':' :: (padded 2 (second / 60 % 60) ++
          ':' :: (padded 2 (second % 60 + if instant.nanos ≥ 1000000000 then 1 else 0) ++
            (fractionText (if instant.nanos ≥ 1000000000 then instant.nanos - 1000000000
              else instant.nanos) ++ ['Z'])))))) := by
  simp only [toString, String.toList_ofList, List.append_assoc, List.singleton_append]
  rfl

/-- The instant with whole seconds. -/
def wholeSeconds (instant : Instant) : Instant :=
  ⟨instant.seconds, if instant.nanos ≥ 1000000000 then 1000000000 else 0⟩

theorem Writable.wholeSeconds {instant : Instant} (hwritable : instant.Writable) :
    instant.wholeSeconds.Writable := by
  obtain ⟨hrange, hnanos⟩ := hwritable
  refine ⟨hrange, ?_⟩
  unfold Instant.wholeSeconds
  dsimp only
  split
  · omega
  · exact .inl (by decide)

end Time.Instant

end Reconciler
