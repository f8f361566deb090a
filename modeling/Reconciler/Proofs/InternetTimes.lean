import Reconciler.Proofs.Timestamps

/-!
# Times as the Internet writes them

RFC 3339 has a grammar of its own for a date and a time in an offset.  It is narrower than what is
read as an instant: every time of this form is read, whatever its fraction and its offset.
-/

namespace Reconciler.Time

/-- The offset at the end of a time: a letter for none, or a sign with hours and minutes. -/
inductive Zone where
  | utc (letter : Char)
  | offset (sign : Char) (hours minutes : Nat)

/-- The parts of a time, each as it is written. -/
structure Stamp where
  year : Nat
  month : Nat
  day : Nat
  /-- The letter between date and time. -/
  letter : Char
  hour : Nat
  minute : Nat
  second : Nat
  /-- The digits of a fraction of the second. -/
  fraction : Option (List Char)
  zone : Zone

namespace Zone

open Instant

def text : Zone → List Char
  | utc letter => [letter]
  | offset sign hours minutes => sign :: (padded 2 hours ++ ':' :: padded 2 minutes)

def Valid : Zone → Prop
  | utc letter => letter = 'Z' ∨ letter = 'z'
  | offset sign hours minutes => (sign = '+' ∨ sign = '-') ∧ hours ≤ 23 ∧ minutes ≤ 59

end Zone

namespace Stamp

open Instant

def date (stamp : Stamp) : Date := ⟨stamp.year, stamp.month, stamp.day⟩

def fractionText (stamp : Stamp) : List Char := (stamp.fraction.map ('.' :: ·)).getD []

def text (stamp : Stamp) : List Char :=
  padded 4 stamp.year ++ '-' :: (padded 2 stamp.month ++ '-' :: (padded 2 stamp.day ++
    stamp.letter :: (padded 2 stamp.hour ++ ':' :: (padded 2 stamp.minute ++
      ':' :: (padded 2 stamp.second ++ (stamp.fractionText ++ stamp.zone.text))))))

/-- The parts are in the ranges that the grammar gives them, on a day that there is.  A minute may
have a second more than sixty. -/
structure Valid (stamp : Stamp) : Prop where
  year : stamp.year ≤ 9999
  date : stamp.date.valid = true
  letter : stamp.letter = 'T' ∨ stamp.letter = 't'
  hour : stamp.hour ≤ 23
  minute : stamp.minute ≤ 59
  second : stamp.second ≤ 60
  fraction : ∀ digits ∈ stamp.fraction, digits ≠ [] ∧ ∀ c ∈ digits, c.isDigit = true
  zone : stamp.zone.Valid

end Stamp

/-- The text is a time of RFC 3339. -/
def IsInternetTime (text : String) : Prop := ∃ stamp : Stamp, stamp.Valid ∧ text.toList = stamp.text

namespace Date

theorem monthLength_le (year : Int) (month : Nat) : monthLength year month ≤ 31 := by
  unfold monthLength
  repeat' split
  all_goals decide

/-- A day that there is has two digits in a month that has two. -/
theorem parts_of_valid {date : Date} (hvalid : date.valid = true) :
    date.month ≤ 12 ∧ 1 ≤ date.day ∧ date.day ≤ 31 := by
  simp only [valid, Bool.and_eq_true, decide_eq_true_iff] at hvalid
  obtain ⟨hlow, hhigh⟩ := hvalid
  refine ⟨?_, hlow, Nat.le_trans hhigh (monthLength_le ..)⟩
  unfold monthLength at hhigh
  split at hhigh <;> omega

/-- The days of four-digit years. -/
theorem toDays_bounds {date : Date} (hvalid : date.valid = true) (hlow : 0 ≤ date.year)
    (hhigh : date.year ≤ 9999) : -720000 ≤ date.toDays ∧ date.toDays ≤ 3000000 := by
  obtain ⟨-, hday⟩ := parts_of_valid hvalid
  unfold toDays
  dsimp only
  split <;> omega

theorem inRange_of_year {date : Date} (hlow : -400 ≤ date.year) (hhigh : date.year ≤ 14000) :
    date.inRange = true := by
  obtain ⟨year, month, day⟩ := date
  dsimp only at hlow hhigh
  simp [inRange]
  omega

theorem inRange_ofDays {days : Int} (hlow : -800000 ≤ days) (hhigh : days ≤ 4000000) :
    (ofDays days).inRange = true := by
  have hcycle : -1 ≤ (days + 719468) / 146097 ∧ (days + 719468) / 146097 ≤ 33 := by omega
  have hday : 0 ≤ (days + 719468) % 146097 ∧ (days + 719468) % 146097 < 146097 := by omega
  obtain ⟨hyearLow, hyearHigh, -, -⟩ := yearOfCycle_bounds hday.1 hday.2
  have hyear : -400 ≤ (ofDays days).year ∧ (ofDays days).year ≤ 14000 := by
    rw [ofDays_eq, ofMarch]
    dsimp only
    split <;> omega
  exact inRange_of_year hyear.1 hyear.2

end Date

namespace Instant

variable {rest : List Char}

/-- The text does not go on with a digit, a point or a blank. -/
def Ends (rest : List Char) : Prop :=
  ∀ c ∈ rest.head?, c.isDigit = false ∧ c ≠ '.' ∧ isSpace c = false

theorem Ends.isDigit (hends : Ends rest) : ∀ c ∈ rest.head?, c.isDigit = false :=
  fun c hc => (hends c hc).1

theorem scans_spaces_of_ends (hends : Ends rest) : Scans spaces rest () rest :=
  scans_spaces fun c hc => (hends c hc).2.2

/-- As many digits as the fraction has, its first nine count. -/
theorem exists_scans_fraction {digits : Option (List Char)}
    (hdigits : ∀ read ∈ digits, read ≠ [] ∧ ∀ c ∈ read, c.isDigit = true) (hends : Ends rest) :
    ∃ nanos, Scans fraction ((digits.map ('.' :: ·)).getD [] ++ rest) nanos rest := by
  rcases digits with _ | digits
  · refine ⟨0, ?_⟩
    unfold fraction
    refine (scans_get _).bind ?_
    split
    · next heq =>
      have hpoint : rest = '.' :: _ := heq
      exact absurd rfl (hends '.' (by rw [hpoint]; rfl)).2.1
    · exact scans_pure 0 _
  · obtain ⟨hne, hall⟩ := hdigits digits rfl
    have hread : Scans (Instant.digits 9) (digits.take 9 ++ (digits.drop 9 ++ rest))
        (digits.take 9) (digits.drop 9 ++ rest) := by
      refine scans_digits (by simpa using hne) (fun c hc => hall c (List.mem_of_mem_take hc))
        (List.length_take_le ..) ?_
      by_cases hlong : 9 ≤ digits.length
      · exact .inl (by rw [List.length_take, Nat.min_eq_left hlong])
      · rw [List.drop_eq_nil_of_le (by omega), List.nil_append]
        exact .inr hends.isDigit
    have hdropped : (digits.drop 9 ++ rest).dropWhile Char.isDigit = rest := by
      rw [List.dropWhile_append_of_pos fun c hc => hall c (List.mem_of_mem_drop hc)]
      rcases rest with _ | ⟨c, rest⟩
      · rfl
      · rw [List.dropWhile_cons_of_neg]
        simp [hends.isDigit c rfl]
    have hmodify : Scans (modify (·.dropWhile Char.isDigit)) (digits.drop 9 ++ rest) () rest :=
      congrArg (fun rest => some ((), rest)) hdropped
    rw [← List.append_assoc, List.take_append_drop] at hread
    exact ⟨_, (scans_get _).bind <| (scans_set _ _).bind <| hread.bind <| hmodify.bind <|
      scans_pure _ _⟩

theorem scans_twoDigits {value : Nat} (hvalue : value < 100) (rest : List Char) :
    Scans twoDigits (padded 2 value ++ rest) value rest := by
  refine (scans_padded (by decide) hvalue rest).bind ?_
  rw [if_pos (length_padded (by decide) hvalue), digitsValue_padded]
  exact scans_pure value rest

/-- A text that does not begin like it is not `UTC`. -/
theorem toUpper_ne_utc {sign : Char} (hsign : sign.toUpper ≠ 'U') (rest : List Char) :
    (String.ofList ((sign :: rest).take 3)).toUpper ≠ "UTC" := by
  intro hsame
  have hchars := congrArg String.toList hsame
  rw [String.toUpper, String.toList_map, String.toList_ofList] at hchars
  exact hsign (List.cons.inj hchars).1

/-- Any offset is read, and it is less than a day. -/
theorem exists_scans_offset {zone : Zone} (hvalid : zone.Valid) :
    ∃ seconds, Scans offset zone.text seconds [] ∧ -86400 < seconds ∧ seconds < 86400 := by
  cases zone with
  | utc letter =>
      obtain rfl | rfl := hvalid
      · exact ⟨0, rfl, by decide, by decide⟩
      · exact ⟨0, rfl, by decide, by decide⟩
  | offset sign hours minutes =>
      obtain ⟨hsign, hhours, hminutes⟩ := hvalid
      have hcolon : Scans (modify (·.dropWhile fun c => c == ':' || isSpace c) : Scanner Unit)
          (':' :: padded 2 minutes) () (padded 2 minutes) := by
        obtain ⟨c, digits, hpadded, hdigit⟩ := exists_padded_eq_cons 2 minutes
        have hspace := isSpace_of_isDigit hdigit
        have hother : (c == ':') = false := by
          refine beq_false_of_ne ?_
          rintro rfl
          exact absurd hdigit (by decide)
        refine congrArg (fun rest => some ((), rest)) ?_
        simp [hpadded, hother, hspace]
      have hlast : Scans twoDigits (padded 2 minutes) minutes [] := by
        simpa using scans_twoDigits (by omega : minutes < 100) []
      -- Whatever the sign stands for, what follows it is the same.
      have hseconds (negative : Bool) : Scans (do
          set (padded 2 hours ++ ':' :: padded 2 minutes)
          let hours ← twoDigits
          modify (·.dropWhile fun c => c == ':' || isSpace c)
          let minutes ← twoDigits
          if minutes > 59 ∨ hours > 23 then failure
          let seconds : Int := hours * 3600 + minutes * 60
          return if negative then -seconds else seconds : Scanner Int)
          (sign :: (padded 2 hours ++ ':' :: padded 2 minutes))
          (if negative then -(hours * 3600 + minutes * 60 : Int) else hours * 3600 + minutes * 60)
          [] := by
        refine (scans_set _ _).bind <| (scans_twoDigits (by omega) _).bind <| hcolon.bind <|
          hlast.bind ?_
        rw [if_neg (by omega)]
        exact scans_pure _ _
      have hletters : sign ≠ 'Z' ∧ sign ≠ 'z' ∧ sign.toUpper ≠ 'U' := by
        obtain rfl | rfl := hsign <;> decide
      have hoffset : Scans offset (sign :: (padded 2 hours ++ ':' :: padded 2 minutes))
          (if sign = '+' then hours * 3600 + minutes * 60 else -(hours * 3600 + minutes * 60)) []
          := by
        unfold offset
        refine (scans_get _).bind ?_
        split
        · next heq => exact absurd (List.cons.inj heq).1 hletters.1
        · next heq => exact absurd (List.cons.inj heq).1 hletters.2.1
        · next heq =>
          obtain ⟨rfl, rfl⟩ := List.cons.inj heq
          dsimp only
          rw [if_neg (toUpper_ne_utc hletters.2.2 _)]
          obtain rfl | rfl := hsign
          · rw [if_pos rfl]
            exact (scans_pure false _).bind (hseconds false)
          · rw [if_neg (by decide), if_pos (.inl rfl)]
            exact (scans_pure true _).bind (hseconds true)
        · contradiction
      exact ⟨_, hoffset, by split <;> omega⟩

theorem ends_zone {zone : Zone} (hvalid : zone.Valid) : Ends zone.text := by
  intro c hc
  cases zone with
  | utc letter =>
      obtain rfl : letter = c := Option.some.inj hc
      obtain rfl | rfl := hvalid <;> decide
  | offset sign hours minutes =>
      obtain rfl : sign = c := Option.some.inj hc
      obtain rfl | rfl := hvalid.1 <;> decide

/-- The moment of a valid time is one that there is. -/
theorem exists_moment {stamp : Stamp} (hvalid : stamp.Valid) (nanos : Nat) {offset : Int}
    (hlow : -86400 < offset) (hhigh : offset < 86400) :
    ∃ instant, moment stamp.date stamp.hour stamp.minute stamp.second nanos offset =
      some instant := by
  obtain ⟨hyear, hdate, -, hhour, hminute, hsecond, -, -⟩ := hvalid
  have hyearLow : 0 ≤ stamp.date.year := Int.natCast_nonneg _
  have hyearHigh : stamp.date.year ≤ 9999 := Int.ofNat_le.mpr hyear
  have hrange : stamp.date.inRange = true := Date.inRange_of_year (by omega) (by omega)
  obtain ⟨hdaysLow, hdaysHigh⟩ := Date.toDays_bounds hdate hyearLow hyearHigh
  have hinside : ¬(!stamp.date.valid || !stamp.date.inRange || decide (stamp.hour > 23) ||
      decide (stamp.minute > 59) || decide (stamp.second > 60)) = true := by
    simp [hdate, hrange, hhour, hminute, hsecond]
  have hlast (leap : Bool) : 0 ≤ (if leap then 59 else stamp.second : Int) ∧
      (if leap then 59 else stamp.second : Int) ≤ 60 := by
    split <;> omega
  obtain ⟨hlastLow, hlastHigh⟩ := hlast (stamp.second == 60)
  unfold moment
  rw [if_neg hinside]
  dsimp only
  rw [Date.inRange_ofDays (by omega) (by omega)]
  exact ⟨_, rfl⟩

/-- Every time of the grammar is read. -/
theorem exists_ofString?_of_isInternetTime {text : String} (htime : IsInternetTime text) :
    ∃ instant, ofString? text = some instant := by
  obtain ⟨stamp, hvalid, htext⟩ := htime
  have hspaces (mark : Char) (hmark : isSpace mark = false) (rest : List Char) :
      Scans spaces (mark :: rest) () (mark :: rest) :=
    scans_spaces fun c hc => Option.some.inj hc ▸ hmark
  have hyear : padded 4 stamp.year = yearText stamp.year := by
    have hyear := hvalid.year
    rw [yearText, if_pos (by omega), Int.toNat_natCast]
  obtain ⟨hmonth, -, hday⟩ := Date.parts_of_valid hvalid.date
  have hletter : (fun c => c == 'T' || c == 't' || c == ' ') stamp.letter = true := by
    rcases hvalid.letter with hletter | hletter <;> rw [hletter] <;> rfl
  have hhour := hvalid.hour
  have hminute := hvalid.minute
  have hsecond := hvalid.second
  obtain ⟨nanos, hfraction⟩ := exists_scans_fraction hvalid.fraction (ends_zone hvalid.zone)
  obtain ⟨offset, hoffset, hlow, hhigh⟩ := exists_scans_offset hvalid.zone
  obtain ⟨instant, hmoment⟩ := exists_moment hvalid nanos hlow hhigh
  have hscans : Scans timestamp text.toList instant [] := by
    rw [timestamp_eq, htext, Stamp.text, hyear]
    refine (scans_year _ _).bind <| (hspaces '-' rfl _).bind <| (scans_literal rfl _).bind <|
      (scans_field (Nat.lt_of_le_of_lt hmonth (by decide)) _).bind <| (hspaces '-' rfl _).bind <|
      (scans_literal rfl _).bind <| (scans_field (Nat.lt_of_le_of_lt hday (by decide)) _).bind <|
      (scans_literal hletter _).bind <| (scans_field (by omega) _).bind <|
      (hspaces ':' rfl _).bind <| (scans_literal rfl _).bind <| (scans_field (by omega) _).bind <|
      (hspaces ':' rfl _).bind <| (scans_literal rfl _).bind <|
      (scans_field (by omega) _).bind <| hfraction.bind <|
      (scans_spaces_of_ends (ends_zone hvalid.zone)).bind <| hoffset.bind <|
      (scans_spaces (by simp)).bind ?_
    exact congrArg (Option.map (·, [])) hmoment
  have hrun : timestamp.run text.toList = some (instant, []) := hscans
  exact ⟨instant, by rw [ofString?, hrun]⟩

/-- The year that an instant falls into has four digits. -/
def HasPlainYear (instant : Instant) : Prop :=
  0 ≤ (Date.ofDays (instant.seconds / 86400)).year ∧
    (Date.ofDays (instant.seconds / 86400)).year ≤ 9999

/-- A fraction that is written has digits. -/
theorem exists_fractionText_eq (nanos : Nat) : ∃ digits : Option (List Char),
    fractionText nanos = (digits.map ('.' :: ·)).getD [] ∧
      ∀ read ∈ digits, read ≠ [] ∧ ∀ c ∈ read, c.isDigit = true := by
  have hpadded (width value : Nat) : ∀ read ∈ some (padded width value),
      read ≠ [] ∧ ∀ c ∈ read, c.isDigit = true := by
    rintro _ ⟨⟩
    exact ⟨padded_ne_nil width value, fun _ => isDigit_of_mem_padded⟩
  unfold fractionText
  split
  · exact ⟨none, rfl, nofun⟩
  · split
    · exact ⟨some _, rfl, hpadded 3 _⟩
    · split
      · exact ⟨some _, rfl, hpadded 6 _⟩
      · exact ⟨some _, rfl, hpadded 9 _⟩

/-- An instant of a year with four digits is written as the grammar has it. -/
theorem isInternetTime_toString {instant : Instant} (hyear : instant.HasPlainYear) :
    IsInternetTime instant.toString := by
  have htext := toList_toString instant
  have hvalid := Date.valid_ofDays (instant.seconds / 86400)
  unfold HasPlainYear at hyear
  generalize Date.ofDays (instant.seconds / 86400) = date at hyear htext hvalid
  dsimp only at htext
  obtain ⟨fraction, hfraction, hdigits⟩ := exists_fractionText_eq
    (if instant.nanos ≥ 1000000000 then instant.nanos - 1000000000 else instant.nanos)
  have hdate : (⟨(date.year.toNat : Int), date.month, date.day⟩ : Date) = date := by
    rw [Int.toNat_of_nonneg hyear.1]
  rw [hfraction, yearText, if_pos hyear] at htext
  refine ⟨⟨date.year.toNat, date.month, date.day, 'T', _, _, _, fraction, .utc 'Z'⟩, ?_, htext⟩
  refine ⟨?_, ?_, .inl rfl, ?_, ?_, ?_, hdigits, .inl rfl⟩
  · dsimp only
    omega
  · rw [Stamp.date, hdate]
    exact hvalid
  · dsimp only
    omega
  · dsimp only
    omega
  · dsimp only
    split <;> omega

end Instant

end Reconciler.Time
