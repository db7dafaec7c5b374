import RecordSchema.Proofs.Calendar.Written

set_option autoImplicit false

/-!
What the readers of timestamps give: only timestamps that their text gives back. A reader either
reads no fraction of a second, or a year of four digits with it.
-/

namespace RecordSchema.Calendar

open RecordSchema.Text RecordSchema.Number RecordSchema.Scalar

/-- Setting a number leaves the other fields as they are; of them the year, the nanosecond and the
offset are followed here. -/
theorem setNumber_frame {field : NumericField} {f f' : Fields} {value : Int}
    (set : setNumber field f value = .ok f') :
    (field ≠ .year → f'.year = f.year) ∧ (field ≠ .nanosecond → f'.nanosecond = f.nanosecond) ∧
      f'.offset = f.offset := by
  cases field with
  | century =>
    simp only [setNumber] at set
    split at set
    next => cases set
    next =>
      obtain ⟨_, _, rest⟩ := (bind_eq_ok_iff ..).mp set
      obtain ⟨_, _, rest⟩ := (bind_eq_ok_iff ..).mp rest
      cases rest
      simp
  | weekdayFromSunday | weekdayFromMonday =>
    obtain ⟨_, _, rest⟩ := (bind_eq_ok_iff ..).mp set
    obtain ⟨_, _, rest⟩ := (bind_eq_ok_iff ..).mp rest
    cases rest
    simp
  | secondsSinceEpoch =>
    obtain ⟨_, _, rest⟩ := (bind_eq_ok_iff ..).mp set
    cases rest
    simp
  | hour =>
    obtain ⟨_, _, rest⟩ := (bind_eq_ok_iff ..).mp set
    obtain ⟨_, _, rest⟩ := (bind_eq_ok_iff ..).mp rest
    obtain ⟨_, _, rest⟩ := (bind_eq_ok_iff ..).mp rest
    cases rest
    simp
  | year | yearOfCentury | isoYear | isoYearOfCentury | quarter | month | day | weekFromSunday
  | weekFromMonday | isoWeek | ordinal | hour12 | minute | second | nanosecond =>
    obtain ⟨_, _, rest⟩ := (bind_eq_ok_iff ..).mp set
    obtain ⟨_, _, rest⟩ := (bind_eq_ok_iff ..).mp rest
    cases rest
    simp

theorem settle_eq_some {α : Type} [DecidableEq α] {old settled : Option α} {new : α}
    (agreed : settle old new = .ok settled) : settled = some new := by
  unfold settle at agreed
  split at agreed
  next =>
    split at agreed
    next same =>
      cases agreed
      rw [same]
    next => cases agreed
  next =>
    cases agreed
    rfl

theorem checkInt32_eq {value checked : Int} (accepted : checkInt32 value = .ok checked) :
    checked = value := by
  unfold checkInt32 at accepted
  split at accepted
  next =>
    cases accepted
    rfl
  next => cases accepted

theorem setYear_frame {f f' : Fields} {year : Int} (set : f.setYear year = .ok f') :
    f'.year = some year ∧ f'.nanosecond = f.nanosecond ∧ f'.offset = f.offset := by
  obtain ⟨value, accepted, rest⟩ := (bind_eq_ok_iff ..).mp set
  obtain ⟨settled, agreed, rest⟩ := (bind_eq_ok_iff ..).mp rest
  cases rest
  cases checkInt32_eq accepted
  exact ⟨settle_eq_some agreed, rfl, rfl⟩

theorem setOffset_frame {f f' : Fields} {offset : Int} (set : f.setOffset offset = .ok f') :
    f'.year = f.year ∧ f'.nanosecond = f.nanosecond ∧ f'.offset = some offset := by
  obtain ⟨value, accepted, rest⟩ := (bind_eq_ok_iff ..).mp set
  obtain ⟨settled, agreed, rest⟩ := (bind_eq_ok_iff ..).mp rest
  cases rest
  cases checkInt32_eq accepted
  exact ⟨rfl, rfl, settle_eq_some agreed⟩

theorem setWeekday_frame {f f' : Fields} {weekday : Weekday} (set : f.setWeekday weekday = .ok f') :
    f'.nanosecond = f.nanosecond ∧ f'.offset = f.offset := by
  obtain ⟨_, _, rest⟩ := (bind_eq_ok_iff ..).mp set
  cases rest
  exact ⟨rfl, rfl⟩

theorem setHalfDay_frame {f f' : Fields} {afternoon : Bool} (set : f.setHalfDay afternoon = .ok f') :
    f'.nanosecond = f.nanosecond ∧ f'.offset = f.offset := by
  obtain ⟨_, _, rest⟩ := (bind_eq_ok_iff ..).mp set
  cases rest
  exact ⟨rfl, rfl⟩

theorem setFrom_eq_some_iff {α : Type} {scanned : Scanned α} {set : α → Settled Fields} {f : Fields}
    {rest : List Char} :
    setFrom scanned set = some (f, rest) ↔
      ∃ value, scanned = some (value, rest) ∧ set value = .ok f := by
  cases scanned with
  | none => simp [setFrom]
  | some read =>
    obtain ⟨value, left⟩ := read
    simp only [setFrom, Option.map_eq_some_iff, toOption_eq_some_iff, Prod.mk.injEq,
      Option.some.injEq]
    constructor
    · rintro ⟨_, accepted, rfl, rfl⟩
      exact ⟨value, ⟨rfl, rfl⟩, accepted⟩
    · rintro ⟨_, ⟨rfl, rfl⟩, accepted⟩
      exact ⟨f, accepted, rfl, rfl⟩

theorem Scan.minutes_of_offset {rules : OffsetRules} {cs rest : List Char} {seconds : Int}
    (scanned : offset rules cs = some (seconds, rest)) : seconds % 60 = 0 := by
  unfold offset at scanned
  split at scanned
  next =>
    cases scanned
    rfl
  next =>
    -- What is done after the sign is the same for each of the signs.
    extract_lets unsigned at scanned
    have whole (state) (read : unsigned state = some (seconds, rest)) : seconds % 60 = 0 := by
      obtain ⟨⟨hours, afterHours⟩, _, read⟩ := Option.bind_eq_some_iff.mp read
      obtain ⟨atMinutes, _, read⟩ := Option.bind_eq_some_iff.mp read
      obtain ⟨minutes, signed⟩ : ∃ minutes : Int, seconds =
          if state.1 then -(hours * 3600 + minutes * 60) else hours * 3600 + minutes * 60 := by
        dsimp only at read
        split at read
        next =>
          split at read
          next =>
            cases read
            exact ⟨_, rfl⟩
          next => cases read
        next =>
          split at read
          next =>
            cases read
            exact ⟨_, rfl⟩
          next => cases read
        next => cases read
      omega
    clear_value unsigned
    split at scanned
    next => exact whole _ scanned
    next => exact whole _ scanned
    next =>
      split at scanned
      next => exact whole _ scanned
      next => cases scanned
    next => cases scanned

theorem minutes_of_namedOffset {cs rest : List Char} {seconds : Int}
    (scanned : namedOffset cs = some (seconds, rest)) : seconds % 60 = 0 := by
  simp only [namedOffset] at scanned
  split at scanned
  next => exact Scan.minutes_of_offset scanned
  next =>
    split at scanned
    next hours found =>
      cases scanned
      omega
    next =>
      split at scanned
      next =>
        cases scanned
        rfl
      next => cases scanned

/-- A year of exactly four digits is one that RFC 3339 has a text for. -/
theorem Scan.number_four {cs rest : List Char} {value : Int}
    (scanned : number cs 4 4 = some (value, rest)) : 0 ≤ value ∧ value ≤ 9999 := by
  simp only [number] at scanned
  split at scanned
  next => cases scanned
  next =>
    obtain ⟨digits, shape⟩ : ∃ digits, (cs.take 4).takeWhile Char.isDigit = digits := ⟨_, rfl⟩
    have bounded := digitsValue_lt fun c (member : c ∈ (cs.take 4).takeWhile Char.isDigit) =>
      List.mem_takeWhile_imp member
    have short : ((cs.take 4).takeWhile Char.isDigit).length ≤ 4 :=
      (List.takeWhile_prefix _).length_le.trans (List.length_take_le 4 cs)
    have limit := Nat.pow_le_pow_right (by decide : 0 < 10) short
    cases scanned
    omega

namespace Fields

/-- Whatever offset is set is one of whole minutes. -/
def WholeMinutes (f : Fields) : Prop := ∀ offset ∈ f.offset, offset % 60 = 0

/-- What is read without a fraction of a second. -/
structure Coarse (f : Fields) : Prop where
  nanosecond : f.nanosecond = none
  minutes : f.WholeMinutes

variable {f f' : Fields}

theorem coarse_empty : ({} : Fields).Coarse := ⟨rfl, nofun⟩

theorem wholeMinutes_of_setOffset {offset : Int} (minutes : offset % 60 = 0)
    (set : f.setOffset offset = .ok f') : f'.WholeMinutes := by
  intro other member
  rw [(setOffset_frame set).2.2] at member
  cases member
  exact minutes

namespace Coarse

theorem of_same (coarse : f.Coarse)
    (same : f'.nanosecond = f.nanosecond ∧ f'.offset = f.offset) : f'.Coarse := by
  refine ⟨same.1.trans coarse.nanosecond, ?_⟩
  rw [WholeMinutes, same.2]
  exact coarse.minutes

theorem setNumber (coarse : f.Coarse) {field : NumericField} (other : field ≠ .nanosecond)
    {value : Int} (set : setNumber field f value = .ok f') : f'.Coarse :=
  coarse.of_same ⟨(setNumber_frame set).2.1 other, (setNumber_frame set).2.2⟩

theorem setOffset (coarse : f.Coarse) {offset : Int} (minutes : offset % 60 = 0)
    (set : f.setOffset offset = .ok f') : f'.Coarse :=
  ⟨(setOffset_frame set).2.1.trans coarse.nanosecond, wholeMinutes_of_setOffset minutes set⟩

/-- A number is read into its field. -/
theorem setFrom (coarse : f.Coarse) (field : NumericField) (other : field ≠ .nanosecond)
    {scanned : Scanned Int} {rest : List Char}
    (read : setFrom scanned (Calendar.setNumber field f) = some (f', rest)) : f'.Coarse := by
  obtain ⟨_, _, set⟩ := setFrom_eq_some_iff.mp read
  exact coarse.setNumber other set

end Coarse

end Fields

/-! Templates without fractions of a second. -/

def Item.IsCoarse : Item → Prop
  | .number .nanosecond | .fraction | .fractionOf _ | .bareFraction _ | .timestamp => False
  | _ => True

theorem Fields.Coarse.readItem {f f' : Fields} (coarse : f.Coarse) {item : Item}
    (plain : item.IsCoarse) {cs rest : List Char}
    (read : readItem item f cs = some (f', rest)) : f'.Coarse := by
  cases item with
  | literal c =>
    obtain ⟨_, _, same⟩ := Option.map_eq_some_iff.mp read
    cases same
    exact coarse
  | blanks | zoneName =>
    cases read
    exact coarse
  | number field =>
    refine coarse.setFrom field ?_ read
    rintro rfl
    exact plain
  | monthName long => exact coarse.setFrom .month nofun read
  | weekdayName long =>
    obtain ⟨_, _, set⟩ := setFrom_eq_some_iff.mp read
    exact coarse.of_same (setWeekday_frame set)
  | halfDay =>
    simp only [Calendar.readItem, readSimpleItem] at read
    split at read
    next =>
      obtain ⟨_, _, set⟩ := setFrom_eq_some_iff.mp read
      exact coarse.of_same (setHalfDay_frame set)
    next =>
      obtain ⟨_, _, set⟩ := setFrom_eq_some_iff.mp read
      exact coarse.of_same (setHalfDay_frame set)
    next => cases read
  | offset | looseOffset =>
    obtain ⟨_, scanned, set⟩ := setFrom_eq_some_iff.mp read
    exact coarse.setOffset (Scan.minutes_of_offset scanned) set
  | fraction | fractionOf | bareFraction | timestamp => cases plain

theorem Fields.Coarse.readFrom {template : Template}
    (plain : ∀ item ∈ template, item.IsCoarse) {f f' : Fields} (coarse : f.Coarse)
    {cs rest : List Char} (read : template.readFrom f cs = some (f', rest)) : f'.Coarse := by
  induction template generalizing f cs with
  | nil =>
    cases read
    exact coarse
  | cons item template ih =>
    rw [Template.readFrom_cons, Option.bind_eq_some_iff] at read
    obtain ⟨⟨g, left⟩, first, others⟩ := read
    exact ih (fun item member => plain item (List.mem_cons_of_mem _ member))
      (coarse.readItem (plain item List.mem_cons_self) first) others

theorem Template.coarse_of_fields? {template : Template} (plain : ∀ item ∈ template, item.IsCoarse)
    {cs : List Char} {f : Fields} (read : template.fields? cs = some f) : f.Coarse :=
  Fields.coarse_empty.readFrom plain ((template.fields?_eq_some_iff cs f).mp read)

/-! The fields of RFC 3339 and RFC 2822. -/

theorem year_setFrom {field : NumericField} (other : field ≠ .year) {scanned : Scanned Int}
    {f f' : Fields} {rest : List Char}
    (read : setFrom scanned (setNumber field f) = some (f', rest)) : f'.year = f.year := by
  obtain ⟨_, _, set⟩ := setFrom_eq_some_iff.mp read
  exact (setNumber_frame set).1 other

theorem year_readFraction {scan : List Char → Scanned Int} {f f' : Fields} {cs rest : List Char}
    (read : readFraction scan f cs = some (f', rest)) : f'.year = f.year := by
  unfold readFraction at read
  split at read
  next => exact @year_setFrom .nanosecond nofun _ _ _ _ read
  next =>
    cases read
    rfl

theorem rfc3339Fields?_plain {cs : List Char} {f : Fields} (fields : rfc3339Fields? cs = some f) :
    (∃ year, f.year = some year ∧ 0 ≤ year ∧ year ≤ 9999) ∧ f.WholeMinutes := by
  unfold rfc3339Fields? at fields
  obtain ⟨⟨withYear, rest⟩, year, fields⟩ := Option.bind_eq_some_iff.mp fields
  obtain ⟨rest, _, fields⟩ := Option.bind_eq_some_iff.mp fields
  obtain ⟨⟨withMonth, rest⟩, month, fields⟩ := Option.bind_eq_some_iff.mp fields
  obtain ⟨rest, _, fields⟩ := Option.bind_eq_some_iff.mp fields
  obtain ⟨⟨withDay, rest⟩, day, fields⟩ := Option.bind_eq_some_iff.mp fields
  obtain ⟨⟨mark, rest⟩, _, fields⟩ := Option.bind_eq_some_iff.mp fields
  dsimp only at fields
  split at fields
  next => cases fields
  next =>
    obtain ⟨⟨withHour, rest⟩, hour, fields⟩ := Option.bind_eq_some_iff.mp fields
    obtain ⟨rest, _, fields⟩ := Option.bind_eq_some_iff.mp fields
    obtain ⟨⟨withMinute, rest⟩, minute, fields⟩ := Option.bind_eq_some_iff.mp fields
    obtain ⟨rest, _, fields⟩ := Option.bind_eq_some_iff.mp fields
    obtain ⟨⟨withSecond, rest⟩, second, fields⟩ := Option.bind_eq_some_iff.mp fields
    obtain ⟨⟨withFraction, rest⟩, fraction, fields⟩ := Option.bind_eq_some_iff.mp fields
    obtain ⟨⟨offset, rest⟩, scanned, fields⟩ := Option.bind_eq_some_iff.mp fields
    dsimp only at fields
    split at fields
    next => cases fields
    next =>
      rw [toOption_eq_some_iff] at fields
      obtain ⟨value, number, set⟩ := setFrom_eq_some_iff.mp year
      have same : f.year = some value := calc
        f.year = withFraction.year := (setOffset_frame fields).1
        _ = withSecond.year := year_readFraction fraction
        _ = withMinute.year := @year_setFrom .second nofun _ _ _ _ second
        _ = withHour.year := @year_setFrom .minute nofun _ _ _ _ minute
        _ = withDay.year := @year_setFrom .hour nofun _ _ _ _ hour
        _ = withMonth.year := @year_setFrom .day nofun _ _ _ _ day
        _ = withYear.year := @year_setFrom .month nofun _ _ _ _ month
        _ = some value := (setYear_frame set).1
      exact ⟨⟨value, same, Scan.number_four number⟩,
        Fields.wholeMinutes_of_setOffset (Scan.minutes_of_offset scanned) fields⟩

theorem rfc2822Fields?_coarse {cs : List Char} {f : Fields}
    (fields : rfc2822Fields? cs = some f) : f.Coarse := by
  unfold rfc2822Fields? at fields
  -- The seconds may be missing, and so may the weekday: what is read after them is the same.
  extract_lets start zone clock at fields
  have coarse_zone (state : Fields × List Char) (coarse : state.1.Coarse)
      (read : zone state = some f) : f.Coarse := by
    obtain ⟨rest, _, read⟩ := Option.bind_eq_some_iff.mp read
    obtain ⟨⟨withOffset, rest⟩, offset, read⟩ := Option.bind_eq_some_iff.mp read
    dsimp only at read
    split at read
    next => cases read
    next =>
      cases read
      obtain ⟨_, scanned, set⟩ := setFrom_eq_some_iff.mp offset
      exact coarse.setOffset (minutes_of_namedOffset scanned) set
  have coarse_clock (state : Fields × List Char) (coarse : state.1.Coarse)
      (read : clock state = some f) : f.Coarse := by
    obtain ⟨⟨withDay, rest⟩, day, read⟩ := Option.bind_eq_some_iff.mp read
    obtain ⟨rest, _, read⟩ := Option.bind_eq_some_iff.mp read
    obtain ⟨⟨withMonth, rest⟩, month, read⟩ := Option.bind_eq_some_iff.mp read
    obtain ⟨rest, _, read⟩ := Option.bind_eq_some_iff.mp read
    obtain ⟨⟨_, _⟩, _, read⟩ := Option.bind_eq_some_iff.mp read
    obtain ⟨withYear, year, read⟩ := Option.bind_eq_some_iff.mp read
    obtain ⟨rest, _, read⟩ := Option.bind_eq_some_iff.mp read
    obtain ⟨⟨withHour, rest⟩, hour, read⟩ := Option.bind_eq_some_iff.mp read
    obtain ⟨rest, _, read⟩ := Option.bind_eq_some_iff.mp read
    obtain ⟨⟨withMinute, rest⟩, minute, read⟩ := Option.bind_eq_some_iff.mp read
    have toMonth := (coarse.setFrom .day nofun day).setFrom .month nofun month
    have toYear : withYear.Coarse :=
      toMonth.of_same (setYear_frame ((toOption_eq_some_iff ..).mp year)).2
    have toMinute := (toYear.setFrom .hour nofun hour).setFrom .minute nofun minute
    dsimp only at read
    split at read
    next =>
      obtain ⟨withSecond, second, read⟩ := Option.bind_eq_some_iff.mp read
      exact coarse_zone withSecond (toMinute.setFrom .second nofun second) read
    next => exact coarse_zone (withMinute, _) toMinute read
  split at fields
  next =>
    obtain ⟨rest, _, fields⟩ := Option.bind_eq_some_iff.mp fields
    obtain ⟨withWeekday, weekday, fields⟩ := Option.bind_eq_some_iff.mp fields
    obtain ⟨_, _, set⟩ := setFrom_eq_some_iff.mp weekday
    exact coarse_clock withWeekday (Fields.coarse_empty.of_same (setWeekday_frame set)) fields
  next => exact coarse_clock ({}, start) Fields.coarse_empty fields

namespace Timestamp

theorem Readable.of_fields? {f : Fields} {t : Timestamp} (minutes : f.WholeMinutes)
    (plain : (∃ year, f.year = some year ∧ 0 ≤ year ∧ year ≤ 9999) ∨ f.nanosecond = none)
    (computed : f.timestamp.toOption = some t) : t.Readable := by
  obtain ⟨offset, date, time, offset_set, dated, timed, made⟩ :=
    Fields.timestamp_eq_ok_iff.mp ((toOption_eq_some_iff ..).mp computed)
  obtain ⟨rfl, rfl, rfl⟩ := eq_of_ofLocal? made
  refine ⟨made, minutes _ offset_set, ?_⟩
  rcases plain with ⟨year, year_set, range⟩ | unset
  · left
    rwa [Fields.year_of_date dated year_set]
  · exact .inr (Fields.fraction_of_time timed unset)

theorem readable_ofUtc (date : Date) {time : TimeOfDay} (whole : time.fraction = 0) :
    (ofUtc date time).Readable :=
  ⟨ofLocal?_ofUtc date time, rfl, .inr whole⟩

end Timestamp

theorem readable_of_template {template : Template} (plain : ∀ item ∈ template, item.IsCoarse)
    {cs : List Char} {t : Timestamp} (read : template.timestamp? cs = some t) : t.Readable := by
  obtain ⟨f, fields, computed⟩ := Option.bind_eq_some_iff.mp read
  have coarse := Template.coarse_of_fields? plain fields
  exact .of_fields? coarse.minutes (.inr coarse.nanosecond) computed

theorem readable_of_utcTemplate {template : Template} (plain : ∀ item ∈ template, item.IsCoarse)
    {cs : List Char} {t : Timestamp} (read : template.utcTimestamp? cs = some t) : t.Readable := by
  obtain ⟨f, fields, computed⟩ := Option.bind_eq_some_iff.mp read
  obtain ⟨date, _, computed⟩ := Option.bind_eq_some_iff.mp computed
  obtain ⟨time, timed, rfl⟩ := Option.map_eq_some_iff.mp computed
  have coarse := Template.coarse_of_fields? plain fields
  exact Timestamp.readable_ofUtc date
    (Fields.fraction_of_time ((toOption_eq_some_iff ..).mp timed) coarse.nanosecond)

theorem coarse_zonedTemplates :
    ∀ template ∈ zonedTemplates, ∀ item ∈ template, item.IsCoarse := by
  simp [zonedTemplates, hyphenDate, Template.clock, Item.IsCoarse]

theorem coarse_zonelessTemplates :
    ∀ template ∈ zonelessTemplates, ∀ item ∈ template, item.IsCoarse := by
  simp [zonelessTemplates, hyphenDate, Template.clock, Item.IsCoarse]

/-- The readers together give only timestamps that their text gives back. -/
theorem readable_of_timestamp? {cs : List Char} {t : Timestamp} (read : timestamp? cs = some t) :
    t.Readable := by
  simp only [timestamp?, Option.orElse_eq_or, Option.or_eq_some_iff] at read
  rcases read with rfc3339 | ⟨_, rfc2822 | ⟨_, zoned | ⟨_, zoneless | ⟨_, day⟩⟩⟩⟩
  next =>
    obtain ⟨f, fields, computed⟩ := Option.bind_eq_some_iff.mp rfc3339
    obtain ⟨year, minutes⟩ := rfc3339Fields?_plain fields
    exact .of_fields? minutes (.inl year) computed
  next =>
    obtain ⟨f, fields, computed⟩ := Option.bind_eq_some_iff.mp rfc2822
    have coarse := rfc2822Fields?_coarse fields
    exact .of_fields? coarse.minutes (.inr coarse.nanosecond) computed
  next =>
    obtain ⟨template, member, read⟩ := List.exists_of_findSome?_eq_some zoned
    exact readable_of_template (coarse_zonedTemplates template member) read
  next =>
    obtain ⟨template, member, read⟩ := List.exists_of_findSome?_eq_some zoneless
    exact readable_of_utcTemplate (coarse_zonelessTemplates template member) read
  next =>
    obtain ⟨date, _, rfl⟩ := Option.map_eq_some_iff.mp day
    exact Timestamp.readable_ofUtc date rfl

end RecordSchema.Calendar
