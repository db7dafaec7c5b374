import RecordSchema.Scalar.Coercion
import RecordSchema.Calendar.Reader
import RecordSchema.Pattern.Reader

set_option autoImplicit false

/-!
Dates and timestamps in any of a list of common layouts. Registered date formats come first: the
first one whose pattern matches decides, even if its template then fails.
-/

namespace RecordSchema

/-- Texts that match the pattern are read by the template. -/
structure DateFormat where
  template : String
  patternText : String
  pattern : Pattern

def DateFormat.ofTexts? (template patternText : String) : Option DateFormat :=
  (Pattern.read? patternText).map fun pattern => { template, patternText, pattern }

def DateFormat.read? (format : DateFormat) (text : String) : Option Calendar.Date :=
  (Calendar.Template.ofText? format.template).bind fun template =>
    template.dateOrFirst? text.toList

namespace Scalar

open Calendar
open CoercionError (Reason)

/-- `2021-08-01`, `2021/08/01`, `1 Aug 2021` with a short or full name, `Aug 1 2021`,
`August 1, 2021`. -/
def commonDateTemplates : List Template :=
  [[.number .year, .literal '-', .number .month, .literal '-', .number .day],
   [.number .year, .literal '/', .number .month, .literal '/', .number .day],
   [.number .day, .blanks, .monthName false, .blanks, .number .year],
   [.number .day, .blanks, .monthName true, .blanks, .number .year],
   [.monthName false, .blanks, .number .day, .blanks, .number .year],
   [.monthName true, .blanks, .number .day, .literal ',', .blanks, .number .year]]

def commonDate? (cs : List Char) : Option Date :=
  (commonDateTemplates.findSome? (Template.date? · cs)).orElse fun _ =>
    ((rfc3339? cs).map (·.date)).orElse fun _ => (rfc2822? cs).map (·.date)

def hyphenDate : Template :=
  [.number .year, .literal '-', .number .month, .literal '-', .number .day]

/-- With a zone, separated by a blank or following directly. -/
def zonedTemplates : List Template :=
  [hyphenDate ++ [.blanks] ++ Template.clock ++ [.blanks, .offset],
   hyphenDate ++ [.literal 'T'] ++ Template.clock ++ [.offset]]

/-- Without a zone; seconds may be missing after a blank. -/
def zonelessTemplates : List Template :=
  [hyphenDate ++ [.blanks] ++ Template.clock,
   hyphenDate ++ [.literal 'T'] ++ Template.clock,
   hyphenDate ++ [.blanks, .number .hour, .literal ':', .number .minute]]

/-- A date alone is its midnight in UTC. -/
def timestamp? (cs : List Char) : Option Timestamp :=
  (rfc3339? cs).orElse fun _ =>
    (rfc2822? cs).orElse fun _ =>
      (zonedTemplates.findSome? (Template.timestamp? · cs)).orElse fun _ =>
        (zonelessTemplates.findSome? (Template.utcTimestamp? · cs)).orElse fun _ =>
          (commonDate? cs).map fun date => .ofUtc date .midnight

def checkDate (formats : List DateFormat) (text : String) : Except Reason Date :=
  let trimmed := Text.trim text
  match formats.find? fun format => format.pattern.isMatch trimmed with
  | some format =>
      match format.read? trimmed with
      | some date => .ok date
      | none => .error (.templateMismatch format.template)
  | none =>
      match commonDate? trimmed.toList with
      | some date => .ok date
      | none => .error .unknownDateLayout

def checkTimestamp (text : String) : Except Reason Timestamp :=
  match timestamp? (Text.trimChars text.toList) with
  | some t => .ok t
  | none => .error .unknownDatetimeLayout

end Scalar

end RecordSchema
