import TypedRows.Calendar.Interval
import TypedRows.Calendar.Rounding
import TypedRows.Main
import TypedRows.Row.Composite
import TypedRows.Proofs.Number.PlainText
import TypedRows.Proofs.Number.Widening
import TypedRows.Proofs.Number.IntegerPart
import TypedRows.Proofs.Number.Quantity
import TypedRows.Proofs.Outcome
import TypedRows.Proofs.Value.Likeness
import TypedRows.Proofs.Value.Uniform
import TypedRows.Proofs.Value.Form
import TypedRows.Proofs.Wire.Reading
import TypedRows.Proofs.Wire.Arrival
import TypedRows.Proofs.Value.Shape
import TypedRows.Proofs.Wire.Scalars
import TypedRows.Proofs.Wire.Nesting
import TypedRows.Proofs.Wire.Absence
import TypedRows.Proofs.Wire.Legibility
import TypedRows.Proofs.Value.Native
import TypedRows.Proofs.Json.Reading
import TypedRows.Proofs.Json.Decimal
import TypedRows.Proofs.Row.Protocol
import TypedRows.Proofs.Json.RoundTrip
import TypedRows.Proofs.Value.Settled
import TypedRows.Proofs.Value.MixedLists
import TypedRows.Proofs.Wire.MixedLists
import TypedRows.Proofs.Json.FieldTags
import TypedRows.Proofs.Row.ClientForm
import TypedRows.Proofs.Calendar.DayNumbers
import TypedRows.Proofs.Calendar.DayOrder
import TypedRows.Proofs.Calendar.CivilOrder
import TypedRows.Proofs.Calendar.WallTimes
import TypedRows.Proofs.Calendar.FixedOffset
import TypedRows.Proofs.Value.ClientSerial
import TypedRows.Proofs.Value.ClientInverse
import TypedRows.Proofs.Value.NestedArrays
import TypedRows.Proofs.Row.Binding
import TypedRows.Proofs.Row.Conformance
import TypedRows.Proofs.Calendar.Midnights
import TypedRows.Proofs.Number.TwosComplement
import TypedRows.Proofs.Wire.Layouts
import TypedRows.Proofs.Value.Construction
import TypedRows.Proofs.Row.Layouts
import TypedRows.Proofs.Calendar.Fractions
import TypedRows.Proofs.Calendar.WrittenTexts
import TypedRows.Proofs.Wire.Fields
import TypedRows.Proofs.Wire.Container
import TypedRows.Proofs.Wire.UntaggedLists
import TypedRows.Proofs.Wire.ElementTags
import TypedRows.Proofs.Calendar.MonthStarts
import TypedRows.Proofs.Calendar.MonthSpans
import TypedRows.Proofs.Calendar.Periods
import TypedRows.Proofs.Json.IntegralTags
import TypedRows.Proofs.Number.ShortestDigits
import TypedRows.Proofs.Number.ShownDecimals
import TypedRows.Proofs.Json.NumberText
import TypedRows.Proofs.Json.SmallNumbers
import TypedRows.Proofs.Json.Text
import TypedRows.Proofs.Json.NumberRoundTrip
import TypedRows.Proofs.Calendar.Centuries
import TypedRows.Proofs.Calendar.WeekYears
import TypedRows.Proofs.Calendar.Grammar
import TypedRows.Proofs.Calendar.DateTexts
import TypedRows.Proofs.Row.TimeCells
import TypedRows.Proofs.Calendar.NearestMultiples
import TypedRows.Proofs.Calendar.TimestampTexts
import TypedRows.Proofs.Calendar.ClockTexts
import TypedRows.Proofs.Calendar.OffsetTexts
import TypedRows.Proofs.Calendar.IntervalTexts
import TypedRows.Proofs.Calendar.PartialDays
import TypedRows.Proofs.Calendar.ExtractedFields
import TypedRows.Proofs.Row.DateCells
import TypedRows.Proofs.Row.Slices
import TypedRows.Proofs.Value.Instants
import TypedRows.Proofs.Row.TimestampCells
