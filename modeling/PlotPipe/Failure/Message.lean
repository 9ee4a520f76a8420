import PlotPipe.Failure.Cause
import PlotPipe.Text.Literal
/-!
# Failures — kinds and messages

The kind of a failure says who may handle it: a session handles what its
channel reports, and the command line reports everything but mistakes of
type, overflow and breakdowns. The message of a failure is one line of
text made from its cause.
-/

namespace PlotPipe

/-- The kinds of failure. -/
inductive Failure.Kind where
  | value | type | overflow | recursion | breakdown
  | part | undefinedDecimal | cellLoop | endOfFile | compression
  | seriesData | invalidValue | launch | write | sessionClosed | emptySeries
  | configText | notText
  | system (kind : SystemKind)
  deriving DecidableEq

namespace Conversion

/-- The kind of a failed conversion. -/
def kind : Conversion → Failure.Kind
  | notReal _ | notInteger _ | arrayToScalar | notIterable _ | noLength | notMagnitude _
  | notSpreadable _ | noAxis => .type
  | notRealText _ | notIntegerText _ | signallingDecimal | tooManyDigits _ | noInstant
  | tooManyDigitsToWrite => .value
  | integerTooLarge | integerTooWide | lengthTooLarge => .overflow
  | notExactText => .undefinedDecimal
  | realWithoutInteger isNan | exactWithoutInteger isNan => if isNan then .value else .overflow

/-- What a failed conversion says. -/
def message : Conversion → String
  | notReal typeName => s!"float() argument must be a string or a real number, not '{typeName}'"
  | notRealText literal => s!"could not convert string to float: {literal}"
  | notInteger typeName =>
    s!"int() argument must be a string, a bytes-like object or a real number, not '{typeName}'"
  | notIntegerText literal =>
    let shown := Text.clip 200 literal
    s!"invalid literal for int() with base 10: {shown}"
  | integerTooLarge => "int too large to convert to float"
  | realWithoutInteger isNan =>
    if isNan then "cannot convert float NaN to integer"
    else "cannot convert float infinity to integer"
  | exactWithoutInteger isNan =>
    if isNan then "cannot convert NaN to integer" else "cannot convert Infinity to integer"
  | signallingDecimal => "cannot convert signaling NaN to float"
  | arrayToScalar => "only 0-dimensional arrays can be converted to Python scalars"
  | tooManyDigits count =>
    s!"Exceeds the limit (4300 digits) for integer string conversion: value has {count} digits; "
      ++ "use sys.set_int_max_str_digits() to increase the limit"
  | notIterable typeName => s!"'{typeName}' object is not iterable"
  | noLength => "len() of unsized object"
  | noInstant => "NaTType does not support timestamp"
  | notMagnitude typeName => s!"must be real number, not {typeName}"
  | tooManyDigitsToWrite =>
    "Exceeds the limit (4300 digits) for integer string conversion; "
      ++ "use sys.set_int_max_str_digits() to increase the limit"
  | notSpreadable typeName => s!"Value after * must be an iterable, not {typeName}"
  | noAxis => "iteration over a 0-d array"
  | integerTooWide => "Python int too large to convert to C long"
  | lengthTooLarge => "Python int too large to convert to C ssize_t"
  | notExactText => "[<class 'decimal.ConversionSyntax'>]"

end Conversion

/-- What is said about a value with several truth values. -/
def Ambiguity.message : Ambiguity → String
  | severalCells =>
    "The truth value of an array with more than one element is ambiguous. Use a.any() or a.all()"
  | noCells =>
    "The truth value of an empty array is ambiguous. "
      ++ "Use `array.size > 0` to check that an array is not empty."
  | column =>
    "The truth value of a Series is ambiguous. Use a.empty, a.item(), a.any() or a.all()."
  | frame =>
    "The truth value of a DataFrame is ambiguous. Use a.empty, a.item(), a.any() or a.all()."

namespace Misuse

/-- The kind of a misuse. -/
def kind : Misuse → Failure.Kind
  | noPart _ _ => .part
  | stampForText | ambiguous _ | notHex _ | exactAsHex | noTimeAsHex => .value
  | undefinedOrder => .undefinedDecimal
  | noLoop _ _ _ | cellsForText _ => .cellLoop
  | _ => .type

/-- What a misuse says. -/
def message : Misuse → String
  | noPart typeName part => s!"'{typeName}' object has no attribute '{part}'"
  | bytesForText => "a bytes-like object is required, not 'str'"
  | dateForText => "'str' object cannot be interpreted as an integer"
  | stampForText => "value must be an integer, received <class 'str'> for year"
  | notConcatenable typeName => s!"can only concatenate str (not \"{typeName}\") to str"
  | cellsForText cellType =>
    "ufunc 'add' did not contain a loop with signature matching types "
      ++ s!"(dtype('<U1'), dtype('{cellType}')) -> None"
  | noOrder relation left right =>
    s!"'{relation}' not supported between instances of '{left}' and '{right}'"
  | noLoop loop left right =>
    s!"ufunc '{loop}' did not contain a loop with signature matching types "
      ++ s!"(<class '{left}'>, <class '{right}'>) -> None"
  | noColumnOrder columnType typeName =>
    s!"Invalid comparison between dtype={columnType} and {typeName}"
  | undefinedOrder => "[<class 'decimal.InvalidOperation'>]"
  | ambiguous subject => subject.message
  | notHex typeName => s!"Unknown format code 'x' for object of type '{typeName}'"
  | exactAsHex => "invalid format string"
  | noTimeAsHex => "NaTType does not support strftime"
  | noHexForm typeName => s!"unsupported format string passed to {typeName}.__format__"
  | notWord typeName => s!"sequence item 0: expected str instance, {typeName} found"
  | missingFields record fields =>
    let names := fields.map fun name => "'" ++ name ++ "'"
    let plural := if names.length = 1 then "" else "s"
    let last := names.getLastD ""
    let shown := match names.dropLast with
      | [] => last
      | [first] => first ++ " and " ++ last
      | others => ", ".intercalate others ++ ", and " ++ last
    s!"{record}.__init__() missing {names.length} required positional argument{plural}: {shown}"
  | surplusFields record wanted given =>
    let plural := if wanted = 1 then "" else "s"
    s!"{record}.__init__() takes {wanted} positional argument{plural} but {given} were given"
  | notMapping typeName => s!"'{typeName}' object is not a mapping"
  | strangeSetting operation name =>
    s!"{operation}() got an unexpected keyword argument '{name}'"

end Misuse

/-- The lengths of axes between brackets, close together; a single one
keeps its comma. -/
def shapeText (shape : List Nat) : String :=
  "(" ++ ",".intercalate (shape.map fun n => toString n) ++ (if shape.length = 1 then ",)" else ")")

/-- The kind of an array fault. -/
def ArrayFault.kind : ArrayFault → Failure.Kind
  | outOfRange _ _ | columnOutOfRange _ | columnNegative => .overflow
  | unitNotSupported _ | notEquivalent _ _ | notTruthLike => .type
  | tooManyAxes _ => .breakdown
  | _ => .value

/-- What is said about an array that cannot be built. -/
def ArrayFault.message : ArrayFault → String
  | notFitting source target =>
    "could not broadcast input array from shape " ++ shapeText source ++ " into shape "
      ++ shapeText target
  | notFilling count shape =>
    s!"cannot reshape array of size {count} into shape " ++ shapeText shape
  | tooManyAxes count =>
    s!"this function only supports up to 32 dimensions but the array has {count}."
  | outOfRange value typeName => s!"Python integer {value} out of bounds for {typeName}"
  | indexLength values index =>
    s!"Length of values ({values}) does not match length of index ({index})"
  | columnOutOfRange typeName =>
    s!"The elements provided in the data cannot all be casted to the dtype {typeName}"
  | columnNotWhole => "Trying to coerce float values to integers"
  | columnTextChanged typeName => s!"string values cannot be losslessly cast to {typeName}"
  | columnTooNarrow typeName =>
    s!"Values are too large to be losslessly converted to {typeName}. "
      ++ s!"To cast anyway use pd.Series(values).astype({typeName})"
  | columnNegative => "Trying to coerce negative values to unsigned integers"
  | notEquivalent source target => s!"cannot safely cast non-equivalent {source} to {target}"
  | notTruthLike => "Need to pass bool-like values"
  | unitNotSupported typeName =>
    s!"dtype={typeName} is not supported. Supported resolutions are 's', 'ms', 'us', and 'ns'"

/-- What is said about a text that is no date. -/
def DateFault.message : DateFault → String
  | unread text position => s!"Error parsing datetime string \"{text}\" at position {position}"
  | outOfRange part text => s!"{part} out of range in datetime string \"{text}\""

namespace PackingFault

/-- The kind of a packing fault. -/
def kind : PackingFault → Failure.Kind
  | strangeHeader _ | badStream => .system .other
  | badFormat | corrupt => .compression
  | endsEarly => .endOfFile

/-- What is said about a file that cannot be unpacked. -/
def message : PackingFault → String
  | strangeHeader literal => s!"Not a gzipped file ({literal})"
  | badStream => "Invalid data stream"
  | badFormat => "Input format not supported by decoder"
  | corrupt => "Corrupt input data"
  | endsEarly => "Compressed file ended before the end-of-stream marker was reached"

end PackingFault

/-- What a payload fault says. -/
def PayloadFault.message : PayloadFault → String
  | unsupported label typePath => s!"unsupported {label} input type: {typePath}"
  | nonNumeric label index literal =>
    s!"{label} contains non-numeric value at index {index}: {literal}"
  | notOneDimensional label => s!"{label} must be 1-D"
  | notPairs label => s!"{label} must be a sequence of (x, y) pairs"
  | notRow label index literal => s!"{label} entry {index} must be a tuple, got {literal}"
  | notTimePair label index => s!"{label} entry {index} must be a (time, y) pair"
  | notCandle label index => s!"{label} entry {index} must be (time, (open, high, low, close))"
  | notFourPrices label index => s!"{label} entry {index} must carry exactly four prices"

namespace StyleFault

/-- The kind of a style fault. -/
def kind : StyleFault → Failure.Kind
  | unknownColor _ | unknownTerminal _ | noSeries => .value
  | _ => .type

/-- What a style fault says. -/
def message : StyleFault → String
  | unknownColor literal => s!"unknown color name: {literal}"
  | notColor literal => s!"unsupported color value: {literal}"
  | unwritableColor literal => s!"unsupported color: {literal}"
  | unknownTerminal literal =>
    s!"unknown terminal kind: {literal} (file terminals need Png(path) or Eps(path))"
  | notTerminal literal => s!"unsupported terminal kind: {literal}"
  | notFilling literal => s!"unsupported filling: {literal}"
  | notRange literal => s!"unsupported range: {literal}"
  | missingExpression => "expression series requires an expression"
  | noSeries => "at least one series is required"

end StyleFault

/-- What a strict check says. -/
def Violation.message : Violation → String
  | component name value => s!"rgb component {name}={value} outside 0..255"
  | foreignRange literal => s!"unsupported range: {literal}"
  | boundsNotFinite name lo hi => s!"{name} bounds must be finite: [{lo}:{hi}]"
  | boundsNotOrdered name lo hi => s!"{name} min must be below max: [{lo}:{hi}]"
  | patternIndex value => s!"fill pattern index must be >= 0, got {value}"
  | weight value => s!"series weight must be >= 0, got {value}"

/-- What a failed write says. -/
def WriteFault.message : WriteFault → String
  | pipe complaint => s!"write to gnuplot process failed: {complaint}"
  | pipeClosed => "process channel is closed"
  | noInput => "process stdin unavailable"
  | memory complaint => s!"memory channel write failed: {complaint}"
  | memoryClosed => "memory channel is closed"
  | channel complaint => s!"write to gnuplot channel failed: {complaint}"
  | unusable earlier => s!"gnuplot session unusable after failed write: {earlier}"
  | refused text => text

/-- What is said of a text that cannot be encoded: where its first
surrogates are, and which it is where there is one only. -/
def EncodingFault.message (f : EncodingFault) : String :=
  let last := f.position + f.length - 1
  let place :=
    if f.length = 1 then s!"character '\\u{Text.hex 4 f.codePoint}' in position {f.position}"
    else s!"characters in position {f.position}-{last}"
  s!"'utf-8' codec can't encode {place}: surrogates not allowed"

/-- What a configuration fault says. -/
def ConfigFault.message : ConfigFault → String
  | notTable => "session must be a table"
  | unknownFields names => "unknown session config fields: " ++ ", ".intercalate names
  | notList field => s!"{field} must be a list"
  | notTextEntries field => s!"{field} entries must be strings"
  | notText field => s!"{field} must be a string if provided"
  | notBoolean field => s!"{field} must be a boolean"

namespace TableFault

/-- The kind of a table fault. -/
def kind : TableFault → Failure.Kind
  | delimiterNotCharacter _ | delimiterIsComment | delimiterIsLineEnd => .type
  | _ => .value

/-- What a table fault says. -/
def message : TableFault → String
  | notNumber literal row column =>
    s!"could not convert string {literal} to float64 at row {row}, column {column}."
  | columnsChanged before after row =>
    s!"the number of columns changed from {before} to {after} at row {row}; "
      ++ "use `usecols` to select a subset and avoid this error"
  | delimiterNotCharacter literal =>
    "Text reading control character must be a single unicode character or None; but got: "
      ++ literal
  | delimiterIsComment =>
    "The values for control characters 'comment' and 'delimiter' are incompatible"
  | delimiterIsLineEnd =>
    "control character 'delimiter' cannot be a newline (`\\r` or `\\n`)."
  | noRows file => s!"no data rows in {file}"

end TableFault

/-- What an argument fault says. -/
def ArgumentFault.message : ArgumentFault → String
  | styleWithoutExpressions literal => s!"style {literal} cannot plot expressions"
  | outputWithoutPath kind => s!"--output {kind} needs a path, e.g. {kind}:chart.{kind}"
  | spanShape name => s!"--{name} must look like MIN:MAX"
  | spanBounds name literal => s!"--{name} bounds must be numbers: {literal}"

namespace Complaint

/-- A complaint with a code about one subject. -/
def about (code : Nat) (text subject : String) : Complaint :=
  coded (toString code) text [Text.literal subject]

/-- What a complaint of the surrounding system says. -/
def message : Complaint → String
  | said text => text
  | coded code text subjects =>
    s!"[Errno {code}] {text}"
      ++ (if subjects.isEmpty then "" else ": " ++ " -> ".intercalate subjects)

end Complaint

namespace Failure

/-- The kind of a failure. -/
def kind : Failure → Kind
  | conversion cause => cause.kind
  | misuse cause => cause.kind
  | array cause => cause.kind
  | date _ => .value
  | payload _ => .seriesData
  | style cause => cause.kind
  | strict _ => .invalidValue
  | launch _ _ => .launch
  | write _ => .write
  | sessionClosed => .sessionClosed
  | emptySeries _ => .emptySeries
  | unencodable _ | config _ | argument _ | refusedValue _ => .value
  | configText _ => .configText
  | notText => .notText
  | notSerializable _ => .type
  | nestedTooDeep _ | writtenTooDeep => .recursion
  | table cause => cause.kind
  | packing cause => cause.kind
  | system kind _ => .system kind
  | breakdown _ => .breakdown

/-- The message of a failure. -/
def message : Failure → String
  | conversion cause => cause.message
  | misuse cause => cause.message
  | array cause => cause.message
  | date cause => cause.message
  | payload cause => cause.message
  | style cause => cause.message
  | strict cause => cause.message
  | launch literal complaint => s!"failed to start {literal}: {complaint}"
  | write cause => cause.message
  | sessionClosed => "gnuplot session is closed"
  | emptySeries operation => s!"{operation} requires at least one series"
  | unencodable fault => fault.message
  | config cause => cause.message
  | configText text => text
  | notText => "invalid UTF-8"
  | notSerializable typeName => s!"Object of type {typeName} is not JSON serializable"
  | nestedTooDeep none => "maximum recursion depth exceeded"
  | nestedTooDeep (some opener) =>
    "maximum recursion depth exceeded while decoding a JSON " ++ opener ++ " from a unicode string"
  | writtenTooDeep => "maximum recursion depth exceeded while encoding a JSON object"
  | table cause => cause.message
  | packing cause => cause.message
  | argument cause => cause.message
  | system _ complaint => complaint.message
  | refusedValue text => text
  | breakdown text => text

/-- The kinds of a complaint of the surrounding system. -/
def Kind.isSystem : Kind → Bool
  | system _ => true
  | _ => false

/-- The kinds of a value that is not in order, whatever is wrong with
it. -/
def Kind.isValue : Kind → Bool
  | value | seriesData | invalidValue | emptySeries | configText | notText => true
  | _ => false

/-- A failure that the surroundings are expected to come up with: a
complaint of the system or a value that is not in order. -/
def isRefusal (f : Failure) : Bool := f.kind.isSystem || f.kind.isValue

/-- A failure that the command line reports on its own: one of the
package, a value that is not in order, or a complaint of the system. -/
def Kind.isReported : Kind → Bool
  | type | overflow | recursion | breakdown | part | undefinedDecimal | cellLoop | endOfFile
  | compression => false
  | _ => true

end Failure

end PlotPipe
