/-!
# Failures — causes

Every way in which an operation can fail, by cause. Values that a
message shows are held as the literals that it shows. Causes are grouped
by the part of the job they belong to: turning values into numbers, using
values for what their kind does not offer, arrays, dates in texts, data
payloads, styles, strict checks, scripts that are sent, the journal,
configuration, data files, arguments, and what the surrounding system
refuses.
-/

namespace PlotPipe

/-- A value that cannot be turned into the number or the collection that
is asked for. -/
inductive Conversion where
  /-- A value of a type that has no real value. -/
  | notReal (typeName : String)
  /-- A text that is no real number. -/
  | notRealText (literal : String)
  /-- A value of a type that has no integer part. -/
  | notInteger (typeName : String)
  /-- A text that is no integer. -/
  | notIntegerText (literal : String)
  /-- An integer beyond the largest double. -/
  | integerTooLarge
  /-- A double without an integer part. -/
  | realWithoutInteger (isNan : Bool)
  /-- An exact decimal without an integer part. -/
  | exactWithoutInteger (isNan : Bool)
  /-- A decimal that signals when it is turned into a double. -/
  | signallingDecimal
  /-- An array of several numbers where one is asked for. -/
  | arrayToScalar
  /-- An integer text with more digits than are read. -/
  | tooManyDigits (count : Nat)
  /-- A value that holds no items. -/
  | notIterable (typeName : String)
  /-- A single number where a row is asked for. -/
  | noLength
  /-- A missing time where an instant is asked for. -/
  | noInstant
  /-- A value of a type that has no magnitude. -/
  | notMagnitude (typeName : String)
  /-- An integer with more digits than are written. -/
  | tooManyDigitsToWrite
  /-- A value that cannot be spread into several. -/
  | notSpreadable (typeName : String)
  /-- An array without axes, which has no items. -/
  | noAxis
  /-- An integer beyond the words of the machine. -/
  | integerTooWide
  /-- A sequence that is too long to be measured. -/
  | lengthTooLarge
  /-- A text that is no exact decimal. -/
  | notExactText
  deriving DecidableEq

/-- Values that have several truth values at once, or none. -/
inductive Ambiguity where
  | severalCells
  | noCells
  | column
  | frame
  deriving DecidableEq

/-- A value used for something that its kind does not offer. -/
inductive Misuse where
  /-- A value without a part of a name. -/
  | noPart (typeName part : String)
  /-- Bytes where a text is to be changed. -/
  | bytesForText
  /-- A date or a stamp where a text is to be changed. -/
  | dateForText
  | stampForText
  /-- A value that is no text behind one. -/
  | notConcatenable (typeName : String)
  /-- Cells of arrays that a text cannot be put before. -/
  | cellsForText (cellType : String)
  /-- Two values that stand in no order. -/
  | noOrder (relation left right : String)
  /-- Two values that the cells of arrays do not take for a comparison. -/
  | noLoop (loop left right : String)
  /-- A column whose cells stand in no order with a value. -/
  | noColumnOrder (columnType typeName : String)
  /-- An order asked of an undefined decimal. -/
  | undefinedOrder
  /-- A truth value asked of several. -/
  | ambiguous (subject : Ambiguity)
  /-- A value of a type that is not written in hexadecimal. -/
  | notHex (typeName : String)
  | exactAsHex
  | noTimeAsHex
  | noHexForm (typeName : String)
  /-- A value that is no text, as the first word of a clause. -/
  | notWord (typeName : String)
  /-- A record that was given too few values, or too many. -/
  | missingFields (record : String) (fields : List String)
  | surplusFields (record : String) (wanted given : Nat)
  /-- A value that is no collection of named values. -/
  | notMapping (typeName : String)
  /-- An operation that was given a setting it does not take. -/
  | strangeSetting (operation name : String)
  deriving DecidableEq

/-- Arrays that cannot be built. -/
inductive ArrayFault where
  /-- An array that does not fit the place of another. -/
  | notFitting (source target : List Nat)
  /-- Cells that do not fill the axes. -/
  | notFilling (count : Nat) (shape : List Nat)
  /-- More axes than cells can be gone through on. -/
  | tooManyAxes (count : Nat)
  /-- An integer beyond the range of its cell type. -/
  | outOfRange (value : Int) (typeName : String)
  /-- An index that is not as long as its column. -/
  | indexLength (values index : Nat)
  /-- Integers of a column of which some are beyond its cell type. -/
  | columnOutOfRange (typeName : String)
  /-- Numbers of a column that are not whole, but should be. -/
  | columnNotWhole
  /-- Texts that are not the integers of a column as they are written. -/
  | columnTextChanged (typeName : String)
  /-- Integers of a column that are wider than its cells. -/
  | columnTooNarrow (typeName : String)
  /-- Integers below zero in a column without them. -/
  | columnNegative
  /-- Numbers that have no equal among the optional cells of a column. -/
  | notEquivalent (source target : String)
  /-- Values that are no truth values, in a column of them. -/
  | notTruthLike
  /-- A cell type with a unit that columns do not have. -/
  | unitNotSupported (typeName : String)
  deriving DecidableEq

/-- A text that is no date in standard form. -/
inductive DateFault where
  | unread (text : String) (position : Nat)
  | outOfRange (part text : String)
  deriving DecidableEq

/-- A data payload that does not have the layout of its plot. -/
inductive PayloadFault where
  | unsupported (label typePath : String)
  | nonNumeric (label : String) (index : Nat) (literal : String)
  | notOneDimensional (label : String)
  | notPairs (label : String)
  | notRow (label : String) (index : Nat) (literal : String)
  | notTimePair (label : String) (index : Nat)
  | notCandle (label : String) (index : Nat)
  | notFourPrices (label : String) (index : Nat)
  deriving DecidableEq

/-- A style that no script can express. -/
inductive StyleFault where
  | unknownColor (literal : String)
  | notColor (literal : String)
  | unwritableColor (literal : String)
  | unknownTerminal (literal : String)
  | notTerminal (literal : String)
  | notFilling (literal : String)
  | notRange (literal : String)
  | missingExpression
  | noSeries
  deriving DecidableEq

/-- A setting that strict checks turn down. -/
inductive Violation where
  | component (name value : String)
  | foreignRange (literal : String)
  | boundsNotFinite (name lo hi : String)
  | boundsNotOrdered (name lo hi : String)
  | patternIndex (value : String)
  | weight (value : String)
  deriving DecidableEq

/-- A write that did not get through to the plotting program. -/
inductive WriteFault where
  /-- The pipe to the program complained. -/
  | pipe (complaint : String)
  /-- The channel to the program has been closed. -/
  | pipeClosed
  /-- The program has no standard input. -/
  | noInput
  /-- A memory channel was told to complain. -/
  | memory (complaint : String)
  /-- A memory channel has been closed. -/
  | memoryClosed
  /-- A channel of another make complained. -/
  | channel (complaint : String)
  /-- An earlier write failed. -/
  | unusable (earlier : String)
  /-- The channel refused in words of its own. -/
  | refused (text : String)
  deriving DecidableEq

/-- A text that cannot be encoded: the first run of surrogates in it, by
the code point that it starts with, its place, and its length. -/
structure EncodingFault where
  codePoint : Nat
  position : Nat
  length : Nat
  deriving DecidableEq

/-- A session configuration that is not in order. -/
inductive ConfigFault where
  | notTable
  | unknownFields (names : List String)
  | notList (field : String)
  | notTextEntries (field : String)
  | notText (field : String)
  | notBoolean (field : String)
  deriving DecidableEq

/-- A packed data file that cannot be unpacked. -/
inductive PackingFault where
  | strangeHeader (literal : String)
  | badStream
  | badFormat
  | corrupt
  | endsEarly
  deriving DecidableEq

/-- A data file without a table of numbers. -/
inductive TableFault where
  | notNumber (literal : String) (row column : Nat)
  | columnsChanged (before after row : Nat)
  | delimiterNotCharacter (literal : String)
  | delimiterIsComment
  | delimiterIsLineEnd
  | noRows (file : String)
  deriving DecidableEq

/-- Arguments that were understood but ask for what cannot be done. -/
inductive ArgumentFault where
  | styleWithoutExpressions (literal : String)
  | outputWithoutPath (kind : String)
  | spanShape (name : String)
  | spanBounds (name literal : String)
  deriving DecidableEq

/-- The kinds of complaint that the surrounding system makes. -/
inductive SystemKind where
  | other | brokenPipe | notFound | permission | isDirectory | notDirectory | exists
  deriving DecidableEq

/-- What a complaint of the surrounding system says: a text, or a code
with a text, perhaps about one subject or two. -/
inductive Complaint where
  | said (text : String)
  | coded (code text : String) (subjects : List String)
  deriving DecidableEq

/-- Why an operation failed. -/
inductive Failure where
  | conversion (cause : Conversion)
  | misuse (cause : Misuse)
  | array (cause : ArrayFault)
  | date (cause : DateFault)
  | payload (cause : PayloadFault)
  | style (cause : StyleFault)
  | strict (cause : Violation)
  /-- The plotting program could not be started. -/
  | launch (literal complaint : String)
  | write (cause : WriteFault)
  /-- The session has been closed. -/
  | sessionClosed
  /-- A plot of no series at all. -/
  | emptySeries (operation : String)
  /-- A script that cannot be encoded. -/
  | unencodable (fault : EncodingFault)
  | config (cause : ConfigFault)
  /-- A configuration text that breaks the rules of its format. -/
  | configText (message : String)
  /-- Bytes that are no text. -/
  | notText
  /-- A value that the journal cannot hold. -/
  | notSerializable (typeName : String)
  /-- A text nested beyond the limit; for a journal line, what is opened
  there. -/
  | nestedTooDeep (opener : Option String)
  /-- A value nested too deep to be written as a journal line. -/
  | writtenTooDeep
  | table (cause : TableFault)
  | packing (cause : PackingFault)
  | argument (cause : ArgumentFault)
  | system (kind : SystemKind) (complaint : Complaint)
  /-- A value that something outside refused. -/
  | refusedValue (text : String)
  /-- Something outside broke down. -/
  | breakdown (text : String)
  deriving DecidableEq, Inhabited

end PlotPipe
