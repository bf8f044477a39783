import CpaGateway.Lib.BigEndian
import CpaGateway.Lib.Fallible

/-! # AWS EventStream framing of Kiro response bodies

The bounded incremental decoder: `feed` appends a transport chunk to the buffer, `nextFrame` takes
one frame from its front. A frame is a twelve-byte prelude (total length, headers length and the
checksum of both), the headers, the payload and the checksum of everything before. A malformed
prelude is skipped up to the next valid one in the buffer, a frame with a bad body is dropped as a
whole, and the fifth failure in a row stops the decoder. -/

namespace CpaGateway.Kiro.EventStream

open Lib.BigEndian

/-! ### The data of a frame -/

inductive KiroEventStreamHeaderValue
  | boolTrue
  | boolFalse
  | byte (value : Int8)
  | int16 (value : Int16)
  | int32 (value : Int32)
  | int64 (value : Int64)
  | byteArray (value : List UInt8)
  | string (value : String)
  | timestamp (value : Int64)
  | uuid (value : { bytes : List UInt8 // bytes.length = 16 })
  deriving DecidableEq

/-- The text of a header of string type. -/
def KiroEventStreamHeaderValue.asStr : KiroEventStreamHeaderValue → Option String
  | .string value => some value
  | _ => none

/-- The headers of a frame, by name. -/
abbrev KiroEventStreamHeaders := Std.ExtTreeMap String KiroEventStreamHeaderValue

namespace KiroEventStreamHeaders

def getString (headers : KiroEventStreamHeaders) (name : String) : Option String :=
  headers[name]?.bind KiroEventStreamHeaderValue.asStr

def messageType (headers : KiroEventStreamHeaders) : Option String :=
  getString headers ":message-type"

def eventType (headers : KiroEventStreamHeaders) : Option String := getString headers ":event-type"

def exceptionType (headers : KiroEventStreamHeaders) : Option String :=
  getString headers ":exception-type"

end KiroEventStreamHeaders

/-- One frame whose checksums were verified. -/
structure KiroEventStreamFrame where
  headers : KiroEventStreamHeaders
  payload : List UInt8

/-- The framing failures. -/
inductive KiroEventStreamError
  | invalidFrameLength
  | invalidHeaderLength
  | preludeCrcMismatch
  | messageCrcMismatch
  | invalidHeaderName
  | invalidHeaderType
  | invalidHeaderValue
  | duplicateHeader
  | bufferLimitExceeded
  | truncatedFrame
  | tooManyErrors
  | stopped
  deriving DecidableEq

/-! ### Limits -/

def preludeBytes : ℕ := 12

def messageCrcBytes : ℕ := 4

def minFrameBytes : ℕ := preludeBytes + messageCrcBytes

def maxFrameBytes : ℕ := 16 * 1024 * 1024

def maxBufferBytes : ℕ := maxFrameBytes * 2

def maxConsecutiveErrors : ℕ := 5

/-! ### Reading bytes -/

/-- One bit of the reflected checksum. -/
def crcBit (crc : UInt32) : UInt32 :=
  if crc &&& 1 = 0 then crc >>> 1 else (crc >>> 1) ^^^ 0xedb88320

/-- One byte of the checksum. -/
def crcByte (crc : UInt32) (byte : UInt8) : UInt32 := Nat.repeat crcBit 8 (crc ^^^ byte.toUInt32)

/-- The checksum of the AWS layout. -/
def crc32 (bytes : List UInt8) : UInt32 := ~~~ (bytes.foldl crcByte (~~~ 0))

example : crc32 [49, 50, 51, 52, 53, 54, 55, 56, 57] = 0xcbf43926 := by decide +kernel

/-- The first four bytes as a number. -/
def readU32 (bytes : List UInt8) : UInt32 := UInt32.ofNat (beNat (bytes.take 4))

/-- The next `length` bytes of what is left, and the rest after them. -/
def readExact (length : ℕ) (rest : List UInt8) :
    Except KiroEventStreamError ({ bytes : List UInt8 // bytes.length = length } × List UInt8) :=
  if h : length ≤ rest.length then .ok (⟨rest.take length, by simp [h]⟩, rest.drop length)
  else .error .invalidHeaderValue

def readByte (rest : List UInt8) : Except KiroEventStreamError (UInt8 × List UInt8) := do
  let (value, rest) ← readExact 1 rest
  return (UInt8.ofNat (beNat value.1), rest)

def readI16 (rest : List UInt8) : Except KiroEventStreamError (Int16 × List UInt8) := do
  let (value, rest) ← readExact 2 rest
  return ((UInt16.ofNat (beNat value.1)).toInt16, rest)

def readI32 (rest : List UInt8) : Except KiroEventStreamError (Int32 × List UInt8) := do
  let (value, rest) ← readExact 4 rest
  return ((UInt32.ofNat (beNat value.1)).toInt32, rest)

def readI64 (rest : List UInt8) : Except KiroEventStreamError (Int64 × List UInt8) := do
  let (value, rest) ← readExact 8 rest
  return ((UInt64.ofNat (beNat value.1)).toInt64, rest)

/-- Bytes behind a two-byte length. -/
def readVariableBytes (rest : List UInt8) :
    Except KiroEventStreamError (List UInt8 × List UInt8) := do
  let (length, rest) ← readExact 2 rest
  let (value, rest) ← readExact (beNat length.1) rest
  return (value.1, rest)

/-- The text of `length` bytes; a truncated or malformed text is the given error. -/
def readUtf8 (length : ℕ) (error : KiroEventStreamError) (rest : List UInt8) :
    Except KiroEventStreamError (String × List UInt8) :=
  if length ≤ rest.length then
    match String.fromUTF8? (rest.take length).toByteArray with
    | some value => .ok (value, rest.drop length)
    | none => .error error
  else .error error

/-! ### Prelude and headers -/

/-- The two lengths of a prelude. -/
structure Prelude where
  totalLength : ℕ
  headersLength : ℕ
  deriving DecidableEq

/-- The prelude in the first twelve bytes: the lengths first, then their checksum. -/
def parsePrelude (bytes : List UInt8) : Except KiroEventStreamError Prelude :=
  let totalLength := (readU32 bytes).toNat
  let headersLength := (readU32 (bytes.drop 4)).toNat
  if ¬ (minFrameBytes ≤ totalLength ∧ totalLength ≤ maxFrameBytes) then .error .invalidFrameLength
  else if headersLength > totalLength - minFrameBytes then .error .invalidHeaderLength
  else if crc32 (bytes.take 8) ≠ readU32 (bytes.drop 8) then .error .preludeCrcMismatch
  else .ok { totalLength, headersLength }

def parseHeaderValue (headerType : UInt8) (rest : List UInt8) :
    Except KiroEventStreamError (KiroEventStreamHeaderValue × List UInt8) :=
  match headerType with
  | 0 => .ok (.boolTrue, rest)
  | 1 => .ok (.boolFalse, rest)
  | 2 => do let (value, rest) ← readByte rest; return (.byte value.toInt8, rest)
  | 3 => do let (value, rest) ← readI16 rest; return (.int16 value, rest)
  | 4 => do let (value, rest) ← readI32 rest; return (.int32 value, rest)
  | 5 => do let (value, rest) ← readI64 rest; return (.int64 value, rest)
  | 6 => do let (value, rest) ← readVariableBytes rest; return (.byteArray value, rest)
  | 7 => do
    let (value, rest) ← readVariableBytes rest
    match String.fromUTF8? value.toByteArray with
    | some value => return (.string value, rest)
    | none => .error .invalidHeaderValue
  | 8 => do let (value, rest) ← readI64 rest; return (.timestamp value, rest)
  | 9 => do let (value, rest) ← readExact 16 rest; return (.uuid value, rest)
  | _ => .error .invalidHeaderType

/-- One header: its name behind a one-byte length, its type and its value. -/
def parseHeader (rest : List UInt8) :
    Except KiroEventStreamError ((String × KiroEventStreamHeaderValue) × List UInt8) := do
  let (nameLength, rest) ← readByte rest
  if nameLength = 0 then .error .invalidHeaderName
  else
    let (name, rest) ← readUtf8 nameLength.toNat .invalidHeaderName rest
    let (headerType, rest) ← readByte rest
    let (value, rest) ← parseHeaderValue headerType rest
    return ((name, value), rest)

/-- The loop over the header bytes; each round reads at least one byte, so that `fuel` rounds are
enough for `fuel` bytes. -/
def parseHeadersLoop : ℕ → List UInt8 → KiroEventStreamHeaders →
    Except KiroEventStreamError KiroEventStreamHeaders
  | _, [], headers => .ok headers
  | 0, _ :: _, _ => .error .invalidHeaderValue
  | fuel + 1, byte :: rest, headers => do
    let ((name, value), rest) ← parseHeader (byte :: rest)
    if headers.contains name then .error .duplicateHeader
    else parseHeadersLoop fuel rest (headers.insert name value)

def parseHeaders (bytes : List UInt8) : Except KiroEventStreamError KiroEventStreamHeaders :=
  parseHeadersLoop bytes.length bytes ∅

/-! ### The decoder -/

/-- The bytes not yet decoded, the failures in a row, and whether the decoder gave up. -/
structure KiroEventStreamDecoder where
  buffer : List UInt8 := []
  consecutiveErrors : ℕ := 0
  stopped : Bool := false
  deriving DecidableEq

namespace KiroEventStreamDecoder

variable (d : KiroEventStreamDecoder)

/-- Give up: the buffer is dropped for good. -/
def stop : KiroEventStreamDecoder := { d with buffer := [], stopped := true }

def discard (count : ℕ) : KiroEventStreamDecoder := { d with buffer := d.buffer.drop count }

/-- Count a failure; the fifth in a row stops the decoder and is reported as such. -/
def recover (error : KiroEventStreamError) : KiroEventStreamError × KiroEventStreamDecoder :=
  let d := { d with consecutiveErrors := d.consecutiveErrors + 1 }
  if d.consecutiveErrors ≥ maxConsecutiveErrors then (.tooManyErrors, d.stop) else (error, d)

def feed (bytes : List UInt8) : Except KiroEventStreamError Unit × KiroEventStreamDecoder :=
  if d.stopped then (.error .stopped, d)
  else if d.buffer.length + bytes.length > maxBufferBytes then
    (.error .bufferLimitExceeded, d.stop)
  else (.ok (), { d with buffer := d.buffer ++ bytes })

/-- The first later offset of the buffer at which a prelude parses. -/
def nextPrelude (buffer : List UInt8) : Option ℕ :=
  (List.range' 1 (buffer.length - preludeBytes)).find? fun start =>
    (parsePrelude ((buffer.drop start).take preludeBytes)).isOk

/-- Skip to the next valid prelude of the buffer, or keep what may be the start of one. -/
def resynchronizePrelude : KiroEventStreamDecoder :=
  d.discard ((nextPrelude d.buffer).getD (d.buffer.length - (preludeBytes - 1)))

/-- The body of a frame whose prelude is valid and whose bytes are all there. -/
def decodeBody (p : Prelude) (buffer : List UInt8) :
    Except KiroEventStreamError KiroEventStreamFrame :=
  let messageWithoutCrc := p.totalLength - messageCrcBytes
  let headersEnd := preludeBytes + p.headersLength
  if crc32 (buffer.take messageWithoutCrc) ≠ readU32 (buffer.drop messageWithoutCrc) then
    .error .messageCrcMismatch
  else do
    let headers ← parseHeaders ((buffer.take headersEnd).drop preludeBytes)
    return { headers, payload := (buffer.take messageWithoutCrc).drop headersEnd }

/-- One frame from the front of the buffer, or nothing until more bytes arrive. -/
def nextFrame :
    Except KiroEventStreamError (Option KiroEventStreamFrame) × KiroEventStreamDecoder :=
  if d.stopped then (.error .stopped, d)
  else if d.buffer.length < preludeBytes then (.ok none, d)
  else
    match parsePrelude (d.buffer.take preludeBytes) with
    | .error error =>
      let (error, d) := d.resynchronizePrelude.recover error
      (.error error, d)
    | .ok p =>
      if d.buffer.length < p.totalLength then (.ok none, d)
      else
        match decodeBody p d.buffer with
        | .error error =>
          let (error, d) := (d.discard p.totalLength).recover error
          (.error error, d)
        | .ok frame =>
          (.ok (some frame), { d.discard p.totalLength with consecutiveErrors := 0 })

/-- The end of the body: nothing may be left in the buffer. -/
def finish : Except KiroEventStreamError Unit × KiroEventStreamDecoder :=
  if d.stopped then (.error .stopped, d)
  else if d.buffer.isEmpty then (.ok (), d)
  else (.error .truncatedFrame, d.stop)

end KiroEventStreamDecoder

end CpaGateway.Kiro.EventStream
