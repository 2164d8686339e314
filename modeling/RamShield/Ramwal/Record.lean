import RamShield.Foundation.Bytes
import RamShield.Types.Basic

/-! # RAMWAL records

The on-disk record: a header of 23 bytes with the checksum of the stored payload,
then the stored payload, which is the payload itself or its compressed form. The
checksum is a function, the compressor one that its decompressor inverts.
-/

namespace RamShield.Ramwal

open Foundation List

def headerSize : Nat := 23

def maxRecordSize : Nat := 64 * 1024

/-- `RECORD_MAGIC`: `RWL1`. -/
def recordMagic : List UInt8 := [0x52, 0x57, 0x4c, 0x31]

def formatVersion : Nat := 1

def flagCompressed : UInt8 := 0x01

/-- `Corruption`: a complete record that fails validation. -/
inductive Corruption
  | invalidMagic (offset : Nat)
  | unsupportedVersion (offset version : Nat)
  | invalidLength (offset length : Nat)
  | invalidFlags (offset : Nat) (flags : UInt8)
  | checksumMismatch (offset lsn : Nat)
  | lsnViolation (previous current : Nat)
  | nonFinalSegmentTail (offset : Nat)
  | payloadDecode (offset lsn : Nat) (reason : String)
  deriving DecidableEq

structure RecordHeader where
  lsn : Nat
  payloadLen : Nat
  crc32c : Nat
  flags : UInt8
  deriving DecidableEq

/-- The libraries of the format: the checksum, and the LZ4 block under its size. -/
structure Format where
  crc : List UInt8 → UInt32
  compressBlock : List UInt8 → List UInt8
  decompressSizePrepended : List UInt8 → Except String (List UInt8)
  inverts : ∀ raw, decompressSizePrepended (leBytes 4 raw.length ++ compressBlock raw) = .ok raw
  bounded : ∀ raw, raw.length ≤ maxRecordSize →
    (leBytes 4 raw.length ++ compressBlock raw).length < 2 ^ 32

namespace Format

variable (format : Format)

def compressPrependSize (raw : List UInt8) : List UInt8 :=
  leBytes 4 raw.length ++ format.compressBlock raw

def crc32cOf (lsn payloadLen : Nat) (flags : UInt8) (payload : List UInt8) : Nat :=
  (format.crc (leBytes 8 lsn ++ leBytes 4 payloadLen ++ [flags] ++ payload)).toNat

def encodePayload (raw : List UInt8) (compress : Bool) (minBytes : Nat) : List UInt8 × UInt8 :=
  if compress && minBytes < raw.length then (format.compressPrependSize raw, flagCompressed)
  else (raw, 0x00)

def decodePayload (data : List UInt8) (flags : UInt8) (maxSize : Nat) :
    Except String (List UInt8) :=
  if flags &&& flagCompressed = 0 then
    if maxSize < data.length then
      .error ("payload size " ++ toString data.length ++ " > max " ++ toString maxSize)
    else .ok data
  else if data.length < 4 then .error "compressed payload too short"
  else
    let declared := leValue (data.take 4)
    if maxSize < declared then
      .error ("decompressed size " ++ toString declared ++ " > max " ++ toString maxSize)
    else
      match format.decompressSizePrepended data with
      | .error reason => .error ("LZ4 error: " ++ reason)
      | .ok decoded =>
        if decoded.length ≠ declared then
          .error ("decompressed size mismatch: declared " ++ toString declared ++ ", actual " ++
            toString decoded.length)
        else if maxSize < decoded.length then
          .error ("decompressed size " ++ toString decoded.length ++ " > max " ++ toString maxSize)
        else .ok decoded

end Format

namespace RecordHeader

def new (format : Format) (lsn : Nat) (stored : List UInt8) (flags : UInt8) : RecordHeader where
  lsn := lsn
  payloadLen := stored.length % 2 ^ 32
  crc32c := format.crc32cOf lsn (stored.length % 2 ^ 32) flags stored
  flags := flags

def encode (header : RecordHeader) : List UInt8 :=
  recordMagic ++ leBytes 2 formatVersion ++ leBytes 8 header.lsn ++ leBytes 4 header.payloadLen ++
    leBytes 4 header.crc32c ++ [header.flags]

def field (bytes : List UInt8) (offset width : Nat) : List UInt8 := (bytes.drop offset).take width

def decode (bytes : List UInt8) : Option (Except Corruption RecordHeader) :=
  if bytes.length < headerSize then none
  else if field bytes 0 4 ≠ recordMagic then some (.error (.invalidMagic 0))
  else
    let version := leValue (field bytes 4 2)
    if version ≠ formatVersion then some (.error (.unsupportedVersion 4 version))
    else
      let lsn := leValue (field bytes 6 8)
      let plen := leValue (field bytes 14 4)
      if maxRecordSize < plen then some (.error (.invalidLength 14 plen))
      else
        let crc32c := leValue (field bytes 18 4)
        let flags := (bytes.drop 22).headD 0
        if flags &&& ~~~flagCompressed ≠ 0 then some (.error (.invalidFlags 22 flags))
        else some (.ok ⟨lsn, plen, crc32c, flags⟩)

def verifyCrc (format : Format) (header : RecordHeader) (stored : List UInt8) :
    Except Corruption Unit :=
  if format.crc32cOf header.lsn header.payloadLen header.flags stored ≠ header.crc32c then
    .error (.checksumMismatch 18 header.lsn)
  else .ok ()

@[simp] lemma length_encode (header : RecordHeader) : header.encode.length = headerSize := by
  simp [encode, recordMagic, headerSize]

/-- The fields fit their widths. -/
structure Fits (header : RecordHeader) : Prop where
  lsn : header.lsn < 2 ^ 64
  payloadLen : header.payloadLen < 2 ^ 32
  crc32c : header.crc32c < 2 ^ 32
  flags : header.flags &&& ~~~flagCompressed = 0

lemma decode_encode {header : RecordHeader} (hfits : header.Fits) :
    decode header.encode =
      if maxRecordSize < header.payloadLen then
        some (.error (.invalidLength 14 header.payloadLen))
      else some (.ok header) := by
  have hlsn : leValue (field header.encode 6 8) = header.lsn := by
    rw [show field header.encode 6 8 = leBytes 8 header.lsn from rfl]
    exact leValue_leBytes_of_lt (by simpa using hfits.lsn)
  have hplen : leValue (field header.encode 14 4) = header.payloadLen := by
    rw [show field header.encode 14 4 = leBytes 4 header.payloadLen from rfl]
    exact leValue_leBytes_of_lt (by simpa using hfits.payloadLen)
  have hcrc : leValue (field header.encode 18 4) = header.crc32c := by
    rw [show field header.encode 18 4 = leBytes 4 header.crc32c from rfl]
    exact leValue_leBytes_of_lt (by simpa using hfits.crc32c)
  have hmagic : field header.encode 0 4 = recordMagic := rfl
  have hversion : leValue (field header.encode 4 2) = formatVersion := rfl
  have hflags : (header.encode.drop 22).headD 0 = header.flags := rfl
  simp only [decode, length_encode, lt_irrefl, if_false, hmagic, hversion, hlsn, hplen, hcrc,
    hflags, hfits.flags, ne_eq, not_true_eq_false]

end RecordHeader

/-- A record as the log gives it back: `RecoveredRecord`. -/
structure Record where
  lsn : Nat
  payload : List UInt8
  deriving DecidableEq

/-! ## Entries of the log -/

/-- The payload size up to which `append` does not compress. -/
def compressMinBytes : Nat := 64

/-- What an append writes: a record, and whether the writer compresses. -/
structure Entry extends Record where
  compress : Bool
  deriving DecidableEq

namespace Entry

variable (format : Format)

variable (entry : Entry)

def stored : List UInt8 := (format.encodePayload entry.payload entry.compress compressMinBytes).1

/-- The header that `append` writes before it. -/
def header : RecordHeader :=
  .new format entry.lsn (entry.stored format)
    (format.encodePayload entry.payload entry.compress compressMinBytes).2

def encode (entry : Entry) : List UInt8 := (entry.header format).encode ++ entry.stored format

def size : Nat := headerSize + (entry.stored format).length

/-- What `append` lets through: the bound is on the payload, not on what is stored. -/
structure Accepted : Prop where
  lsn : entry.lsn < 2 ^ 64
  payload : entry.payload.length ≤ maxRecordSize

/-- What recovery can read: the bound is on what is stored. -/
def Readable : Prop := (entry.stored format).length ≤ maxRecordSize

instance (entry : Entry) : Decidable (entry.Readable format) := inferInstanceAs (Decidable (_ ≤ _))

@[simp] lemma length_encode : (entry.encode format).length = entry.size format := by
  rw [encode, length_append, RecordHeader.length_encode, size]

lemma encode_ne_nil : entry.encode format ≠ [] := by
  rw [ne_eq, ← length_eq_zero_iff, length_encode, size, headerSize]
  omega

variable {format}

lemma encodePayload_cases (format : Format) (raw : List UInt8) (compress : Bool) :
    format.encodePayload raw compress compressMinBytes = (raw, 0) ∨
      format.encodePayload raw compress compressMinBytes =
        (format.compressPrependSize raw, flagCompressed) := by
  rw [Format.encodePayload]
  split
  · exact .inr rfl
  · exact .inl rfl

lemma header_fits {entry : Entry} (haccepted : entry.Accepted) : (entry.header format).Fits where
  lsn := haccepted.lsn
  payloadLen := Nat.mod_lt _ (by decide)
  crc32c := UInt32.toNat_lt _
  flags := by
    change (format.encodePayload entry.payload entry.compress compressMinBytes).2 &&&
      ~~~flagCompressed = 0
    rcases encodePayload_cases format entry.payload entry.compress with hplain | hpacked
    · rw [hplain]
      exact (by decide : (0 : UInt8) &&& ~~~flagCompressed = 0)
    · rw [hpacked]
      exact (by decide : flagCompressed &&& ~~~flagCompressed = 0)

lemma length_stored_lt {entry : Entry} (haccepted : entry.Accepted) :
    (entry.stored format).length < 2 ^ 32 := by
  rw [stored]
  rcases encodePayload_cases format entry.payload entry.compress with hplain | hpacked
  · rw [hplain]
    have hsize := haccepted.payload
    rw [maxRecordSize] at hsize
    exact Nat.lt_of_le_of_lt hsize (by decide)
  · rw [hpacked]
    exact format.bounded entry.payload haccepted.payload

lemma header_payloadLen {entry : Entry} (haccepted : entry.Accepted) :
    (entry.header format).payloadLen = (entry.stored format).length :=
  Nat.mod_eq_of_lt (length_stored_lt haccepted)

lemma decodePayload_encodePayload {raw : List UInt8} (hsize : raw.length ≤ maxRecordSize)
    (compress : Bool) :
    format.decodePayload (format.encodePayload raw compress compressMinBytes).1
      (format.encodePayload raw compress compressMinBytes).2 maxRecordSize = .ok raw := by
  rcases encodePayload_cases format raw compress with hplain | hpacked
  · rw [hplain]
    have hflags : (0 : UInt8) &&& flagCompressed = 0 := by decide
    rw [Format.decodePayload, if_pos hflags, if_neg (Nat.not_lt.mpr hsize)]
  · have hflags : ¬flagCompressed &&& flagCompressed = 0 := by decide
    have hlength : ¬(format.compressPrependSize raw).length < 4 := by
      rw [Format.compressPrependSize, length_append, length_leBytes]
      omega
    have hdeclared : leValue ((format.compressPrependSize raw).take 4) = raw.length := by
      rw [Format.compressPrependSize, take_left' (length_leBytes _ _)]
      apply leValue_leBytes_of_lt
      rw [maxRecordSize] at hsize
      omega
    have hblock : format.decompressSizePrepended (format.compressPrependSize raw) = .ok raw :=
      format.inverts raw
    rw [hpacked, Format.decodePayload, if_neg hflags, if_neg hlength]
    simp only [hdeclared, if_neg (Nat.not_lt.mpr hsize), hblock, ne_eq, not_true_eq_false, if_false]

end Entry

end RamShield.Ramwal
