import CpaGateway.Kiro.Segments

/-! # The EventStream round trip

The AWS layout of a frame (`WireFrame.encode`) and the decoder are inverse to each other: each
reader takes back what the writer of the same field put in front (`read…_append`), so the headers
parse to the header map, both checksums match, and an encoded frame is a good segment of any byte
string that starts with it. That makes a concatenation of encoded frames a list of good segments
with nothing left behind, which every split delivers without a failure. -/

namespace CpaGateway.Kiro.RoundTrip

open Lib.BigEndian Kiro.EventStream Kiro.Segments KiroEventStreamDecoder Std.ExtTreeMap

/-! ### The layout -/

def utf8 (text : String) : List UInt8 := text.toByteArray.data.toList

def typeCode : KiroEventStreamHeaderValue → UInt8
  | .boolTrue => 0
  | .boolFalse => 1
  | .byte _ => 2
  | .int16 _ => 3
  | .int32 _ => 4
  | .int64 _ => 5
  | .byteArray _ => 6
  | .string _ => 7
  | .timestamp _ => 8
  | .uuid _ => 9

/-- Bytes behind their two-byte length. -/
def lengthPrefixed (value : List UInt8) : List UInt8 := beBytes 2 value.length ++ value

/-- The bytes of a header value behind its type code. -/
def valueBytes : KiroEventStreamHeaderValue → List UInt8
  | .boolTrue | .boolFalse => []
  | .byte value => beBytes 1 value.toUInt8.toNat
  | .int16 value => beBytes 2 value.toUInt16.toNat
  | .int32 value => beBytes 4 value.toUInt32.toNat
  | .int64 value => beBytes 8 value.toUInt64.toNat
  | .byteArray value => lengthPrefixed value
  | .string value => lengthPrefixed (utf8 value)
  | .timestamp value => beBytes 8 value.toUInt64.toNat
  | .uuid value => value.1

def ValueFits : KiroEventStreamHeaderValue → Prop
  | .byteArray value => value.length ≤ 65535
  | .string value => (utf8 value).length ≤ 65535
  | _ => True

/-- A header that the layout can carry. -/
structure WireHeader where
  name : String
  value : KiroEventStreamHeaderValue
  nameNonempty : name ≠ ""
  nameFits : (utf8 name).length ≤ 255
  valueFits : ValueFits value

def WireHeader.encode (h : WireHeader) : List UInt8 :=
  beBytes 1 (utf8 h.name).length ++ (utf8 h.name ++ (typeCode h.value :: valueBytes h.value))

def encodeHeaders (headers : List WireHeader) : List UInt8 := headers.flatMap WireHeader.encode

def frameLength (headers : List WireHeader) (payload : List UInt8) : ℕ :=
  minFrameBytes + (encodeHeaders headers).length + payload.length

/-- A frame that the layout can carry and the decoder admits. -/
structure WireFrame where
  headers : List WireHeader
  payload : List UInt8
  distinct : (headers.map WireHeader.name).Nodup
  fits : frameLength headers payload ≤ maxFrameBytes

namespace WireFrame

variable (f : WireFrame)

/-- The two lengths at the front. -/
def lengths : List UInt8 :=
  beBytes 4 (frameLength f.headers f.payload) ++ beBytes 4 (encodeHeaders f.headers).length

/-- Everything before the message checksum. -/
def message : List UInt8 :=
  f.lengths ++ beBytes 4 (crc32 f.lengths).toNat ++ encodeHeaders f.headers ++ f.payload

/-- The bytes of the frame in the AWS layout. -/
def encode : List UInt8 := f.message ++ beBytes 4 (crc32 f.message).toNat

/-- The frame as the decoder presents it, with its headers by name. -/
def frame : KiroEventStreamFrame where
  headers := f.headers.foldl (fun m h => m.insert h.name h.value) ∅
  payload := f.payload

end WireFrame

/-! ### Readers take back what was written -/

variable {rest : List UInt8} {n : ℕ}

theorem readExact_append {bytes : List UInt8} (h : bytes.length = n) :
    readExact n (bytes ++ rest) = .ok (⟨bytes, h⟩, rest) := by
  subst h
  unfold readExact
  simp

theorem readByte_append (h : n < 256) :
    readByte (beBytes 1 n ++ rest) = .ok (UInt8.ofNat n, rest) := by
  unfold readByte
  rw [readExact_append (length_beBytes 1 n)]
  simp [bind, Except.bind, beNat_beBytes_of_lt (k := 1) (n := n) (by omega), pure, Except.pure]

theorem readByte_cons (b : UInt8) : readByte (b :: rest) = .ok (b, rest) := by
  have h : b :: rest = [b] ++ rest := rfl
  unfold readByte
  rw [h, readExact_append (show [b].length = 1 from rfl)]
  simp [bind, Except.bind, beNat, pure, Except.pure]

theorem readI16_append (v : Int16) :
    readI16 (beBytes 2 v.toUInt16.toNat ++ rest) = .ok (v, rest) := by
  unfold readI16
  rw [readExact_append (length_beBytes 2 _)]
  simp [bind, Except.bind, beNat_beBytes_of_lt (k := 2) (n := v.toUInt16.toNat)
    (by have := v.toUInt16.toNat_lt; omega), pure, Except.pure]

theorem readI32_append (v : Int32) :
    readI32 (beBytes 4 v.toUInt32.toNat ++ rest) = .ok (v, rest) := by
  unfold readI32
  rw [readExact_append (length_beBytes 4 _)]
  simp [bind, Except.bind, beNat_beBytes_of_lt (k := 4) (n := v.toUInt32.toNat)
    (by have := v.toUInt32.toNat_lt; omega), pure, Except.pure]

theorem readI64_append (v : Int64) :
    readI64 (beBytes 8 v.toUInt64.toNat ++ rest) = .ok (v, rest) := by
  unfold readI64
  rw [readExact_append (length_beBytes 8 _)]
  simp [bind, Except.bind, beNat_beBytes_of_lt (k := 8) (n := v.toUInt64.toNat)
    (by have := v.toUInt64.toNat_lt; omega), pure, Except.pure]

theorem readVariableBytes_append {value : List UInt8} (h : value.length ≤ 65535) :
    readVariableBytes (lengthPrefixed value ++ rest) = .ok (value, rest) := by
  have hlen : value.length = beNat (beBytes 2 value.length) :=
    (beNat_beBytes_of_lt (by omega)).symm
  unfold readVariableBytes lengthPrefixed
  rw [List.append_assoc, readExact_append (length_beBytes 2 _)]
  simp only [bind, Except.bind]
  rw [readExact_append hlen]
  rfl

theorem fromUTF8_utf8 (text : String) : String.fromUTF8? (utf8 text).toByteArray = some text := by
  have h : (utf8 text).toByteArray = text.toByteArray := by
    apply ByteArray.ext
    apply Array.toList_inj.mp
    rw [List.toList_data_toByteArray]
    rfl
  rw [h, String.fromUTF8?, dif_pos text.isValidUTF8]
  rfl

theorem readUtf8_append (text : String) (error : KiroEventStreamError) :
    readUtf8 (utf8 text).length error (utf8 text ++ rest) = .ok (text, rest) := by
  unfold readUtf8
  rw [if_pos (by simp), List.take_left' rfl, List.drop_left' rfl, fromUTF8_utf8]

/-! ### Headers -/

theorem parseHeaderValue_append {value : KiroEventStreamHeaderValue} (h : ValueFits value) :
    parseHeaderValue (typeCode value) (valueBytes value ++ rest) = .ok (value, rest) := by
  cases value with
  | boolTrue => rfl
  | boolFalse => rfl
  | byte v =>
    have := v.toUInt8.toNat_lt
    simp only [typeCode, valueBytes, parseHeaderValue]
    rw [readByte_append (by omega)]
    simp [bind, Except.bind, pure, Except.pure]
  | int16 v =>
    simp [typeCode, valueBytes, parseHeaderValue, readI16_append, bind, Except.bind,
      pure, Except.pure]
  | int32 v =>
    simp [typeCode, valueBytes, parseHeaderValue, readI32_append, bind, Except.bind,
      pure, Except.pure]
  | int64 | timestamp =>
    simp [typeCode, valueBytes, parseHeaderValue, readI64_append, bind, Except.bind,
      pure, Except.pure]
  | byteArray v =>
    simp [typeCode, valueBytes, parseHeaderValue, readVariableBytes_append h, bind, Except.bind,
      pure, Except.pure]
  | string v =>
    simp [typeCode, valueBytes, parseHeaderValue, readVariableBytes_append h, bind, Except.bind,
      fromUTF8_utf8, pure, Except.pure]
  | uuid v =>
    simp [typeCode, valueBytes, parseHeaderValue, readExact_append v.2, bind, Except.bind,
      pure, Except.pure]

theorem utf8_ne_nil {text : String} (h : text ≠ "") : utf8 text ≠ [] := by
  intro hnil
  apply h
  have := fromUTF8_utf8 text
  rw [hnil] at this
  exact (Option.some.inj this).symm

theorem parseHeader_append (h : WireHeader) :
    parseHeader (h.encode ++ rest) = .ok ((h.name, h.value), rest) := by
  have hpos : 0 < (utf8 h.name).length := List.length_pos_iff.mpr (utf8_ne_nil h.nameNonempty)
  have hfits := h.nameFits
  have hnat : (UInt8.ofNat (utf8 h.name).length).toNat = (utf8 h.name).length := by
    rw [UInt8.toNat_ofNat']; omega
  have hne : UInt8.ofNat (utf8 h.name).length ≠ 0 := by
    intro h0
    rw [h0] at hnat
    simp at hnat
    omega
  unfold parseHeader WireHeader.encode
  rw [List.append_assoc, readByte_append (by omega)]
  simp only [bind, Except.bind, if_neg hne, hnat]
  rw [List.append_assoc, readUtf8_append]
  simp only [List.cons_append]
  rw [readByte_cons]
  simp only
  rw [parseHeaderValue_append h.valueFits]
  rfl

theorem parseHeadersLoop_encode : ∀ (headers : List WireHeader) (fuel : ℕ)
    (m : KiroEventStreamHeaders), (encodeHeaders headers).length ≤ fuel →
    (headers.map WireHeader.name).Nodup → (∀ h ∈ headers, m.contains h.name = false) →
      parseHeadersLoop fuel (encodeHeaders headers) m =
        .ok (headers.foldl (fun m h => m.insert h.name h.value) m)
  | [], fuel, m, _, _, _ => by cases fuel <;> rfl
  | h :: headers, fuel, m, hfuel, hnodup, hnew => by
    have hlen : 1 ≤ h.encode.length := by simp [WireHeader.encode]
    have hcons : encodeHeaders (h :: headers) = h.encode ++ encodeHeaders headers := rfl
    rw [hcons, List.length_append] at hfuel
    obtain ⟨fuel, rfl⟩ : ∃ k, fuel = k + 1 := ⟨fuel - 1, by omega⟩
    obtain ⟨b, bs, hb⟩ : ∃ b bs, h.encode ++ encodeHeaders headers = b :: bs :=
      List.exists_cons_of_ne_nil (by simp [WireHeader.encode, beBytes])
    simp only [List.map_cons, List.nodup_cons] at hnodup
    rw [hcons, hb, parseHeadersLoop, ← hb, parseHeader_append]
    simp only [bind, Except.bind]
    rw [if_neg (by simp [hnew h (by simp)])]
    refine parseHeadersLoop_encode headers fuel _ (by omega) hnodup.2 fun h' hh' => ?_
    have hne : h.name ≠ h'.name := fun he => hnodup.1 (he ▸ List.mem_map_of_mem hh')
    rw [contains_insert, hnew h' (by simp [hh'])]
    simp [hne]

theorem parseHeaders_encode {headers : List WireHeader} (h : (headers.map WireHeader.name).Nodup) :
    parseHeaders (encodeHeaders headers) =
      .ok (headers.foldl (fun m h => m.insert h.name h.value) ∅) :=
  parseHeadersLoop_encode headers _ ∅ le_rfl h (by simp)

/-! ### Frames -/

theorem readU32_append (h : n < 2 ^ 32) : readU32 (beBytes 4 n ++ rest) = UInt32.ofNat n := by
  unfold readU32
  rw [List.take_left' (length_beBytes 4 n), beNat_beBytes_of_lt (by omega)]

theorem readU32_crc (crc : UInt32) : readU32 (beBytes 4 crc.toNat ++ rest) = crc := by
  rw [readU32_append crc.toNat_lt]
  simp

namespace WireFrame

variable (f : WireFrame)

@[simp] theorem length_lengths : f.lengths.length = 8 := by simp [lengths]

theorem length_message : f.message.length = frameLength f.headers f.payload - messageCrcBytes := by
  simp only [message, frameLength, List.length_append, length_lengths, length_beBytes,
    minFrameBytes, preludeBytes]
  omega

theorem length_encode : f.encode.length = frameLength f.headers f.payload := by
  simp only [encode, message, frameLength, List.length_append, length_lengths, length_beBytes,
    minFrameBytes, preludeBytes, messageCrcBytes]
  omega

/-- The prelude of an encoded frame. -/
def prelude : Prelude where
  totalLength := frameLength f.headers f.payload
  headersLength := (encodeHeaders f.headers).length

theorem parsePrelude_encode :
    parsePrelude ((f.encode ++ rest).take preludeBytes) = .ok f.prelude := by
  have htake : (f.encode ++ rest).take preludeBytes =
      f.lengths ++ beBytes 4 (crc32 f.lengths).toNat := by
    simp only [encode, message, List.append_assoc]
    rw [← List.append_assoc f.lengths]
    exact List.take_left' (by simp [preludeBytes])
  have hfits := f.fits
  have hlow : minFrameBytes + (encodeHeaders f.headers).length ≤
      frameLength f.headers f.payload := by
    unfold frameLength; omega
  have hmax : maxFrameBytes < 2 ^ 32 := by decide
  have htotal : (readU32 (f.lengths ++ beBytes 4 (crc32 f.lengths).toNat)).toNat =
      frameLength f.headers f.payload := by
    rw [lengths, List.append_assoc, readU32_append (by omega), UInt32.toNat_ofNat']
    omega
  have hheaders : (readU32 ((f.lengths ++ beBytes 4 (crc32 f.lengths).toNat).drop 4)).toNat =
      (encodeHeaders f.headers).length := by
    rw [lengths, List.append_assoc, List.drop_left' (length_beBytes 4 _),
      readU32_append (by omega), UInt32.toNat_ofNat']
    omega
  have hcrc : readU32 ((f.lengths ++ beBytes 4 (crc32 f.lengths).toNat).drop 8) =
      crc32 f.lengths := by
    rw [List.drop_left' f.length_lengths, ← List.append_nil (beBytes 4 _), readU32_crc]
  rw [htake]
  unfold parsePrelude
  simp only [htotal, hheaders, hcrc]
  rw [if_neg (by omega), if_neg (by omega), if_neg (by simp)]
  rfl

theorem decodeBody_encode : decodeBody f.prelude (f.encode ++ rest) = .ok f.frame := by
  have hmsg : (f.encode ++ rest).take (f.prelude.totalLength - messageCrcBytes) = f.message := by
    rw [encode, List.append_assoc]
    exact List.take_left' f.length_message
  have hcrc : readU32 ((f.encode ++ rest).drop (f.prelude.totalLength - messageCrcBytes)) =
      crc32 f.message := by
    rw [show f.prelude.totalLength - messageCrcBytes = f.message.length from f.length_message.symm,
      encode, List.append_assoc, List.drop_left' rfl, readU32_crc]
  have hpre : (f.lengths ++ beBytes 4 (crc32 f.lengths).toNat).length = preludeBytes := by
    simp [preludeBytes]
  have hheaders : ((f.encode ++ rest).take (preludeBytes + f.prelude.headersLength)).drop
      preludeBytes = encodeHeaders f.headers := by
    simp only [encode, message, List.append_assoc]
    rw [← List.append_assoc f.lengths, ← List.append_assoc (f.lengths ++ _),
      List.take_left' (by simp [prelude, preludeBytes]; omega), List.drop_left' hpre]
  have hpayload : f.message.drop (preludeBytes + f.prelude.headersLength) = f.payload := by
    exact List.drop_left' (by simp [prelude, preludeBytes]; omega)
  unfold decodeBody
  simp only [hmsg, hcrc, hheaders, hpayload, parseHeaders_encode f.distinct]
  rw [if_neg (by simp)]
  rfl

/-- **An encoded frame is a good segment** of whatever starts with it. -/
theorem head_encode : head (f.encode ++ rest) = some (.good f.frame, f.encode.length) := by
  have hpre : preludeBytes ≤ f.encode.length := by
    rw [length_encode, frameLength, minFrameBytes]; omega
  unfold head
  rw [if_neg (by simp; omega), parsePrelude_encode]
  simp only
  rw [decodeBody_encode]
  simp [prelude, length_encode]

end WireFrame

theorem getElem?_insertAll : ∀ (headers : List WireHeader) (m : KiroEventStreamHeaders),
    (headers.map WireHeader.name).Nodup → (∀ h ∈ headers, m.contains h.name = false) →
      ∀ name value, (headers.foldl (fun m h => m.insert h.name h.value) m)[name]? = some value ↔
        m[name]? = some value ∨ ∃ h ∈ headers, h.name = name ∧ h.value = value
  | [], m, _, _, name, value => by simp
  | h :: headers, m, hnodup, hnew, name, value => by
    simp only [List.map_cons, List.nodup_cons] at hnodup
    have hnew' : ∀ h' ∈ headers, (m.insert h.name h.value).contains h'.name = false := by
      intro h' hh'
      have hne : h.name ≠ h'.name := fun he => hnodup.1 (he ▸ List.mem_map_of_mem hh')
      rw [contains_insert, hnew h' (by simp [hh'])]
      simp [hne]
    have hfresh : m[h.name]? = none := by
      have hc := hnew h (by simp)
      rw [contains_eq_isSome_getElem?] at hc
      exact Option.isNone_iff_eq_none.mp (Option.isSome_eq_false_iff.mp hc)
    rw [List.foldl_cons, getElem?_insertAll headers _ hnodup.2 hnew' name value,
      getElem?_insert]
    by_cases hname : h.name = name
    · subst hname
      simp [hfresh]
    · simp [hname]

theorem segments_encode : ∀ frames : List WireFrame,
    segments (frames.flatMap WireFrame.encode) = (frames.map WireFrame.frame).map .good ∧
      residue (frames.flatMap WireFrame.encode) = []
  | [] => ⟨segments_none rfl, residue_none rfl⟩
  | f :: frames => by
    obtain ⟨ih, ih'⟩ := segments_encode frames
    have hdrop : (f.encode ++ frames.flatMap WireFrame.encode).drop f.encode.length =
        frames.flatMap WireFrame.encode := List.drop_left' rfl
    rw [List.flatMap_cons, segments_some f.head_encode, residue_some f.head_encode, hdrop, ih, ih']
    exact ⟨rfl, rfl⟩

theorem deliver_good : ∀ (fs : List KiroEventStreamFrame) (ks : List (Segment × ℕ)) (c : ℕ),
    Within (fs.map .good) ks → deliver c ks = ⟨fs, 0, false⟩
  | [], _, _, .nil => rfl
  | f :: fs, (g, k) :: ks, c, .cons ⟨hg, _⟩ h => by
    obtain rfl : g = .good f := hg
    rw [deliver, deliver_good fs ks 0 h]
    rfl

theorem results_of_no_failure : ∀ results : Results,
    failuresOf results = 0 → results = (framesOf results).map .ok
  | [], _ => rfl
  | .ok f :: results, h => by
    have ih := results_of_no_failure results
      (by simpa [failuresOf, Except.isOk, Except.toBool] using h)
    rw [show framesOf (.ok f :: results) = f :: framesOf results from rfl, List.map_cons, ← ih]
  | .error e :: results, h => by simp [failuresOf, Except.isOk, Except.toBool] at h

/-- **The round trip**: every split of encoded frames into admissible chunks decodes to exactly
those frames, in order and without a failure, and the body then finishes. The headers of a frame are
found again by their names. -/
theorem decode_encode (frames : List WireFrame) (chunks : List (List UInt8))
    (hsplit : chunks.flatten = frames.flatMap WireFrame.encode)
    (hc : ∀ chunk ∈ chunks, chunk.length ≤ maxFrameBytes) :
    (runChunks {} chunks).1 = frames.map (fun f => .ok f.frame) ∧
      (runChunks {} chunks).2.finish.1 = .ok () ∧
      ∀ f ∈ frames, f.frame.payload = f.payload ∧ ∀ name value,
        f.frame.headers[name]? = some value ↔
          ∃ h ∈ f.headers, h.name = name ∧ h.value = value := by
  obtain ⟨⟨ks, hk, hdel⟩, hres⟩ := run_delivers chunks hc
  obtain ⟨hseg, hrest⟩ := segments_encode frames
  rw [hsplit, hseg] at hk
  rw [deliver_good _ _ _ hk] at hdel
  simp only [Delivered.mk.injEq] at hdel
  obtain ⟨hframes, hfail, hstop⟩ := hdel
  refine ⟨?_, ?_, fun f _ => ⟨rfl, fun name value => ?_⟩⟩
  · rw [results_of_no_failure _ hfail.symm, ← hframes, List.map_map]
    rfl
  · have hbuf : (runChunks {} chunks).2.buffer = [] := by
      rw [hres hstop.symm, hsplit, hrest]
    simp [finish, ← hstop, hbuf]
  · simpa [WireFrame.frame] using getElem?_insertAll f.headers ∅ f.distinct (by simp) name value

/-- A frame with a text, a number and a flag. -/
def sampleFrame : WireFrame where
  headers :=
    [⟨":event-type", .string "metadata", by decide, by decide, by unfold ValueFits; decide⟩,
      ⟨"n", .int16 (-2), by decide, by decide, trivial⟩,
      ⟨"b", .boolTrue, by decide, by decide, trivial⟩]
  payload := [123, 125]
  distinct := by decide
  fits := by decide +kernel

theorem decode_encode_sample :
    (runChunks {} [sampleFrame.encode.take 9, sampleFrame.encode.drop 9]).1 =
        [.ok sampleFrame.frame] ∧
      (runChunks {} [sampleFrame.encode.take 9, sampleFrame.encode.drop 9]).2.finish.1 = .ok () ∧
      sampleFrame.frame.headers["n"]? = some (.int16 (-2)) := by
  obtain ⟨hframes, hfinish, hheaders⟩ := decode_encode [sampleFrame]
    [sampleFrame.encode.take 9, sampleFrame.encode.drop 9] (by simp) (by decide +kernel)
  refine ⟨hframes, hfinish, ((hheaders _ (by simp)).2 _ _).mpr ?_⟩
  exact ⟨_, List.mem_cons_of_mem _ List.mem_cons_self, rfl, rfl⟩

end CpaGateway.Kiro.RoundTrip
