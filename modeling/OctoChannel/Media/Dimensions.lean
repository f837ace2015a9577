import OctoChannel.Protocol.WireRoundTrip

namespace OctoChannel.Media

open Foundation Protocol

/-- `data[offset]` -/
def byteAt (data : Bytes) (offset : Nat) : Except PyError UInt8 :=
  match data[offset]? with
  | some byte => .ok byte
  | none => .error .indexError

/-- `data[start : start + count]` -/
def slice (data : Bytes) (start count : Nat) : Bytes := (data.drop start).take count

/-- `struct.unpack` of a big-endian number; a slice that is too short raises. -/
def unpackBig (data : Bytes) (start count : Nat) : Except PyError Nat :=
  if (slice data start count).length = count then .ok (bigEndian (slice data start count))
  else .error .structError

/-- `struct.unpack` of a little-endian number. -/
def unpackLittle (data : Bytes) (start count : Nat) : Except PyError Nat :=
  if (slice data start count).length = count then .ok (bigEndian (slice data start count).reverse)
  else .error .structError

/-- The marker loop from an offset on; the result is the width and the height. -/
def scanMarkers (data : Bytes) (offset : Nat) : Except PyError (Option (Nat × Nat)) :=
  if within : offset + 8 < data.length then do
    if (← byteAt data offset) ≠ 0xff then return none
    let marker ← byteAt data (offset + 1)
    if marker = 0xc0 ∨ marker = 0xc2 then
      let height ← unpackBig data (offset + 5) 2
      let width ← unpackBig data (offset + 7) 2
      return some (width, height)
    let segLen ← unpackBig data (offset + 2) 2
    scanMarkers data (offset + 2 + segLen)
  else .ok none
termination_by data.length - offset

/-- The body of the `try` block. -/
def readDimensions (data : Bytes) (mime : PyStr) : Except PyError (Option (Nat × Nat)) :=
  if mime = py "image/png" ∧ 24 < data.length then do
    let width ← unpackBig data 16 4
    let height ← unpackBig data 20 4
    return some (width, height)
  else if (mime = py "image/jpeg" ∨ mime = py "image/jpg") ∧ 2 < data.length then
    scanMarkers data 2
  else if mime = py "image/gif" ∧ 10 < data.length then do
    let width ← unpackLittle data 6 2
    let height ← unpackLittle data 8 2
    return some (width, height)
  else if mime = py "image/webp" ∧ 30 < data.length ∧
      slice data 12 4 = [0x56, 0x50, 0x38, 0x20] then do
    let width ← unpackLittle data 26 2
    let height ← unpackLittle data 28 2
    return some (width % 0x4000, height % 0x4000)
  else .ok none

/-- `parse_image_dimensions`: any exception counts as no result. -/
def parseImageDimensions (data : Bytes) (mime : PyStr) : Option (Nat × Nat) :=
  match readDimensions data mime with
  | .ok found => found
  | .error _ => none

section Reads

variable {data : Bytes} {offset start count : Nat}

theorem byteAt_ok (within : offset < data.length) : ∃ byte, byteAt data offset = .ok byte := by
  rw [byteAt, List.getElem?_eq_getElem within]
  exact ⟨_, rfl⟩

private theorem length_slice (within : start + count ≤ data.length) :
    (slice data start count).length = count := by
  rw [slice, List.length_take, List.length_drop]
  omega

theorem unpackBig_ok (within : start + count ≤ data.length) :
    ∃ value, unpackBig data start count = .ok value := by
  rw [unpackBig, if_pos (length_slice within)]
  exact ⟨_, rfl⟩

end Reads

def isFrame (marker : UInt8) : Prop := marker = 0xc0 ∨ marker = 0xc2

instance (marker : UInt8) : Decidable (isFrame marker) :=
  inferInstanceAs (Decidable (marker = 0xc0 ∨ marker = 0xc2))

/-- What one round reads at its offset. -/
structure Round (data : Bytes) (offset : Nat) (first marker : UInt8) (segLen height width : Nat) :
    Prop where
  within : offset + 8 < data.length
  first : byteAt data offset = .ok first
  marker : byteAt data (offset + 1) = .ok marker
  segLen : unpackBig data (offset + 2) 2 = .ok segLen
  height : unpackBig data (offset + 5) 2 = .ok height
  width : unpackBig data (offset + 7) 2 = .ok width

/-- The bound of the loop covers all the reads of a round. -/
theorem round_of_within {data : Bytes} {offset : Nat} (within : offset + 8 < data.length) :
    ∃ first marker segLen height width, Round data offset first marker segLen height width := by
  obtain ⟨first, readFirst⟩ := @byteAt_ok data offset (by omega)
  obtain ⟨marker, readMarker⟩ := @byteAt_ok data (offset + 1) (by omega)
  obtain ⟨segLen, readLength⟩ := @unpackBig_ok data (offset + 2) 2 (by omega)
  obtain ⟨height, readHeight⟩ := @unpackBig_ok data (offset + 5) 2 (by omega)
  obtain ⟨width, readWidth⟩ := @unpackBig_ok data (offset + 7) 2 (by omega)
  exact ⟨_, _, _, _, _, within, readFirst, readMarker, readLength, readHeight, readWidth⟩

theorem Round.scan {data : Bytes} {offset : Nat} {first marker : UInt8}
    {segLen height width : Nat} (round : Round data offset first marker segLen height width) :
    scanMarkers data offset =
      if first ≠ 0xff then .ok none
      else if isFrame marker then .ok (some (width, height))
      else scanMarkers data (offset + 2 + segLen) := by
  rw [scanMarkers, dif_pos round.within]
  simp only [round.first, round.marker, round.segLen, round.height, round.width, isFrame]
  change (if first ≠ 0xff then _ else _) = _
  split_ifs
  · rfl
  · rfl
  · rfl

/-- The loop ends, and reads within the data only. -/
private theorem scanMarkers_ok (data : Bytes) (offset : Nat) :
    ∃ found, scanMarkers data offset = .ok found := by
  induction offset using scanMarkers.induct data with
  | case1 offset within ih =>
    obtain ⟨first, marker, segLen, height, width, round⟩ := round_of_within within
    rw [round.scan]
    split_ifs
    · exact ⟨none, rfl⟩
    · exact ⟨_, rfl⟩
    · exact ih segLen
  | case2 offset beyond =>
    rw [scanMarkers, dif_neg beyond]
    exact ⟨none, rfl⟩

section Shift

variable (front rest : Bytes)

theorem byteAt_append (offset : Nat) :
    byteAt (front ++ rest) (front.length + offset) = byteAt rest offset := by
  rw [byteAt, byteAt, List.getElem?_append_right (Nat.le_add_right _ _), Nat.add_sub_cancel_left]

private theorem slice_append (start count : Nat) :
    slice (front ++ rest) (front.length + start) count = slice rest start count := by
  rw [slice, slice, List.drop_append, List.drop_eq_nil_of_le (Nat.le_add_right _ _),
    List.nil_append, Nat.add_sub_cancel_left]

theorem unpackBig_append (start count : Nat) :
    unpackBig (front ++ rest) (front.length + start) count = unpackBig rest start count := by
  rw [unpackBig, unpackBig, slice_append]

variable {front rest} in
theorem Round.shift {offset : Nat} {first marker : UInt8} {segLen height width : Nat}
    (round : Round rest offset first marker segLen height width) :
    Round (front ++ rest) (front.length + offset) first marker segLen height width := by
  refine ⟨?_, ?_, ?_, ?_, ?_, ?_⟩
  · have within := round.within
    rw [List.length_append]
    omega
  · exact (byteAt_append front rest offset).trans round.first
  · exact (byteAt_append front rest (offset + 1)).trans round.marker
  · exact (unpackBig_append front rest (offset + 2) 2).trans round.segLen
  · exact (unpackBig_append front rest (offset + 5) 2).trans round.height
  · exact (unpackBig_append front rest (offset + 7) 2).trans round.width

/-- The loop sees only what lies behind its offset. -/
theorem scanMarkers_shift (offset : Nat) :
    scanMarkers (front ++ rest) (front.length + offset) = scanMarkers rest offset := by
  induction offset using scanMarkers.induct rest with
  | case1 offset within ih =>
    obtain ⟨first, marker, segLen, height, width, round⟩ := round_of_within within
    rw [round.scan, round.shift.scan, Nat.add_assoc, Nat.add_assoc, ← Nat.add_assoc offset, ih]
  | case2 offset beyond =>
    have outside : ¬ front.length + offset + 8 < (front ++ rest).length := by
      rw [List.length_append]
      omega
    rw [scanMarkers, dif_neg outside, scanMarkers, dif_neg beyond]

end Shift

/-- A segment that the loop skips: its length counts the two bytes of the length itself. -/
structure Segment where
  marker : UInt8
  payload : Bytes
  plain : ¬ isFrame marker
  short : payload.length + 2 < 65536

def Segment.bytes (segment : Segment) : Bytes :=
  0xff :: segment.marker :: (packInt 2 (segment.payload.length + 2) ++ segment.payload)

/-- A segment with the dimensions of the image. -/
structure Frame where
  marker : UInt8
  precision : UInt8
  height : Nat
  width : Nat
  components : Bytes
  frame : isFrame marker
  heightFits : height < 65536
  widthFits : width < 65536
  short : components.length + 7 < 65536

def Frame.bytes (frame : Frame) : Bytes :=
  0xff :: frame.marker :: (packInt 2 (frame.components.length + 7) ++
    frame.precision :: (packInt 2 frame.height ++ (packInt 2 frame.width ++ frame.components)))

/-- `SOI` -/
def startOfImage : Bytes := [0xff, 0xd8]

/-- A field is read back from where it was put. -/
theorem unpackBig_packInt (front : Bytes) {value : Nat} (small : value < 65536) (rest : Bytes) :
    unpackBig (front ++ (packInt 2 value ++ rest)) front.length 2 = .ok value := by
  have field : slice (packInt 2 value ++ rest) 0 2 = packInt 2 value := by
    rw [slice, List.drop_zero]
    exact List.take_left' (length_packInt 2 value)
  have shifted := unpackBig_append front (packInt 2 value ++ rest) 0 2
  rw [Nat.add_zero] at shifted
  rw [shifted, unpackBig, field, if_pos (length_packInt 2 value), bigEndian_packInt small]

/-- A segment is skipped as a whole, whatever its payload. -/
private theorem scan_segment (segment : Segment) {rest : Bytes} (room : 9 ≤ rest.length) :
    scanMarkers (segment.bytes ++ rest) 0 = scanMarkers rest 0 := by
  have size : segment.bytes.length = 2 + (segment.payload.length + 2) := by
    simp only [Segment.bytes, List.length_cons, List.length_append, length_packInt]
    omega
  obtain ⟨first, marker, segLen, height, width, round⟩ :=
    @round_of_within (segment.bytes ++ rest) 0 (by rw [List.length_append]; omega)
  have prefixed : first = 0xff := (Except.ok.inj round.first).symm
  have marked : marker = segment.marker := (Except.ok.inj round.marker).symm
  have counted : segLen = segment.payload.length + 2 := by
    have read := unpackBig_packInt [0xff, segment.marker] segment.short (segment.payload ++ rest)
    rw [← List.append_assoc (packInt 2 _)] at read
    exact Except.ok.inj (round.segLen.symm.trans read)
  rw [round.scan, prefixed, marked, counted, if_neg (by simp), if_neg segment.plain,
    Nat.zero_add, ← size]
  exact scanMarkers_shift segment.bytes rest 0

theorem length_frame (frame : Frame) : frame.bytes.length = 9 + frame.components.length := by
  simp only [Frame.bytes, List.length_cons, List.length_append, length_packInt]
  omega

/-- The loop ends at a frame. -/
private theorem scan_frame (frame : Frame) (rest : Bytes) :
    scanMarkers (frame.bytes ++ rest) 0 = .ok (some (frame.width, frame.height)) := by
  obtain ⟨first, marker, segLen, height, width, round⟩ :=
    @round_of_within (frame.bytes ++ rest) 0 (by rw [List.length_append, length_frame]; omega)
  have prefixed : first = 0xff := (Except.ok.inj round.first).symm
  have marked : marker = frame.marker := (Except.ok.inj round.marker).symm
  have tall : height = frame.height := by
    have read := unpackBig_packInt
      (0xff :: frame.marker :: (packInt 2 (frame.components.length + 7) ++ [frame.precision]))
      frame.heightFits (packInt 2 frame.width ++ frame.components ++ rest)
    apply Except.ok.inj (round.height.symm.trans ?_)
    simpa [Frame.bytes, packInt] using read
  have wide : width = frame.width := by
    have read := unpackBig_packInt
      (0xff :: frame.marker :: (packInt 2 (frame.components.length + 7) ++
        frame.precision :: packInt 2 frame.height)) frame.widthFits (frame.components ++ rest)
    apply Except.ok.inj (round.width.symm.trans ?_)
    simpa [Frame.bytes, packInt] using read
  rw [round.scan, prefixed, marked, tall, wide, if_neg (by simp), if_pos frame.frame]

private theorem scan_segments (segments : List Segment) (frame : Frame) (rest : Bytes) :
    scanMarkers (segments.flatMap Segment.bytes ++ (frame.bytes ++ rest)) 0 =
      .ok (some (frame.width, frame.height)) := by
  induction segments with
  | nil => exact scan_frame frame rest
  | cons segment others ih =>
    rw [List.flatMap_cons, List.append_assoc, scan_segment segment ?_]
    · exact ih
    · rw [List.length_append, List.length_append, length_frame]
      omega

/-- The marker loop ends within the data, and finds the first frame behind any segments. -/
theorem jpegDimensions_exact :
    (∀ data offset, ∃ found, scanMarkers data offset = .ok found) ∧
      ∀ (segments : List Segment) (frame : Frame) (rest : Bytes),
        ∀ mime ∈ [py "image/jpeg", py "image/jpg"],
          parseImageDimensions (startOfImage ++ (segments.flatMap Segment.bytes ++
            (frame.bytes ++ rest))) mime = some (frame.width, frame.height) := by
  refine ⟨scanMarkers_ok, ?_⟩
  intro segments frame rest mime jpeg
  have long : 2 < (startOfImage ++ (segments.flatMap Segment.bytes ++ (frame.bytes ++ rest))).length := by
    simp only [startOfImage, List.length_append, length_frame, List.length_cons, List.length_nil]
    omega
  have named : mime = py "image/jpeg" ∨ mime = py "image/jpg" := by simpa using jpeg
  have other : mime ≠ py "image/png" := by
    rcases named with rfl | rfl
    · decide
    · decide
  have scanned := (scanMarkers_shift startOfImage _ 0).trans (scan_segments segments frame rest)
  rw [parseImageDimensions, readDimensions, if_neg (fun png => other png.1), if_pos ⟨named, long⟩]
  exact congrArg (fun ended => match ended with | .ok found => found | .error _ => none) scanned

end OctoChannel.Media
