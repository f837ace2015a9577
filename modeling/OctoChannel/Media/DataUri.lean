import OctoChannel.Foundation.Codecs

namespace OctoChannel.Media

open Foundation

/-- `_DATA_URI_EXTENSION_MAP` -/
def dataUriExtensionMap : List (PyStr × PyStr) :=
  [(py "text/plain", py ".txt"), (py "text/markdown", py ".md"),
    (py "application/json", py ".json"), (py "application/pdf", py ".pdf"),
    (py "image/png", py ".png"), (py "image/jpeg", py ".jpg"), (py "image/gif", py ".gif"),
    (py "image/webp", py ".webp"), (py "audio/mpeg", py ".mp3"), (py "audio/wav", py ".wav"),
    (py "video/mp4", py ".mp4")]

structure DecodedMedia where
  data : Bytes
  contentType : PyStr
  filename : PyStr

def invalidDataUri : PyError := .valueError "invalid media data URI"

def mediaExceeds (maxSize : Int) : PyError :=
  .valueError s!"media exceeds the {maxSize}-byte limit"

/-- `re.sub(r"\s+", "", encoded)` -/
def compact (encoded : PyStr) : PyStr := encoded.filter fun point => !point.isWhitespace

/-- `estimated_size` -/
def estimatedSize (compacted : PyStr) : Int :=
  (compacted.length * 3 / 4 : Nat) - (base64Padding compacted : Int)

/-- The `try` block: whatever a decoder raises becomes the one message. -/
def decodeBody (isBase64 : Bool) (encoded : PyStr) (maxSize : Int) : Except PyError Bytes :=
  if isBase64 then
    if estimatedSize (compact encoded) > maxSize then .error (mediaExceeds maxSize)
    else match b64decode (compact encoded) with
      | some data => .ok data
      | none => .error invalidDataUri
  else
    if encoded.length > maxSize * 3 then .error (mediaExceeds maxSize)
    else match unquoteToBytes encoded with
      | some data => .ok data
      | none => .error invalidDataUri

section Uri

variable (lower : PyStr → PyStr)

def contentTypeOf (header : PyStr) : PyStr :=
  let named := lower (strip ((header.splitOn (ch ';')).headD []))
  if named = [] then py "application/octet-stream" else named

/-- `any(part.strip().lower() == "base64" for part in parts[1:])` -/
def isBase64 (header : PyStr) : Bool :=
  (header.splitOn (ch ';')).tail.any fun part => lower (strip part) = py "base64"

/-- `decode_media_data_uri` -/
def decodeMediaDataUri (source : PyStr) (maxSize : Int) : Except PyError DecodedMedia :=
  if ¬ py "data:" <+: source ∨ ch ',' ∉ source ∨ maxSize ≤ 0 then .error invalidDataUri
  else do
    let header := (source.drop 5).takeWhile (· ≠ ch ',')
    let encoded := ((source.drop 5).dropWhile (· ≠ ch ',')).drop 1
    let contentType := contentTypeOf lower header
    let data ← decodeBody (isBase64 lower header) encoded maxSize
    if data.length > maxSize then throw (mediaExceeds maxSize)
    let extension := (dataUriExtensionMap.lookup contentType).getD (py ".bin")
    return ⟨data, contentType, py "file" ++ extension⟩

end Uri

/-- The estimate of a well-formed body in base64 is its length. -/
theorem estimatedSize_eq {compacted : PyStr} {data : Bytes}
    (decoded : b64decode compacted = some data) : estimatedSize compacted = data.length := by
  obtain ⟨groups, size, total⟩ := length_b64decode decoded
  have whole : compacted.length * 3 / 4 = 3 * groups := by
    rw [size]
    omega
  rw [estimatedSize, whole]
  omega

theorem length_le_of_unquote {encoded : PyStr} {data : Bytes} {maxSize : Int}
    (decoded : unquoteToBytes encoded = some data) (within : data.length ≤ maxSize) :
    encoded.length ≤ maxSize * 3 := by
  have least := length_le_unquoteToBytes decoded
  omega

/-- The bytes of a well-formed body. -/
def bodyBytes (isBase64 : Bool) (encoded : PyStr) : Option Bytes :=
  if isBase64 then b64decode (compact encoded) else unquoteToBytes encoded

/-- A body comes through when it is well-formed and within the limit; a body that comes
through above it is not in base64. -/
private theorem decodeBody_of_bytes {base64 : Bool} {encoded : PyStr} {data : Bytes} {maxSize : Int}
    (decoded : bodyBytes base64 encoded = some data) (within : data.length ≤ maxSize) :
    decodeBody base64 encoded maxSize = .ok data := by
  cases base64 with
  | true =>
    have read : b64decode (compact encoded) = some data := decoded
    rw [decodeBody, if_pos rfl, estimatedSize_eq read, if_neg (Int.not_lt.mpr within), read]
  | false =>
    have read : unquoteToBytes encoded = some data := decoded
    have fits := length_le_of_unquote read within
    rw [decodeBody, if_neg Bool.false_ne_true, if_neg (Int.not_lt.mpr fits), read]

private theorem bytes_of_decodeBody {base64 : Bool} {encoded : PyStr} {data : Bytes} {maxSize : Int}
    (returned : decodeBody base64 encoded maxSize = .ok data) :
    bodyBytes base64 encoded = some data := by
  cases base64 with
  | true =>
    rw [decodeBody, if_pos rfl] at returned
    split at returned
    · cases returned
    · cases read : b64decode (compact encoded) with
      | none =>
        rw [read] at returned
        cases returned
      | some bytes =>
        rw [read] at returned
        cases returned
        exact read
  | false =>
    rw [decodeBody, if_neg Bool.false_ne_true] at returned
    split at returned
    · cases returned
    · cases read : unquoteToBytes encoded with
      | none =>
        rw [read] at returned
        cases returned
      | some bytes =>
        rw [read] at returned
        cases returned
        exact read

section Comma

variable {header body : PyStr}

private theorem takeWhile_header (noComma : ch ',' ∉ header) :
    (header ++ ch ',' :: body).takeWhile (· ≠ ch ',') = header := by
  rw [List.takeWhile_append_of_pos]
  · simp
  · intro point member
    simpa using fun same : point = ch ',' => noComma (same ▸ member)

private theorem dropWhile_header (noComma : ch ',' ∉ header) :
    ((header ++ ch ',' :: body).dropWhile (· ≠ ch ',')).drop 1 = body := by
  rw [List.dropWhile_append_of_pos]
  · simp
  · intro point member
    simpa using fun same : point = ch ',' => noComma (same ▸ member)

end Comma

section Whole

variable (lower : PyStr → PyStr)

/-- What is returned for a body. -/
def mediaOf (header : PyStr) (data : Bytes) : DecodedMedia where
  data
  contentType := contentTypeOf lower header
  filename := py "file" ++
    (dataUriExtensionMap.lookup (contentTypeOf lower header)).getD (py ".bin")

theorem decodeMediaDataUri_split {header : PyStr} (noComma : ch ',' ∉ header) (body : PyStr)
    {maxSize : Int} (positive : 0 < maxSize) :
    decodeMediaDataUri lower (py "data:" ++ (header ++ ch ',' :: body)) maxSize =
      (decodeBody (isBase64 lower header) body maxSize).bind fun data =>
        if data.length > maxSize then .error (mediaExceeds maxSize)
        else .ok (mediaOf lower header data) := by
  have admitted : ¬ (¬ py "data:" <+: py "data:" ++ (header ++ ch ',' :: body) ∨
      ch ',' ∉ py "data:" ++ (header ++ ch ',' :: body) ∨ maxSize ≤ 0) := by
    rintro (strange | plain | empty)
    · exact strange (List.prefix_append _ _)
    · exact plain (List.mem_append_right _ (List.mem_append_right _ List.mem_cons_self))
    · omega
  have rest : (py "data:" ++ (header ++ ch ',' :: body)).drop 5 = header ++ ch ',' :: body :=
    List.drop_left' rfl
  rw [decodeMediaDataUri, if_neg admitted, rest, takeWhile_header noComma, dropWhile_header noComma]
  dsimp only
  cases decodeBody (isBase64 lower header) body maxSize with
  | error raised => rfl
  | ok data =>
    change (if data.length > maxSize then _ else _) = (if data.length > maxSize then _ else _)
    split
    · rfl
    · rfl

/-- What is accepted is a data URI with a comma. -/
private theorem source_of_ok {source : PyStr} {maxSize : Int} {media : DecodedMedia}
    (returned : decodeMediaDataUri lower source maxSize = .ok media) :
    0 < maxSize ∧ ∃ header body,
      source = py "data:" ++ (header ++ ch ',' :: body) ∧ ch ',' ∉ header := by
  by_cases refused : ¬ py "data:" <+: source ∨ ch ',' ∉ source ∨ maxSize ≤ 0
  · rw [decodeMediaDataUri, if_pos refused] at returned
    cases returned
  · simp only [not_or, not_not, Int.not_le] at refused
    obtain ⟨⟨rest, rfl⟩, comma, positive⟩ := refused
    have inner : ch ',' ∈ rest := (List.mem_append.mp comma).resolve_left (by decide)
    obtain ⟨header, body, split, noComma⟩ := List.eq_append_cons_of_mem inner
    exact ⟨positive, header, body, by rw [split], noComma⟩

/-- The limit on the size of a data URI is exact: what is well-formed and within it comes back,
nothing else does, and the estimates refuse no body that is within the limit and every
body in base64 that is above it. -/
theorem dataUri_exact :
    (∀ source maxSize data,
      (∃ media, decodeMediaDataUri lower source maxSize = .ok media ∧ media.data = data) ↔
        0 < maxSize ∧ ∃ header body, source = py "data:" ++ (header ++ ch ',' :: body) ∧
          ch ',' ∉ header ∧ bodyBytes (isBase64 lower header) body = some data ∧
          data.length ≤ maxSize) ∧
    (∀ (body : PyStr) (data : Bytes) (maxSize : Int), b64decode (compact body) = some data →
      (estimatedSize (compact body) > maxSize ↔ data.length > maxSize)) ∧
    ∀ (body : PyStr) (data : Bytes) (maxSize : Int), unquoteToBytes body = some data →
      data.length ≤ maxSize → ¬ body.length > maxSize * 3 := by
  refine ⟨?_, ?_, ?_⟩
  · intro source maxSize data
    constructor
    · rintro ⟨media, returned, rfl⟩
      obtain ⟨positive, header, body, rfl, noComma⟩ := source_of_ok lower returned
      rw [decodeMediaDataUri_split lower noComma body positive] at returned
      cases read : decodeBody (isBase64 lower header) body maxSize with
      | error raised =>
        rw [read] at returned
        cases returned
      | ok data =>
        rw [read] at returned
        change (if data.length > maxSize then _ else _) = _ at returned
        split at returned
        · cases returned
        · rename_i within
          cases returned
          exact ⟨positive, header, body, rfl, noComma, bytes_of_decodeBody read, by
            change (data.length : Int) ≤ maxSize
            omega⟩
    · rintro ⟨positive, header, body, rfl, noComma, decoded, within⟩
      refine ⟨mediaOf lower header data, ?_, rfl⟩
      rw [decodeMediaDataUri_split lower noComma body positive, decodeBody_of_bytes decoded within]
      exact if_neg (Int.not_lt.mpr within)
  · intro body data maxSize decoded
    rw [estimatedSize_eq decoded]
  · intro body data maxSize decoded within
    exact Int.not_lt.mpr (length_le_of_unquote decoded within)

end Whole

end OctoChannel.Media
