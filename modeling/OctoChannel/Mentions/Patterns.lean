import OctoChannel.Foundation.Splice
import OctoChannel.Foundation.Utf16
import OctoChannel.Identity.Ids

/-! The patterns of mentions: `@name` in a message, and the structured envelope
`@[uid:name]` with what keeps a sender's text out of it. -/

namespace OctoChannel.Mentions

open Foundation Identity

/-- `\w`: beyond ASCII the letters, digits and marks of Unicode are given. -/
structure WordChars where
  isWord : CodePoint → Bool
  ascii : ∀ point : CodePoint, point.val < 0x80 →
    isWord point = (isAsciiAlnum point || point = ch '_')

variable (words : WordChars)

/-- The class of the name characters. -/
def nameChar (point : CodePoint) : Bool :=
  words.isWord point || (0xc0 ≤ point.val && point.val ≤ 0x24f) ||
    (0x4e00 ≤ point.val && point.val ≤ 0x9fff) || (0x3040 ≤ point.val && point.val ≤ 0x30ff) ||
    (0xac00 ≤ point.val && point.val ≤ 0xd7af) || point = ch '.' || point = ch '-'

/-- Start of the text, or behind anything but an ASCII letter or digit; every white space
character is one. -/
def mentionBoundary (previous : Option CodePoint) : Bool :=
  previous.all fun point => !isAsciiAlnum point

structure MentionMatch where
  start : Nat
  name : PyStr
  deriving DecidableEq

/-- The search of `finditer`: `skip` characters still belong to the match before. -/
def scanMentions : Option CodePoint → Nat → Nat → PyStr → List MentionMatch
  | _, _, _, [] => []
  | previous, position, skip, point :: rest =>
    if 0 < skip then scanMentions (some point) (position + 1) (skip - 1) rest
    else
      let name := rest.takeWhile (nameChar words)
      if point = ch '@' && mentionBoundary previous && name ≠ [] then
        ⟨position, name⟩ :: scanMentions (some point) (position + 1) name.length rest
      else scanMentions (some point) (position + 1) 0 rest

/-- `MENTION_PATTERN.finditer` -/
def mentionMatches (content : PyStr) : List MentionMatch := scanMentions words none 0 0 content

def uidChar (point : CodePoint) : Bool :=
  words.isWord point || point = ch '.' || point = ch '-'

def envelopeNameChar (point : CodePoint) : Bool := point ≠ ch ']' && point.val ≠ 0x0a

/-- The envelope that starts here. Neither class holds what must follow it, so each takes
all it can. -/
def envelopeHere (text : PyStr) : Option (PyStr × PyStr) :=
  let body := text.drop 2
  let uid := body.takeWhile (uidChar words)
  let rest := body.dropWhile (uidChar words)
  let name := (rest.drop 1).takeWhile envelopeNameChar
  let last := (rest.drop 1).dropWhile envelopeNameChar
  if text.take 2 = [ch '@', ch '['] ∧ uid ≠ [] ∧ rest.head? = some (ch ':') ∧ name ≠ [] ∧
      last.head? = some (ch ']') then some (uid, name)
  else none

structure StructuredMention where
  uid : PyStr
  name : PyStr
  offset : Nat
  length : Nat
  deriving DecidableEq

def envelopeLength (uid name : PyStr) : Nat := uid.length + name.length + 4

def scanEnvelopes : Nat → Nat → PyStr → List StructuredMention
  | _, _, [] => []
  | position, skip, point :: rest =>
    if 0 < skip then scanEnvelopes (position + 1) (skip - 1) rest
    else
      match envelopeHere words (point :: rest) with
      | some (uid, name) =>
        ⟨uid, name, position, envelopeLength uid name⟩ ::
          scanEnvelopes (position + 1) (envelopeLength uid name - 1) rest
      | none => scanEnvelopes (position + 1) 0 rest

/-- `parse_structured_mentions` -/
def parseStructuredMentions (text : PyStr) : List StructuredMention := scanEnvelopes words 0 0 text

/-- `text.replace("@[", "＠[")`: the bracket stays. -/
def neutralizeStructuredMentionEnvelopes : PyStr → PyStr
  | [] => []
  | point :: rest =>
    (if point = ch '@' && rest.head? = some (ch '[') then ch '＠' else point) ::
      neutralizeStructuredMentionEnvelopes rest

/-- A uid with the name that stands behind it. -/
structure Envelope where
  uid : PyStr
  name : PyStr
  deriving DecidableEq

/-- `@[uid:name]` -/
def Envelope.text (envelope : Envelope) : PyStr :=
  ch '@' :: ch '[' :: envelope.uid ++ ch ':' :: envelope.name ++ [ch ']']

structure Replacement where
  start : Nat
  stop : Nat
  envelope : Envelope

def Replacement.patch (replacement : Replacement) : Patch CodePoint :=
  ⟨replacement.start, replacement.stop, replacement.envelope.text⟩

/-- `_render_trusted_replacements` -/
def renderTrustedReplacements (content : PyStr) (replacements : List Replacement) : PyStr :=
  splice neutralizeStructuredMentionEnvelopes content 0 (replacements.map Replacement.patch)

end OctoChannel.Mentions
