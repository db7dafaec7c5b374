import RecordSchema.Definition.Basic
import RecordSchema.Hash.Sha256

set_option autoImplicit false

/-!
The checksum of a batch of definitions with their segments. Control characters end each segment,
the list of segments, and each definition.
-/

namespace RecordSchema.Checksum

def utf8 (cs : List Char) : List UInt8 := cs.flatMap String.utf8EncodeChar

def segmentBytes (segment : String) : List UInt8 := utf8 segment.toList ++ [0x1f]

def entryBytes (segments : List String) (d : Definition) : List UInt8 :=
  segments.flatMap segmentBytes ++ 0x1e :: utf8 d.chars ++ [0x1d]

/-- What is hashed for a batch. -/
def batchBytes (batch : List (List String × Definition)) : List UInt8 :=
  batch.flatMap fun entry => entryBytes entry.1 entry.2

def ofBatch (batch : List (List String × Definition)) : String :=
  Sha256.digest (batchBytes batch)

/-- The first twelve digits. -/
def short (checksum : String) : String := String.ofList (checksum.toList.take 12)

end RecordSchema.Checksum
